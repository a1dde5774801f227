import RowQuery.Parse.Reader
import RowQuery.Proofs.Token.Word

/-! What a reader meets on its way through a text: the tokens in order and then the end of the
input, each where it begins. No two begin at the same place, and a word stands in the text as it is
spelled. -/

namespace RowQuery

def Lexeme.reading (l : Lexeme) : Reading :=
  ⟨some l.token, l.start⟩

theorem Literal.rest_suffix (cs : List Char) : (read cs).rest <:+ cs := by
  fun_induction read cs with
  | case1 => exact List.suffix_rfl
  | case2 rest => exact List.suffix_cons '"' rest
  | case3 => exact List.nil_suffix
  | case4 c rest ih => exact ih.trans ((List.suffix_cons c rest).trans (List.suffix_cons _ _))
  | case5 c rest _ _ _ ih => exact ih.trans (List.suffix_cons c rest)

namespace Token

theorem scan_rest_suffix (c : Char) (cs : List Char) : (scan c cs).rest <:+ cs := by
  unfold scan
  repeat' split
  · exact List.suffix_rfl
  · exact List.suffix_rfl
  · exact Literal.rest_suffix cs
  all_goals exact List.dropWhile_suffix _

private theorem prefix_of_run_word {accept : Char → Bool} {c : Char} {cs : List Char} {w : String}
    (h : (Scan.run .word accept c cs).token = .word w) : w.toList <+: c :: cs := by
  cases h
  rw [String.toList_ofList, List.prefix_cons_inj]
  exact List.takeWhile_prefix accept

theorem prefix_of_scan_word {c : Char} {cs : List Char} {w : String}
    (h : (scan c cs).token = .word w) : w.toList <+: c :: cs := by
  unfold scan at h
  split at h
  · cases h
  · split at h
    · cases h
    · split at h
      · cases h
      · split at h
        · cases h
        · split at h
          · exact prefix_of_run_word h
          · exact prefix_of_run_word h

end Token

namespace Cursor

/-- What one call after the other gives, up to the first that meets the end of the input. -/
def readings (c : Cursor) : List Reading :=
  match _h : c.next with
  | (none, d) => [⟨none, d.position⟩]
  | (some l, d) => l.reading :: d.readings
termination_by c.rest.length
decreasing_by exact length_lt_of_next _h

variable {c d : Cursor} {l : Lexeme}

theorem next_cases (c : Cursor) : (∃ d, c.next = (none, d)) ∨ ∃ l d, c.next = (some l, d) := by
  cases h : c.next with
  | mk first d =>
    cases first with
    | none => exact .inl ⟨d, rfl⟩
    | some l => exact .inr ⟨l, d, rfl⟩

theorem rest_of_next_none (h : c.next = (none, d)) : d.rest = [] := by
  unfold next at h
  split at h <;> cases h
  rfl

theorem position_of_next_none (h : c.next = (none, d)) : d.position = c.stop := by
  have hstop := stop_next c
  rw [h] at hstop
  rw [← hstop, stop, rest_of_next_none h, List.length_nil, Nat.add_zero]

theorem stop_of_next (h : c.next = (some l, d)) : d.stop = c.stop := by
  have hstop := stop_next c
  rwa [h] at hstop

theorem readings_eq (c : Cursor) :
    c.readings = c.lexemes.map Lexeme.reading ++ [⟨none, c.stop⟩] := by
  fun_induction readings c with
  | case1 c d h => rw [lexemes_of_next_none h, position_of_next_none h]; rfl
  | case2 c l d h ih =>
    rw [lexemes_of_next_some h, ih, stop_of_next h, List.map_cons, List.cons_append]

theorem position_le_stop (c : Cursor) : c.position ≤ c.stop :=
  Nat.le_add_right _ _

theorem start_bounds (c : Cursor) :
    ∀ r ∈ c.readings, c.position ≤ r.start ∧ r.start ≤ c.stop := by
  fun_induction readings c with
  | case1 c d h =>
    simp only [List.forall_mem_singleton, position_of_next_none h]
    exact ⟨position_le_stop c, Nat.le_refl _⟩
  | case2 c l d h ih =>
    have hl := position_lt_of_next h
    have hd := position_le_stop d
    rw [stop_of_next h] at hd ih
    rw [List.forall_mem_cons]
    refine ⟨⟨hl.1, by simp only [Lexeme.reading]; omega⟩, fun r hr => ?_⟩
    have hr := ih r hr
    omega

theorem ascending_readings (c : Cursor) : c.readings.Pairwise fun r s => r.start < s.start := by
  fun_induction readings c with
  | case1 => simp
  | case2 c l d h ih =>
    have hl := position_lt_of_next h
    rw [List.pairwise_cons]
    refine ⟨fun r hr => ?_, ih⟩
    have hr := (start_bounds d r hr).1
    simp only [Lexeme.reading]
    omega

structure In (c : Cursor) (cs : List Char) : Prop where
  suffix : c.rest <:+ cs
  stop : c.stop = cs.length

theorem stop_ofText (text : String) : (ofText text).stop = text.length := by
  rw [Cursor.stop, ofText, Nat.zero_add, String.length_toList]

theorem in_ofText (text : String) : (ofText text).In text.toList :=
  ⟨List.suffix_rfl, stop_ofText text⟩

theorem In.rest_eq {cs : List Char} (h : c.In cs) : c.rest = cs.drop c.position := by
  have hstop := h.stop
  rw [Cursor.stop] at hstop
  rw [List.suffix_iff_eq_drop.mp h.suffix, ← hstop, Nat.add_sub_cancel_right]

theorem In.skipBlanks {cs : List Char} (h : c.In cs) : c.skipBlanks.In cs :=
  ⟨(List.dropWhile_suffix _).trans h.suffix, (stop_skipBlanks c).trans h.stop⟩

theorem In.next {cs : List Char} (h : c.In cs) (hnext : c.next = (some l, d)) :
    d.In cs ∧ ∀ w, l.token = .word w → w.toList <+: cs.drop l.start := by
  have hskip := h.skipBlanks
  have hstop := stop_of_next hnext
  unfold Cursor.next at hnext
  split at hnext
  · cases hnext
  · rename_i first rest start hs
    cases hnext
    rw [hs] at hskip
    have hrest : first :: rest = cs.drop start := hskip.rest_eq
    refine ⟨⟨?_, hstop.trans h.stop⟩, fun w hw => ?_⟩
    · have htail := (Token.scan_rest_suffix first rest).trans (List.suffix_cons first rest)
      exact htail.trans hskip.suffix
    · rw [← hrest]
      exact Token.prefix_of_scan_word hw

theorem In.word_of_mem {cs : List Char} (h : c.In cs) {w : String} {start : Nat}
    (hmem : ⟨some (.word w), start⟩ ∈ c.readings) : w.toList <+: cs.drop start := by
  fun_induction readings c with
  | case1 => simp at hmem
  | case2 c l d hnext ih =>
    obtain ⟨hd, hword⟩ := h.next hnext
    rcases List.mem_cons.1 hmem with heq | hmem
    · rw [Lexeme.reading, Reading.mk.injEq, Option.some.injEq] at heq
      rw [heq.2]
      exact hword w heq.1.symm
    · exact ih hd hmem

end Cursor

namespace Reading

variable {text : String}

def ofText (text : String) : List Reading :=
  (Cursor.ofText text).readings

theorem ofText_eq (text : String) :
    ofText text = (Lexeme.ofText text).map Lexeme.reading ++ [⟨none, text.length⟩] := by
  rw [ofText, Cursor.readings_eq, Cursor.stop_ofText]
  rfl

theorem map_token?_ofText (text : String) :
    (ofText text).map token? = (Token.ofText text).map some ++ [none] := by
  rw [ofText_eq, List.map_append, List.map_map, Token.ofText, List.map_map]
  rfl

theorem getElem?_of_lexemes {pre post : List Lexeme} {l : Lexeme}
    (h : Lexeme.ofText text = pre ++ l :: post) :
    (ofText text)[pre.length]? = some ⟨some l.token, l.start⟩ := by
  rw [ofText_eq, h]
  simp [Lexeme.reading]

theorem getElem?_end (text : String) :
    (ofText text)[(Token.ofText text).length]? = some ⟨none, text.length⟩ := by
  rw [ofText_eq, Token.ofText]
  simp

theorem start_le_length {r : Reading} (h : r ∈ ofText text) : r.start ≤ text.length := by
  rw [← Cursor.stop_ofText]
  exact (Cursor.start_bounds _ r h).2

/-- A place in a text belongs to one reading at most. -/
theorem eq_of_start_eq {r s : Reading} {i j : Nat} (hr : (ofText text)[i]? = some r)
    (hs : (ofText text)[j]? = some s) (h : r.start = s.start) : i = j := by
  obtain ⟨hi, rfl⟩ := List.getElem?_eq_some_iff.mp hr
  obtain ⟨hj, rfl⟩ := List.getElem?_eq_some_iff.mp hs
  have hascending := List.pairwise_iff_getElem.mp (Cursor.ascending_readings (.ofText text))
  rcases Nat.lt_trichotomy i j with hlt | heq | hlt
  · exact absurd h (Nat.ne_of_lt (hascending i j hi hj hlt))
  · exact heq
  · exact absurd h (Nat.ne_of_gt (hascending j i hj hi hlt))

theorem word_of_mem {w : String} {start : Nat} (h : ⟨some (.word w), start⟩ ∈ ofText text) :
    w ≠ "" ∧ w.toList <+: text.toList.drop start := by
  refine ⟨?_, (Cursor.in_ofText text).word_of_mem h⟩
  rintro rfl
  have htoken : some (Token.word "") ∈ (ofText text).map token? := List.mem_map_of_mem h
  rw [map_token?_ofText] at htoken
  have hword : Token.word "" ∈ Token.ofText text := by simpa using htoken
  exact (Token.legible_of_mem_ofChars _ hword).ne_nil rfl

end Reading

namespace Token

def sentence (text : String) : List (Option Token) :=
  (Reading.ofText text).map Reading.token?

variable {text : String} {ts : List Token}

theorem sentence_eq (text : String) : sentence text = (ofText text).map some ++ [none] :=
  Reading.map_token?_ofText text

theorem map_some_prefix_sentence_iff : ts.map some <+: sentence text ↔ ts <+: ofText text := by
  have hend : ts.map some ≠ (ofText text).map some ++ [none] := by
    intro h
    have hmem : none ∈ ts.map some := by rw [h]; simp
    simp at hmem
  rw [sentence_eq, List.prefix_concat_iff, or_iff_right hend,
    List.prefix_map_iff_of_injective fun _ _ => Option.some.inj]

theorem ended_prefix_sentence_iff : ts.map some ++ [none] <+: sentence text ↔ ofText text = ts := by
  have hend : ¬ ts.map some ++ [none] <+: (ofText text).map some := by
    intro h
    have hmem : none ∈ (ofText text).map some := h.subset (by simp)
    simp at hmem
  rw [sentence_eq, List.prefix_concat_iff, or_iff_left hend, List.append_left_inj,
    List.map_inj_right fun _ _ => Option.some.inj, eq_comm]

theorem exists_reading {front : List (Option Token)} {next : Option Token}
    (h : front ++ [next] <+: sentence text) :
    ∃ position, (Reading.ofText text)[front.length]? = some ⟨next, position⟩ := by
  obtain ⟨rest, hrest⟩ := h
  have hnext : (sentence text)[front.length]? = some next := by
    rw [← hrest]
    simp
  rw [sentence, List.getElem?_map] at hnext
  obtain ⟨r, hr, rfl⟩ := Option.map_eq_some_iff.mp hnext
  exact ⟨r.start, hr⟩

end Token

end RowQuery
