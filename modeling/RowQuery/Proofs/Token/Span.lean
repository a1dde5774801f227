import RowQuery.Proofs.Token.Word

/-! The stretch of characters that one token takes. It is the text of the token, but for a literal,
whose quotes and escaping backslashes are left out; and no run ends before its class does. -/

namespace RowQuery

/-- The characters of a literal behind its opening quote, the text they stand for, and whether a
quote closes it. Only a quote that no backslash takes along does. -/
inductive Literal.Spells : List Char → List Char → Bool → Prop
  | quote : Spells ['"'] [] true
  | cut : Spells [] [] false
  | cutBackslash : Spells ['\\'] [] false
  | plain {c : Char} {span text : List Char} {closed : Bool} (hquote : c ≠ '"')
      (hbackslash : c ≠ '\\') (h : Spells span text closed) : Spells (c :: span) (c :: text) closed
  | escaped (c : Char) {span text : List Char} {closed : Bool} (h : Spells span text closed) :
      Spells ('\\' :: c :: span) (c :: text) closed

/-- A stretch of a text that is one token in front of `rest`. Nothing at the head of `rest` could
have been taken as well; a literal that is not closed leaves no rest. -/
inductive Token.Spans : List Char → List Char → Token → Bool → Prop
  | openGroup (rest : List Char) : Spans ['('] rest .openGroup true
  | closeGroup (rest : List Char) : Spans [')'] rest .closeGroup true
  | number {n rest : List Char} (h : IsNumber n) (hrest : Stops isNumberChar rest) :
      Spans n rest (.number (String.ofList n)) true
  | letters {c : Char} {cs rest : List Char} (hfirst : isNumberChar c = false)
      (h : ∀ d ∈ c :: cs, isWordChar d = true) (hrest : Stops isWordChar rest) :
      Spans (c :: cs) rest (.word (String.ofList (c :: cs))) true
  | symbols {c : Char} {cs rest : List Char} (h : ∀ d ∈ c :: cs, isSymbolChar d = true)
      (hrest : Stops isSymbolChar rest) :
      Spans (c :: cs) rest (.word (String.ofList (c :: cs))) true
  | literal {span text rest : List Char} {closed : Bool} (h : Literal.Spells span text closed)
      (hrest : closed = false → rest = []) :
      Spans ('"' :: span) rest (.string (String.ofList text)) closed

theorem stops_dropWhile (accept : Char → Bool) (cs : List Char) :
    Stops accept (cs.dropWhile accept) := by
  intro c hc
  have hhead := List.head?_dropWhile_not accept cs
  rw [Option.mem_def.mp hc] at hhead
  simpa using hhead

theorem take_length_takeWhile (accept : Char → Bool) (cs : List Char) :
    cs.take (cs.takeWhile accept).length = cs.takeWhile accept :=
  (List.prefix_iff_eq_take.mp (List.takeWhile_prefix accept)).symm

namespace Literal

theorem ne_backslash {c : Char} {cs : List Char} (hlone : c = '\\' → cs = [] → False)
    (hpair : ∀ d rest, c = '\\' → cs = d :: rest → False) : c ≠ '\\' := by
  intro hc
  cases cs with
  | nil => exact hlone hc rfl
  | cons d rest => exact hpair d rest hc rfl

theorem spells_read (cs : List Char) :
    Spells (cs.take (read cs).width) (read cs).text (read cs).closed := by
  fun_induction read cs with
  | case1 => exact .cut
  | case2 rest => exact .quote
  | case3 => exact .cutBackslash
  | case4 c rest ih =>
    have hwidth : ((read rest).push c 2).width = (read rest).width + 1 + 1 := by
      simp only [push]
      omega
    rw [hwidth, List.take_succ_cons, List.take_succ_cons]
    exact .escaped c ih
  | case5 c rest hquote hlone hpair ih =>
    have hwidth : ((read rest).push c 1).width = (read rest).width + 1 := by
      simp only [push]
      omega
    rw [hwidth, List.take_succ_cons]
    exact .plain hquote (ne_backslash hlone hpair) ih

theorem spells_escape (text : List Char) : Spells (escape text ++ ['"']) text true := by
  induction text with
  | nil => exact .quote
  | cons c text ih =>
    rw [escape, List.flatMap_cons, ← escape, List.append_assoc]
    split
    · exact .escaped c ih
    · rename_i hplain
      rw [not_or] at hplain
      exact .plain hplain.1 hplain.2 ih

theorem Spells.read_append {span text : List Char} {closed : Bool} (h : Spells span text closed)
    {rest : List Char} (hrest : closed = false → rest = []) :
    read (span ++ rest) = ⟨text, closed, span.length, rest⟩ := by
  induction h with
  | quote => rfl
  | cut => rw [hrest rfl]; rfl
  | cutBackslash => rw [hrest rfl]; rfl
  | plain hquote hbackslash _ ih =>
    rw [List.cons_append, read, ih hrest]
    · simp only [push, List.length_cons]
      rw [Nat.add_comm]
    · exact hquote
    · exact fun hc => absurd hc hbackslash
    · exact fun _ _ hc => absurd hc hbackslash
  | escaped c _ ih =>
    rw [List.cons_append, List.cons_append, read, ih hrest]
    simp only [push, List.length_cons]
    rw [Nat.add_comm]

theorem rest_of_not_closed {cs : List Char} (h : (read cs).closed = false) :
    (read cs).rest = [] := by
  fun_induction read cs with
  | case1 => rfl
  | case2 => cases h
  | case3 => rfl
  | case4 c rest ih => exact ih h
  | case5 c rest _ _ _ ih => exact ih h

end Literal

namespace Token

variable {accept : Char → Bool} {c : Char} {cs : List Char}

theorem scan_quote (cs : List Char) :
    scan '"' cs = ⟨.string (String.ofList (Literal.read cs).text), (Literal.read cs).closed,
      (Literal.read cs).width + 1, (Literal.read cs).rest⟩ := by
  rw [scan, if_neg (by decide), if_neg (by decide), if_pos rfl]

/-- Only a literal can be left open, and only by the end of the input. -/
theorem eq_quote_of_not_closed (h : (scan c cs).closed = false) : c = '"' := by
  unfold scan at h
  split at h
  · cases h
  · split at h
    · cases h
    · split at h
      · assumption
      · split at h
        · cases h
        · split at h <;> cases h

theorem rest_of_not_closed (h : (scan c cs).closed = false) : (scan c cs).rest = [] := by
  cases eq_quote_of_not_closed h
  rw [scan_quote] at h ⊢
  exact Literal.rest_of_not_closed h

private theorem take_width_run (make : String → Token) (accept : Char → Bool) (c : Char)
    (cs : List Char) :
    (c :: cs).take (Scan.run make accept c cs).width = c :: cs.takeWhile accept := by
  rw [Scan.run, List.take_succ_cons, take_length_takeWhile]

private theorem forall_mem_run (hc : accept c = true) (cs : List Char) :
    ∀ d ∈ c :: cs.takeWhile accept, accept d = true :=
  List.forall_mem_cons.2 ⟨hc, List.all_eq_true.1 List.all_takeWhile⟩

theorem spans_scan (hb : Unicode.isBlank c = false) (cs : List Char) :
    Spans ((c :: cs).take (scan c cs).width) (scan c cs).rest (scan c cs).token
      (scan c cs).closed := by
  unfold scan
  split
  · rename_i hopen
    rw [hopen]
    exact .openGroup cs
  · split
    · rename_i hclose
      rw [hclose]
      exact .closeGroup cs
    · split
      · rename_i hquote
        rw [hquote, List.take_succ_cons]
        exact .literal (Literal.spells_read cs) Literal.rest_of_not_closed
      · rename_i hopen hclose hquote
        split
        · rename_i hn
          rw [take_width_run]
          exact .number ⟨List.cons_ne_nil c _, forall_mem_run hn cs⟩ (stops_dropWhile _ cs)
        · split
          · rename_i hn hw
            rw [take_width_run]
            exact .letters (by simpa using hn) (forall_mem_run hw cs) (stops_dropWhile _ cs)
          · rename_i hn hw
            have hsymbol : isSymbolChar c = true := isSymbolChar_iff.mpr
              ⟨hb, hopen, hclose, hquote, by simpa using hn, by simpa using hw⟩
            rw [take_width_run]
            exact .symbols (forall_mem_run hsymbol cs) (stops_dropWhile _ cs)

variable {span rest : List Char} {tok : Token} {closed : Bool}

/-- What spans a token is read as that token, wherever it stands. -/
theorem Spans.scan_eq (h : Spans (c :: cs) rest tok closed) :
    scan c (cs ++ rest) = ⟨tok, closed, cs.length + 1, rest⟩ := by
  cases h with
  | openGroup => rfl
  | closeGroup => rfl
  | number h hrest =>
    obtain ⟨hc, hcs⟩ := List.forall_mem_cons.1 h.2
    rw [scan_of_isNumberChar hc, Scan.run_append _ _ hcs hrest]
  | letters hfirst h hrest =>
    obtain ⟨hc, hcs⟩ := List.forall_mem_cons.1 h
    rw [scan_of_isWordChar hfirst hc, Scan.run_append _ _ hcs hrest]
  | symbols h hrest =>
    obtain ⟨hc, hcs⟩ := List.forall_mem_cons.1 h
    rw [scan_of_isSymbolChar hc, Scan.run_append _ _ hcs hrest]
  | literal h hrest =>
    rw [scan_quote, h.read_append hrest]

theorem Spans.rest_of_not_closed (h : Spans span rest tok closed) (hclosed : closed = false) :
    rest = [] := by
  cases h with
  | literal _ hrest => exact hrest hclosed
  | _ => cases hclosed

theorem Spans.exists_cons (h : Spans span rest tok closed) :
    ∃ c cs, span = c :: cs ∧ Unicode.isBlank c = false := by
  cases h with
  | openGroup => exact ⟨_, _, rfl, by decide⟩
  | closeGroup => exact ⟨_, _, rfl, by decide⟩
  | number h =>
    obtain ⟨c, cs, rfl⟩ := List.exists_cons_of_ne_nil h.1
    exact ⟨c, cs, rfl, isBlank_eq_false_of_isNumberChar (h.2 c List.mem_cons_self)⟩
  | letters _ h => exact ⟨_, _, rfl, isBlank_eq_false_of_isWordChar (h _ List.mem_cons_self)⟩
  | symbols h => exact ⟨_, _, rfl, (isSymbolChar_iff.mp (h _ List.mem_cons_self)).1⟩
  | literal => exact ⟨_, _, rfl, by decide⟩

theorem Spans.of_head? {rest' : List Char} (h : Spans span rest tok closed)
    (hclosed : closed = false → rest' = []) (hrest : Breaks rest' ∨ rest'.head? = rest.head?) :
    Spans span rest' tok closed := by
  have hstops : ∀ {accept}, (Breaks rest' → Stops accept rest') → Stops accept rest →
      Stops accept rest' := by
    intro accept hbreaks hstops
    rcases hrest with hrest | hrest
    · exact hbreaks hrest
    · rwa [Stops, hrest]
  cases h with
  | openGroup => exact .openGroup rest'
  | closeGroup => exact .closeGroup rest'
  | number h hrest => exact .number h (hstops Breaks.stops_isNumberChar hrest)
  | letters hfirst h hrest => exact .letters hfirst h (hstops Breaks.stops_isWordChar hrest)
  | symbols h hrest => exact .symbols h (hstops Breaks.stops_isSymbolChar hrest)
  | literal h => exact .literal h hclosed

end Token

namespace Cursor

variable {span rest : List Char} {tok : Token} {closed : Bool}

theorem next_of_spans (h : Token.Spans span rest tok closed) (position : Nat) :
    next ⟨span ++ rest, position⟩ =
      (some ⟨tok, position, position + span.length, closed⟩, ⟨rest, position + span.length⟩) := by
  obtain ⟨c, cs, rfl, hc⟩ := h.exists_cons
  have hskip : skipBlanks ⟨c :: (cs ++ rest), position⟩ = ⟨c :: (cs ++ rest), position⟩ := by
    simp [skipBlanks, hc]
  rw [List.cons_append, next, hskip]
  dsimp only
  rw [h.scan_eq, List.length_cons]

theorem lexemes_of_spans (h : Token.Spans span rest tok closed) (position : Nat) :
    lexemes ⟨span ++ rest, position⟩ =
      ⟨tok, position, position + span.length, closed⟩ ::
        lexemes ⟨rest, position + span.length⟩ :=
  lexemes_of_next_some (next_of_spans h position)

end Cursor

namespace Token

variable {rest : List Char}

theorem Spans.ofChars_append {span : List Char} {tok : Token} {closed : Bool}
    (h : Spans span rest tok closed) : ofChars (span ++ rest) = tok :: ofChars rest := by
  rw [ofChars, Cursor.lexemes_of_spans h, List.map_cons, map_token_lexemes]

/-! What is spelled out spans its token, in front of whatever ends every run. -/

theorem spans_word {w : List Char} (h : IsWord w) (hrest : Breaks rest) :
    Spans w rest (.word (String.ofList w)) true := by
  cases h with
  | letters hfirst h => exact .letters hfirst h hrest.stops_isWordChar
  | symbols h => exact .symbols h hrest.stops_isSymbolChar

theorem spans_quote (text rest : List Char) :
    Spans (Literal.quote text) rest (.string (String.ofList text)) true :=
  .literal (Literal.spells_escape text) nofun

end Token

end RowQuery
