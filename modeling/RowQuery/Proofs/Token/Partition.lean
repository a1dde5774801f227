import RowQuery.Proofs.Token.Reading
import RowQuery.Proofs.Token.Span

/-! One call after the other takes a text apart: into tokens, each as long as it can be, and the
blanks between them. No character is lost and none read twice, and the end of the input is reached
after as many calls as there are tokens, to be met again by every call after that. -/

namespace RowQuery

namespace Cursor

def after (c : Cursor) : Nat → Cursor
  | 0 => c
  | n + 1 => (c.after n).next.2

/-- Where what the next call gives begins: a token, or the end of the input. -/
def start (c : Cursor) : Nat :=
  c.next.1.elim c.next.2.position Lexeme.start

variable {c d : Cursor} {l : Lexeme} {cs : List Char}

theorem after_succ (c : Cursor) (n : Nat) : c.after (n + 1) = c.next.2.after n := by
  induction n with
  | zero => rfl
  | succ n ih => exact congrArg (fun d => d.next.2) ih

theorem next_after (c : Cursor) (n : Nat) : (c.after n).next.1 = c.lexemes[n]? := by
  induction n generalizing c with
  | zero =>
    rw [after]
    obtain ⟨d, hnext⟩ | ⟨l, d, hnext⟩ := c.next_cases
    · rw [hnext, lexemes_of_next_none hnext, List.getElem?_nil]
    · rw [hnext, lexemes_of_next_some hnext, List.getElem?_cons_zero]
  | succ n ih =>
    rw [after_succ, ih]
    obtain ⟨d, hnext⟩ | ⟨l, d, hnext⟩ := c.next_cases
    · have hd : d.lexemes = [] := lexemes_of_dropWhile_nil (by rw [rest_of_next_none hnext]; rfl)
      rw [hnext, lexemes_of_next_none hnext, hd, List.getElem?_nil, List.getElem?_nil]
    · rw [hnext, lexemes_of_next_some hnext, List.getElem?_cons_succ]

theorem length_lexemes_le (c : Cursor) : c.lexemes.length ≤ c.rest.length := by
  fun_induction lexemes c with
  | case1 => exact Nat.zero_le _
  | case2 c l d h ih =>
    have hshorter := length_lt_of_next h
    rw [List.length_cons]
    omega

theorem start_of_next_some (h : c.next = (some l, d)) : c.start = l.start := by
  rw [start, h, Option.elim_some]

theorem start_of_next_none (h : c.next = (none, d)) : c.start = d.position := by
  rw [start, h, Option.elim_none]

/-! One call. -/

theorem In.of_next_none (h : c.In cs) (hnext : c.next = (none, d)) :
    d = ⟨[], cs.length⟩ ∧ ∀ ch ∈ cs.drop c.position, Unicode.isBlank ch = true := by
  have hposition : d.position = cs.length := (position_of_next_none hnext).trans h.stop
  have hnone : Token.ofChars c.rest = [] := by
    rw [← Token.map_token_lexemes, lexemes_of_next_none hnext, List.map_nil]
  rw [← h.rest_eq, ← hposition, ← rest_of_next_none hnext]
  exact ⟨rfl, Token.ofChars_eq_nil_iff.mp hnone⟩

/-- A call that gives a token skips blanks and takes what the token spans. -/
theorem exists_append_of_next (hnext : c.next = (some l, d)) :
    ∃ blanks span, c.rest = blanks ++ (span ++ d.rest) ∧
      (∀ ch ∈ blanks, Unicode.isBlank ch = true) ∧ Token.Spans span d.rest l.token l.closed ∧
      l.start = c.position + blanks.length ∧ l.stop = l.start + span.length := by
  unfold next at hnext
  split at hnext
  · cases hnext
  · rename_i first tail start hs
    cases hnext
    have hrest : c.rest.dropWhile Unicode.isBlank = first :: tail := congrArg Cursor.rest hs
    have hstart := congrArg Cursor.position hs
    have hfirst : Unicode.isBlank first = false := by
      have hstops := stops_dropWhile Unicode.isBlank c.rest
      rwa [hrest, stops_cons] at hstops
    have hlength := Token.length_scan first tail
    have hdrop : (first :: tail).drop (Token.scan first tail).width =
        (Token.scan first tail).rest := by
      have hsuffix := (Token.scan_rest_suffix first tail).trans (List.suffix_cons first tail)
      rw [List.suffix_iff_eq_drop.mp hsuffix, List.length_cons, hlength, Nat.add_sub_cancel]
    refine ⟨c.rest.takeWhile Unicode.isBlank, (first :: tail).take (Token.scan first tail).width,
      ?_, List.all_eq_true.1 List.all_takeWhile, Token.spans_scan hfirst tail, hstart.symm, ?_⟩
    · rw [← hdrop, List.take_append_drop, ← hrest, List.takeWhile_append_dropWhile]
    · have hwidth : (Token.scan first tail).width ≤ (first :: tail).length := by
        rw [List.length_cons, hlength]
        exact Nat.le_add_right _ _
      rw [List.length_take_of_le hwidth]

theorem In.of_next_some (h : c.In cs) (hnext : c.next = (some l, d)) :
    (∀ ch ∈ cs.extract c.position l.start, Unicode.isBlank ch = true) ∧
      Token.Spans (cs.extract l.start l.stop) (cs.drop l.stop) l.token l.closed := by
  obtain ⟨blanks, span, hrest, hblank, hspans, hstart, hstop⟩ := exists_append_of_next hnext
  rw [h.rest_eq] at hrest
  have hdrop : cs.drop l.start = span ++ d.rest := by
    rw [hstart, ← List.drop_drop, hrest, List.drop_left]
  refine ⟨?_, ?_⟩
  · rwa [List.extract_eq_take_drop, hrest, hstart, Nat.add_sub_cancel_left, List.take_left]
  · rwa [List.extract_eq_take_drop, hstop, Nat.add_sub_cancel_left, ← List.drop_drop, hdrop,
      List.take_left, List.drop_left]

theorem In.step (h : c.In cs) : c.next.2.In cs := by
  obtain ⟨d, hnext⟩ | ⟨l, d, hnext⟩ := c.next_cases
  · rw [hnext, (h.of_next_none hnext).1]
    exact ⟨List.nil_suffix, Nat.add_zero _⟩
  · rw [hnext]
    exact (h.next hnext).1

theorem In.bounds (h : c.In cs) :
    c.position ≤ c.start ∧ c.start ≤ c.next.2.position ∧ c.next.2.position ≤ cs.length := by
  have hstop := h.step.stop
  have hle := position_le_stop c.next.2
  obtain ⟨d, hnext⟩ | ⟨l, d, hnext⟩ := c.next_cases
  · have hposition : d.position = c.stop := position_of_next_none hnext
    have hbehind := position_le_stop c
    rw [hnext] at hstop hle ⊢
    rw [start_of_next_none hnext]
    dsimp only at hstop hle ⊢
    omega
  · have hl := position_lt_of_next hnext
    rw [hnext] at hstop hle ⊢
    rw [start_of_next_some hnext]
    dsimp only at hstop hle ⊢
    omega

theorem In.after (h : c.In cs) (n : Nat) : (c.after n).In cs := by
  induction n with
  | zero => exact h
  | succ n ih => exact ih.step

end Cursor

/-! All calls in a text, counted from 0 as its tokens are. -/

def Cursor.behind (text : String) (n : Nat) : Cursor :=
  (Cursor.ofText text).after n

/-- What call `n` skips. -/
def gap (text : String) (n : Nat) : List Char :=
  text.toList.extract (Cursor.behind text n).position (Cursor.behind text n).start

def span (text : String) (n : Nat) : List Char :=
  text.toList.extract (Cursor.behind text n).start (Cursor.behind text (n + 1)).position

structure Partitioned (text : String) : Prop where
  call : ∀ n, (Cursor.behind text n).next.1 = (Lexeme.ofText text)[n]?
  ends : (Lexeme.ofText text).length ≤ text.length
  ended : ∀ n, (Lexeme.ofText text).length ≤ n →
    (Cursor.behind text n).next = (none, ⟨[], text.length⟩) ∧
      (Cursor.behind text n).start = text.length
  advances : ∀ n < (Lexeme.ofText text).length,
    (Cursor.behind text n).position < (Cursor.behind text (n + 1)).position ∧
      (Cursor.behind text (n + 1)).position ≤ text.length
  ascends : ∀ n < (Lexeme.ofText text).length,
    (Cursor.behind text n).start < (Cursor.behind text (n + 1)).start
  blank : ∀ n, ∀ ch ∈ gap text n, Unicode.isBlank ch = true
  token : ∀ n, ∀ l ∈ (Lexeme.ofText text)[n]?,
    l.start = (Cursor.behind text n).start ∧ l.stop = (Cursor.behind text (n + 1)).position ∧
      Token.Spans (span text n) (text.toList.drop l.stop) l.token l.closed
  whole : ∀ n, (Lexeme.ofText text).length ≤ n →
    (List.range (n + 1)).flatMap (fun i => gap text i ++ span text i) = text.toList

namespace Cursor

variable {text : String} {n : Nat}

theorem in_behind (text : String) (n : Nat) : (behind text n).In text.toList := by
  exact (in_ofText text).after n

theorem next_behind (text : String) (n : Nat) :
    (behind text n).next.1 = (Lexeme.ofText text)[n]? :=
  next_after (Cursor.ofText text) n

theorem exists_next_behind {l : Lexeme} (h : (Lexeme.ofText text)[n]? = some l) :
    (behind text n).next = (some l, behind text (n + 1)) := by
  rw [← next_behind] at h
  exact Prod.ext h rfl

theorem next_behind_of_le (h : (Lexeme.ofText text).length ≤ n) :
    (behind text n).next = (none, behind text (n + 1)) := by
  rw [← List.getElem?_eq_none_iff, ← next_behind] at h
  exact Prod.ext h rfl

theorem behind_succ_of_le (h : (Lexeme.ofText text).length ≤ n) :
    behind text (n + 1) = ⟨[], text.length⟩ := by
  rw [((in_behind text n).of_next_none (next_behind_of_le h)).1, String.length_toList]

end Cursor

private theorem take_append_extract {α : Type} (l : List α) {start stop : Nat}
    (h : start ≤ stop) : l.take start ++ l.extract start stop = l.take stop := by
  rw [List.extract_eq_take_drop, ← List.take_add, Nat.add_sub_cancel' h]

theorem flatMap_gap_span (text : String) (n : Nat) :
    (List.range n).flatMap (fun i => gap text i ++ span text i) =
      text.toList.take (Cursor.behind text n).position := by
  induction n with
  | zero => rfl
  | succ n ih =>
    have hbounds := (Cursor.in_behind text n).bounds
    rw [List.range_succ, List.flatMap_append, ih, List.flatMap_singleton, ← List.append_assoc, gap,
      span, take_append_extract _ hbounds.1]
    exact take_append_extract _ hbounds.2.1

theorem blank_of_mem_gap {text : String} {n : Nat} {ch : Char} (h : ch ∈ gap text n) :
    Unicode.isBlank ch = true := by
  have hin := Cursor.in_behind text n
  unfold gap at h
  cases hl : (Lexeme.ofText text)[n]? with
  | none =>
    have hnext := Cursor.next_behind_of_le (List.getElem?_eq_none_iff.mp hl)
    exact (hin.of_next_none hnext).2 ch (List.mem_of_mem_take h)
  | some l =>
    have hnext := Cursor.exists_next_behind hl
    rw [Cursor.start_of_next_some hnext] at h
    exact (hin.of_next_some hnext).1 ch h

theorem partitioned (text : String) : Partitioned text where
  call := Cursor.next_behind text
  ends := by
    have h := Cursor.length_lexemes_le (Cursor.ofText text)
    rwa [Cursor.ofText, String.length_toList] at h
  ended := by
    intro n hn
    have hnext := Cursor.next_behind_of_le hn
    have hend := Cursor.behind_succ_of_le hn
    rw [Cursor.start_of_next_none hnext, hnext, hend]
    exact ⟨rfl, rfl⟩
  advances := by
    intro n hn
    have hnext := Cursor.exists_next_behind (List.getElem?_eq_getElem hn)
    have hl := Cursor.position_lt_of_next hnext
    have hbounds := (Cursor.in_behind text n).bounds
    rw [hnext, String.length_toList] at hbounds
    exact ⟨by omega, hbounds.2.2⟩
  ascends := by
    intro n hn
    have hnext := Cursor.exists_next_behind (List.getElem?_eq_getElem hn)
    have hl := Cursor.position_lt_of_next hnext
    have hbounds := (Cursor.in_behind text (n + 1)).bounds
    rw [Cursor.start_of_next_some hnext]
    omega
  blank := fun n ch => blank_of_mem_gap
  token := by
    intro n l hl
    have hnext := Cursor.exists_next_behind hl
    have hstop := (Cursor.position_lt_of_next hnext).2.2
    have hspans := ((Cursor.in_behind text n).of_next_some hnext).2
    rw [span, Cursor.start_of_next_some hnext, hstop]
    exact ⟨rfl, rfl, hspans⟩
  whole := by
    intro n hn
    rw [flatMap_gap_span, Cursor.behind_succ_of_le hn, ← String.length_toList, List.take_length]

end RowQuery
