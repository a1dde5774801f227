import RowQuery.Token.Lexeme

/-! Reading lexemes one after the other. Only blanks are skipped, so the lexemes of a text and the
blanks between them make up the whole text. -/

namespace RowQuery

/-- Where a reader stands: what is left of a text, and the position of its first character. -/
structure Cursor where
  rest : List Char
  position : Nat
  deriving DecidableEq, Repr

namespace Cursor

def ofText (text : String) : Cursor :=
  ⟨text.toList, 0⟩

def skipBlanks (c : Cursor) : Cursor :=
  ⟨c.rest.dropWhile Unicode.isBlank, c.position + (c.rest.takeWhile Unicode.isBlank).length⟩

/-- The next lexeme, and the cursor behind it. At the end of the input there is none, and the cursor
stays at the end. -/
def next (c : Cursor) : Option Lexeme × Cursor :=
  match c.skipBlanks with
  | ⟨[], stop⟩ => (none, ⟨[], stop⟩)
  | ⟨first :: rest, start⟩ =>
    let scan := Token.scan first rest
    (some ⟨scan.token, start, start + scan.width, scan.closed⟩, ⟨scan.rest, start + scan.width⟩)

def stop (c : Cursor) : Nat :=
  c.position + c.rest.length

@[simp] theorem stop_skipBlanks (c : Cursor) : c.skipBlanks.stop = c.stop := by
  have h := congrArg List.length
    (List.takeWhile_append_dropWhile (p := Unicode.isBlank) (l := c.rest))
  rw [List.length_append] at h
  unfold skipBlanks stop
  dsimp only
  omega

@[simp] theorem stop_next (c : Cursor) : c.next.2.stop = c.stop := by
  have h := stop_skipBlanks c
  unfold next
  split
  · rename_i hs
    rw [hs] at h
    exact h
  · rename_i first rest start hs
    rw [hs] at h
    have hscan := Token.length_scan first rest
    rw [← h]
    unfold stop
    dsimp only
    rw [List.length_cons]
    omega

theorem position_lt_of_next {c d : Cursor} {l : Lexeme} (h : c.next = (some l, d)) :
    c.position ≤ l.start ∧ l.start < l.stop ∧ d.position = l.stop := by
  unfold next at h
  split at h
  · cases h
  · rename_i first rest start hs
    have hstart : c.position ≤ start := by
      rw [show start = c.skipBlanks.position by rw [hs]]
      exact Nat.le_add_right _ _
    have hpos := Token.scan_width_pos first rest
    cases h
    exact ⟨hstart, by dsimp only; omega, rfl⟩

theorem length_lt_of_next {c d : Cursor} {l : Lexeme} (h : c.next = (some l, d)) :
    d.rest.length < c.rest.length := by
  have hstop := stop_next c
  rw [h] at hstop
  have hpos := position_lt_of_next h
  unfold stop at hstop
  dsimp only at hstop
  omega

def lexemes (c : Cursor) : List Lexeme :=
  match _h : c.next with
  | (none, _) => []
  | (some l, d) => l :: d.lexemes
termination_by c.rest.length
decreasing_by exact length_lt_of_next _h

theorem lexemes_of_next_none {c d : Cursor} (h : c.next = (none, d)) : c.lexemes = [] := by
  rw [lexemes]
  split
  · rfl
  · rename_i h'
    rw [h] at h'
    cases h'

theorem lexemes_of_next_some {c d : Cursor} {l : Lexeme} (h : c.next = (some l, d)) :
    c.lexemes = l :: d.lexemes := by
  rw [lexemes]
  split
  · rename_i h'
    rw [h] at h'
    cases h'
  · rename_i h'
    rw [h] at h'
    cases h'
    rfl

end Cursor

def Lexeme.ofText (text : String) : List Lexeme :=
  (Cursor.ofText text).lexemes

end RowQuery
