import RowQuery.Parse.Error
import RowQuery.Token.Cursor

/-! Reading a text with one token in view. A reader that decides what to do looks at the token in
view; only when it advances is the token taken, and the one behind it comes into view. -/

namespace RowQuery

/-- What is met at a place: a token, or without one the end of the input. -/
structure Reading where
  token? : Option Token
  start : Nat
  deriving DecidableEq, Repr

def Reading.kind (r : Reading) : TokenKind :=
  Token.kindOf r.token?

/-- `current` is in view and begins at `position`; the cursor stands behind it. -/
structure Reader where
  cursor : Cursor
  current : Option Token
  position : Nat
  deriving DecidableEq, Repr

namespace Reader

/-- What the cursor comes to next is brought into view. The end of the input begins where the cursor
stops. -/
def ofCursor (c : Cursor) : Reader :=
  match c.next with
  | (none, behind) => ⟨behind, none, behind.position⟩
  | (some l, behind) => ⟨behind, some l.token, l.start⟩

def ofText (text : String) : Reader :=
  ofCursor (.ofText text)

def kind (r : Reader) : TokenKind :=
  Token.kindOf r.current

def check (r : Reader) (kind : TokenKind) : Bool :=
  r.kind == kind

def advance (r : Reader) : Reading × Reader :=
  (⟨r.current, r.position⟩, ofCursor r.cursor)

def unexpected (r : Reader) (expected : List TokenKind) : ParseError :=
  .unexpectedToken r.kind expected r.position

/-- Takes what is in view, provided it is of one of these kinds. -/
def expect (r : Reader) (expected : List TokenKind) : Except ParseError (Reading × Reader) :=
  if expected.contains r.kind then .ok r.advance else .error (r.unexpected expected)

variable {c d : Cursor} {l : Lexeme} {r next : Reader} {expected : List TokenKind}

theorem ofCursor_of_next_none (h : c.next = (none, d)) : ofCursor c = ⟨d, none, d.position⟩ := by
  rw [ofCursor, h]

theorem ofCursor_of_next_some (h : c.next = (some l, d)) :
    ofCursor c = ⟨d, some l.token, l.start⟩ := by
  rw [ofCursor, h]

theorem expect_of_mem (h : r.kind ∈ expected) : r.expect expected = .ok r.advance := by
  rw [expect, if_pos (List.contains_iff_mem.mpr h)]

theorem expect_of_notMem (h : r.kind ∉ expected) :
    r.expect expected = .error (r.unexpected expected) := by
  rw [expect, if_neg (mt List.contains_iff_mem.mp h)]

theorem advance_of_expect {taken : Reading × Reader} (h : r.expect expected = .ok taken) :
    r.advance = taken := by
  unfold expect at h
  split at h
  · cases h
    rfl
  · cases h

def left (r : Reader) : Nat :=
  r.current.elim 0 fun _ => r.cursor.rest.length + 1

theorem left_ofCursor_le (c : Cursor) : (ofCursor c).left ≤ c.rest.length := by
  unfold ofCursor
  split
  · exact Nat.zero_le _
  · rename_i l behind h
    exact Cursor.length_lt_of_next h

theorem left_lt_of_expect {t : Token} {position : Nat}
    (h : r.expect expected = .ok (⟨some t, position⟩, next)) : next.left < r.left := by
  obtain ⟨cursor, current, start⟩ := r
  cases advance_of_expect h
  exact Nat.lt_succ_of_le (left_ofCursor_le cursor)

end Reader

end RowQuery
