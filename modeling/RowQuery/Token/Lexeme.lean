import RowQuery.Token
import RowQuery.Token.Class
import RowQuery.Token.Literal

/-! Lexemes: tokens with the stretch of characters each was read from. Positions count characters,
and every run is as long as its class allows. -/

namespace RowQuery

structure Token.Scan where
  token : Token
  closed : Bool
  width : Nat
  rest : List Char
  deriving DecidableEq, Repr

def Token.Scan.run (make : String → Token) (accept : Char → Bool) (c : Char) (cs : List Char) :
    Token.Scan :=
  let taken := cs.takeWhile accept
  ⟨make (String.ofList (c :: taken)), true, taken.length + 1, cs.dropWhile accept⟩

/-- The token that begins with `c`, which is no blank. Digits come before word characters, so a
word never starts with one. -/
def Token.scan (c : Char) (cs : List Char) : Token.Scan :=
  if c = '(' then ⟨.openGroup, true, 1, cs⟩
  else if c = ')' then ⟨.closeGroup, true, 1, cs⟩
  else if c = '"' then
    let literal := Literal.read cs
    ⟨.string (String.ofList literal.text), literal.closed, literal.width + 1, literal.rest⟩
  else if isNumberChar c then .run .number isNumberChar c cs
  else if isWordChar c then .run .word isWordChar c cs
  else .run .word isSymbolChar c cs

theorem Token.Scan.length_run (make : String → Token) (accept : Char → Bool) (c : Char)
    (cs : List Char) :
    cs.length + 1 = (run make accept c cs).width + (run make accept c cs).rest.length := by
  have h := congrArg List.length (List.takeWhile_append_dropWhile (p := accept) (l := cs))
  simp only [List.length_append] at h
  simp only [run]
  omega

theorem Token.length_scan (c : Char) (cs : List Char) :
    cs.length + 1 = (scan c cs).width + (scan c cs).rest.length := by
  unfold scan
  repeat' split
  · simp; omega
  · simp; omega
  · have := Literal.length_eq_width_add cs
    simp only
    omega
  all_goals exact Token.Scan.length_run ..

theorem Token.scan_width_pos (c : Char) (cs : List Char) : 0 < (scan c cs).width := by
  unfold scan
  repeat' split
  all_goals simp [Token.Scan.run]

/-- A token with the characters `start ≤ i < stop` it was read from; `closed` is false only of a
literal that the end of the input cut off. -/
structure Lexeme where
  token : Token
  start : Nat
  stop : Nat
  closed : Bool
  deriving DecidableEq, Repr

def Lexeme.kind (l : Lexeme) : TokenKind :=
  l.token.kind

end RowQuery
