import RowQuery.Json.Number
import RowQuery.Json.Text

/-! Tokens of documents. -/

namespace RowQuery.Json

inductive Token where
  | openArray
  | closeArray
  | openObject
  | closeObject
  | colon
  | comma
  | null
  | bool (b : Bool)
  | number (n : Number)
  | text (s : Option String)
  deriving DecidableEq, Repr

namespace Token

def isSpace (c : Char) : Bool :=
  c == ' ' || c == '\t' || c == '\n' || c == '\r'

def read (c : Char) (cs : List Char) : Option (Token × List Char) :=
  if c = '[' then some (openArray, cs)
  else if c = ']' then some (closeArray, cs)
  else if c = '\x7b' then some (openObject, cs)
  else if c = '\x7d' then some (closeObject, cs)
  else if c = ':' then some (colon, cs)
  else if c = ',' then some (comma, cs)
  else if c = '"' then
    (Text.readUnits cs).map fun r => (text ((Text.join r.1).map String.ofList), r.2)
  else if c = 'n' then
    match cs with
    | 'u' :: 'l' :: 'l' :: cs => some (null, cs)
    | _ => none
  else if c = 't' then
    match cs with
    | 'r' :: 'u' :: 'e' :: cs => some (bool true, cs)
    | _ => none
  else if c = 'f' then
    match cs with
    | 'a' :: 'l' :: 's' :: 'e' :: cs => some (bool false, cs)
    | _ => none
  else (Number.read (c :: cs)).map fun r => (number r.1, r.2)

theorem length_lt_of_read {c : Char} {cs rest : List Char} {t : Token}
    (h : read c cs = some (t, rest)) : rest.length < cs.length + 1 := by
  unfold read at h
  iterate 6
    split at h
    · cases h; simp
  split at h
  · obtain ⟨r, hr, he⟩ := Option.map_eq_some_iff.1 h
    cases he
    have := Text.length_lt_of_readUnits hr
    omega
  iterate 3
    split at h
    · split at h
      · cases h; simp; omega
      · cases h
  obtain ⟨r, hr, he⟩ := Option.map_eq_some_iff.1 h
  cases he
  exact Number.length_lt_of_read hr

def listOf (cs : List Char) : Option (List Token) :=
  match _h : cs.dropWhile isSpace with
  | [] => some []
  | c :: rest =>
    match _ht : read c rest with
    | none => none
    | some (t, rest) => (listOf rest).map (t :: ·)
termination_by cs.length
decreasing_by
  have hdrop := (List.dropWhile_sublist (l := cs) isSpace).length_le
  have hread := length_lt_of_read _ht
  rw [_h, List.length_cons] at hdrop
  omega

def write : Token → List Char
  | openArray => ['[']
  | closeArray => [']']
  | openObject => ['\x7b']
  | closeObject => ['\x7d']
  | colon => [':']
  | comma => [',']
  | null => "null".toList
  | bool true => "true".toList
  | bool false => "false".toList
  | number n => n.write
  | text s => Text.write (s.getD "")

end Token

end RowQuery.Json
