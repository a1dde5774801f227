import RowQuery.Json.Token
import RowQuery.Json.Value

/-! Reading documents: a machine builds the tree token by token, with the arrays and objects that
are still open on a stack. -/

namespace RowQuery.Json

/-- An array or object that is still open, what it holds so far last first. -/
inductive Frame where
  | array (items : List Json)
  | object (members : List (Option String × Json)) (key : Option String)

/-- What comes next: a value; an item or the end of an array; a key, or the end of an object that is
still empty; the colon behind a key; what follows a complete value. -/
inductive State where
  | value (stack : List Frame)
  | item (stack : List Frame)
  | key (members : List (Option String × Json)) (stack : List Frame)
  | colon (members : List (Option String × Json)) (key : Option String) (stack : List Frame)
  | complete (j : Json) (stack : List Frame)

def stepValue (stack : List Frame) : Token → Option State
  | .null => some (.complete .null stack)
  | .bool b => some (.complete (.bool b) stack)
  | .number n => some (.complete (.number n) stack)
  | .text s => some (.complete (.text s) stack)
  | .openArray => some (.item stack)
  | .openObject => some (.key [] stack)
  | _ => none

def stepComplete (j : Json) : List Frame → Token → Option State
  | .array items :: stack, .comma => some (.value (.array (j :: items) :: stack))
  | .array items :: stack, .closeArray => some (.complete (.array (j :: items).reverse) stack)
  | .object members key :: stack, .comma => some (.key ((key, j) :: members) stack)
  | .object members key :: stack, .closeObject =>
    some (.complete (.object ((key, j) :: members).reverse) stack)
  | _, _ => none

def State.step : State → Token → Option State
  | value stack, t => stepValue stack t
  | item stack, .closeArray => some (complete (.array []) stack)
  | item stack, t => stepValue (.array [] :: stack) t
  | key members stack, .text s => some (colon members s stack)
  | key [] stack, .closeObject => some (complete (.object []) stack)
  | key _ _, _ => none
  | colon members k stack, .colon => some (value (.object members k :: stack))
  | colon _ _ _, _ => none
  | complete j stack, t => stepComplete j stack t

def State.run : State → List Token → Option State
  | s, [] => some s
  | s, t :: rest => (s.step t).bind fun next => next.run rest

def readLoose (text : String) : Option Json := do
  let tokens ← Token.listOf text.toList
  match ← (State.value []).run tokens with
  | .complete j [] => some j
  | _ => none

def maxDepth : Nat := 127

/-- The document of a text, if it is not nested too deep and every text and number in it can be
represented. -/
def read (text : String) : Option Json :=
  (readLoose text).filter fun j => j.depth ≤ maxDepth && j.isSound

end RowQuery.Json
