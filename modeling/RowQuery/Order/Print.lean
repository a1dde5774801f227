import RowQuery.Filter.Print
import RowQuery.Order.Entry

/-! Writing order lists. -/

namespace RowQuery.Order

def printEntry (v : Vocabulary) (e : OrderEntry) : Except RenderError String := do
  let field ← printField e.field
  if e.descending then
    let direction ←
      (v.directionKeyword? .descending).elim (.error (.noDirection .descending)) .ok
    .ok (field ++ " " ++ direction)
  else
    .ok field

/-- A symbolic delimiter stands right behind the entry before it, unless that entry ends in a symbol
itself: the two would read as one word. -/
def separator (previous delimiter : String) : String :=
  let hugs := isSymbolic delimiter && !(previous.toList.getLast?.elim true isSymbolChar)
  (if hugs then "" else " ") ++ delimiter ++ " "

def printRest (v : Vocabulary) (previous : String) : List OrderEntry → Except RenderError String
  | [] => .ok ""
  | e :: rest => do
    let delimiter ← v.delimiterKeyword?.elim (.error .noDelimiter) .ok
    let entry ← printEntry v e
    let more ← printRest v entry rest
    .ok (separator previous delimiter ++ entry ++ more)

def print (v : Vocabulary) : List OrderEntry → Except RenderError String
  | [] => .ok ""
  | e :: rest => do
    let entry ← printEntry v e
    let more ← printRest v entry rest
    .ok (entry ++ more)

end RowQuery.Order
