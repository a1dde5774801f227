import RowQuery.Filter.Clause
import RowQuery.Print.Field
import RowQuery.Vocabulary

/-! Writing filters. Left clauses need no parentheses, for bodies fold to the left; right clauses
need them as soon as they are combined. -/

namespace RowQuery.Filter

/-- A bare `null` would read back as the null marker. -/
def printText (s : String) : String :=
  if isBareValue s && s != "null" then s else String.ofList (Literal.quote s.toList)

def printValue : Value → String
  | .null => "null"
  | .text s => printText s

def printCondition (v : Vocabulary) (c : Condition) : Except RenderError String := do
  let operator ← (v.operatorKeyword? c.operator).elim (.error (.noOperator c.operator)) .ok
  let field ← printField c.field
  .ok (field ++ " " ++ operator ++ " " ++ printValue c.value)

def print (v : Vocabulary) : Clause → Except RenderError String
  | .leaf c => printCondition v c
  | .combined left connective right => do
    let keyword ← (v.connectiveKeyword? connective).elim (.error (.noConnective connective)) .ok
    let leftText ← print v left
    let rightText ← print v right
    .ok (leftText ++ " " ++ keyword ++ " " ++
      if right.isCombined then "(" ++ rightText ++ ")" else rightText)

end RowQuery.Filter
