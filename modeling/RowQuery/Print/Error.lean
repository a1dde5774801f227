import RowQuery.Meaning
import RowQuery.Unicode.Quoted

/-! Why a filter or an order list cannot be written with the words of a vocabulary. -/

namespace RowQuery

inductive RenderError where
  | noConnective (connective : Connective)
  | noOperator (operator : Operator)
  | noDirection (direction : Direction)
  | noDelimiter
  | unrepresentableField (field : String)
  deriving DecidableEq, Repr

namespace RenderError

def detail : RenderError → String
  | noConnective connective => connective.label
  | noOperator operator => operator.label
  | noDirection direction => direction.label
  | noDelimiter => "order delimiter"
  | unrepresentableField field => field

def message : RenderError → String
  | unrepresentableField field =>
    "field name " ++ Unicode.quoted field ++ " cannot be written as a single word"
  | e => "no keyword for " ++ e.detail ++ " in vocabulary"

end RenderError

end RowQuery
