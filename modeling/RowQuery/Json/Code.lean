import RowQuery.Json.Value
import RowQuery.Meaning

/-! Meanings in documents: a code as a text, or an object with the code as its only key. -/

namespace RowQuery.Json

def ofCode {α : Type} [Coded α] (a : α) : Json :=
  ofString (Coded.code a)

/-- The object form carries nothing behind its key. Inside a clause, nothing may also be an empty
object. -/
def code? {α : Type} [Coded α] (insideClause : Bool) : Json → Option α
  | text (some s) => Coded.ofCode? α s
  | object [(some s, null)] => Coded.ofCode? α s
  | object [(some s, object [])] => if insideClause then Coded.ofCode? α s else none
  | _ => none

@[simp] theorem code?_ofCode {α : Type} [Coded α] (insideClause : Bool) (a : α) :
    code? insideClause (ofCode a) = some a := by
  simp [ofCode, ofString, code?]

end RowQuery.Json
