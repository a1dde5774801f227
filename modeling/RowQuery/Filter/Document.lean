import RowQuery.Filter.Clause
import RowQuery.Json.Code
import RowQuery.Json.Read
import RowQuery.Json.Write

/-! Filters as documents: a clause is an object that names its shape, or an array of the shape and
its parts. -/

namespace RowQuery

namespace Value

def toJson : Value → Json
  | text s => .ofString s
  | null => .null

def ofJson? : Json → Option Value
  | .text s => s.map text
  | .null => some null
  | _ => none

@[simp] theorem ofJson?_toJson (v : Value) : ofJson? v.toJson = some v := by
  cases v <;> rfl

end Value

namespace Clause

inductive Shape where
  | leaf
  | combined
  deriving DecidableEq, Repr

def Shape.name : Shape → String
  | .leaf => "leaf"
  | .combined => "combined"

/-- Clauses within a clause may also number their shape. -/
def Shape.ofJson? (nested : Bool) : Json → Option Shape
  | .text (some s) =>
    if s = Shape.leaf.name then some leaf
    else if s = Shape.combined.name then some combined
    else none
  | .number n =>
    match nested, n.nat? with
    | true, some 0 => some leaf
    | true, some 1 => some combined
    | _, _ => none
  | _ => none

def Shape.keys : Shape → List String
  | .leaf => ["type", "field", "operator", "value"]
  | .combined => ["type", "connective", "left", "right"]

def shapeOf? (nested : Bool) (j : Json) : Option Shape :=
  match j with
  | .object members => (Json.unique? members "type").bind (Shape.ofJson? nested)
  | .array (shape :: _) => Shape.ofJson? nested shape
  | _ => none

def toJson : Clause → Json
  | leaf c =>
    .ofMembers [("type", .ofString Shape.leaf.name), ("field", .ofString c.field),
      ("operator", .ofCode c.operator), ("value", c.value.toJson)]
  | combined left connective right =>
    .ofMembers [("type", .ofString Shape.combined.name), ("connective", .ofCode connective),
      ("left", left.toJson), ("right", right.toJson)]

def ofJsonWithin? (depth : Nat) (nested : Bool) (j : Json) : Option Clause :=
  match depth with
  | 0 => none
  | depth + 1 => do
    let shape ← shapeOf? nested j
    match shape, ← j.parts? shape.keys with
    | .leaf, [_, field, operator, value] =>
      some (.leaf ⟨← field.string?, ← operator.code? true, ← Value.ofJson? value⟩)
    | .combined, [_, connective, left, right] =>
      some (.combined (← ofJsonWithin? depth true left) (← connective.code? true)
        (← ofJsonWithin? depth true right))
    | _, _ => none

/-- Clauses nest no deeper than the document that holds them. -/
def ofJson? (j : Json) : Option Clause :=
  ofJsonWithin? j.depth false j

def read (text : String) : Option Clause :=
  (Json.read text).bind ofJson?

end Clause

end RowQuery
