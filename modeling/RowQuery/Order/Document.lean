import RowQuery.Json.Code
import RowQuery.Json.Read
import RowQuery.Json.Write
import RowQuery.Order.Entry

/-! Order lists as documents. -/

namespace RowQuery.OrderEntry

def toJson (e : OrderEntry) : Json :=
  .ofMembers [("field", .ofString e.field), ("descending", .bool e.descending)]

def ofJson? (j : Json) : Option OrderEntry := do
  match ← j.parts? ["field", "descending"] with
  | [field, descending] => some ⟨← field.string?, ← descending.bool?⟩
  | _ => none

def hasReadableKeys : Json → Bool
  | .object members => members.all fun m => m.1.isSome
  | _ => true

def ofDocument? (j : Json) : Option OrderEntry :=
  if hasReadableKeys j then ofJson? j else none

/-- Members with other keys are passed over unread: they may hold anything the grammar allows. -/
def read (text : String) : Option OrderEntry :=
  (Json.readLoose text).bind ofDocument?

def readList (text : String) : Option (List OrderEntry) :=
  (Json.readLoose text).bind fun
    | .array items => items.mapM ofDocument?
    | _ => none

@[simp] theorem ofJson?_toJson (e : OrderEntry) : ofJson? e.toJson = some e := by
  cases e
  rfl

end RowQuery.OrderEntry
