import RowQuery.Json.Number

/-! Documents as trees. -/

namespace RowQuery

/-- Members keep their order and may repeat a key. A text is missing where its spelling holds half
a surrogate pair, which stands for no text. -/
inductive Json where
  | null
  | bool (b : Bool)
  | number (n : Json.Number)
  | text (s : Option String)
  | array (items : List Json)
  | object (members : List (Option String × Json))

namespace Json

def ofString (s : String) : Json :=
  text (some s)

def ofNat (n : Nat) : Json :=
  number (.ofNat n)

def ofMembers (members : List (String × Json)) : Json :=
  object (members.map fun m => (some m.1, m.2))

mutual

def depth : Json → Nat
  | array items => depthItems items + 1
  | object members => depthMembers members + 1
  | _ => 0

def depthItems : List Json → Nat
  | [] => 0
  | j :: rest => max j.depth (depthItems rest)

def depthMembers : List (Option String × Json) → Nat
  | [] => 0
  | (_, j) :: rest => max j.depth (depthMembers rest)

end

mutual

def isSound : Json → Bool
  | number n => n.isFinite
  | text s => s.isSome
  | array items => areSound items
  | object members => areSoundMembers members
  | _ => true

def areSound : List Json → Bool
  | [] => true
  | j :: rest => j.isSound && areSound rest

def areSoundMembers : List (Option String × Json) → Bool
  | [] => true
  | (key, j) :: rest => key.isSome && j.isSound && areSoundMembers rest

end

def string? : Json → Option String
  | text s => s
  | _ => none

def bool? : Json → Option Bool
  | bool b => some b
  | _ => none

def unique? (members : List (Option String × Json)) (key : String) : Option Json :=
  match members.filter fun m => m.1 == some key with
  | [m] => some m.2
  | _ => none

/-- The parts of a record, read from the members of those names, whatever else there is, or from
the items of an array of that length. -/
def parts? (names : List String) : Json → Option (List Json)
  | object members => names.mapM (unique? members)
  | array items => if items.length = names.length then some items else none
  | _ => none

end Json

end RowQuery
