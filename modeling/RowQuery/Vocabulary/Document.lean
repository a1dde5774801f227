import RowQuery.Json.Code
import RowQuery.Json.Read
import RowQuery.Unicode.Quoted
import RowQuery.Vocabulary

/-! Vocabularies as documents. A document is decoded whole before any word in it is looked at; then
every word must read as a single word. -/

namespace RowQuery

inductive VocabularyError where
  | malformed
  | unreadable (path reason : String)
  | invalidKeyword (keyword : String)
  deriving DecidableEq, Repr

def VocabularyError.message : VocabularyError → String
  | malformed => "invalid vocabulary JSON: "
  | unreadable path reason => "cannot read vocabulary file " ++ path ++ ": " ++ reason
  | invalidKeyword keyword =>
    "keyword " ++ Unicode.quoted keyword ++ " does not read as a single word"

namespace Vocabulary

/-- What a document says: the words as they are written, in ascending order within each part but for
the delimiters, which keep theirs. -/
structure Source where
  caseSensitive : Bool
  connectives : Keywords Connective
  operators : Keywords Operator
  directions : Keywords Direction
  delimiters : List String

namespace Source

/-- Of a repeated word the last meaning holds, but every meaning must be one. -/
def keywords? {α : Type} [Coded α] : Json → Option (Keywords α)
  | .object members => do
    let entries ← members.mapM fun m => return (← m.1, ← m.2.code? false)
    some (entries.foldl (fun k e => k.insert e.1 e.2) ∅)
  | _ => none

def words? : Json → Option (List String)
  | .array items => items.mapM Json.string?
  | _ => none

def keys : List String :=
  ["case_sensitive", "connectives", "operators", "directions", "order_delimiters"]

/-- The parts in the order of `keys`, a missing one as `none`; an unknown key, a repeated one or an
item too many is an error. -/
def parts? : Json → Option (List (Option Json))
  | .object members =>
    let known := members.all fun m => m.1.any keys.contains
    let distinct := keys.all fun k => (members.filter fun m => m.1 == some k).length ≤ 1
    if known && distinct then some (keys.map (Json.unique? members)) else none
  | .array items =>
    if items.length ≤ keys.length then
      some ((List.range keys.length).map fun i => items[i]?)
    else none
  | _ => none

def part? {α : Type} (absent : α) (decode : Json → Option α) : Option Json → Option α
  | none => some absent
  | some j => decode j

def ofJson? (j : Json) : Option Source := do
  match ← parts? j with
  | [caseSensitive, connectives, operators, directions, delimiters] =>
    some {
      caseSensitive := ← part? false Json.bool? caseSensitive
      connectives := ← part? ∅ keywords? connectives
      operators := ← part? ∅ keywords? operators
      directions := ← part? ∅ keywords? directions
      delimiters := ← part? [] words? delimiters }
  | _ => none

def words (s : Source) : List String :=
  s.connectives.words ++ s.operators.words ++ s.directions.words ++ s.delimiters

end Source

/-- Words that fold to the same spelling meet in ascending order, so the last of them holds. -/
def ofSource (s : Source) : Except VocabularyError Vocabulary :=
  match s.words.find? fun w => !isSingleWord w with
  | some keyword => .error (.invalidKeyword keyword)
  | none => .ok (empty s.caseSensitive
    |>.withConnectives s.connectives.entries
    |>.withOperators s.operators.entries
    |>.withDirections s.directions.entries
    |>.withDelimiters s.delimiters)

def read (text : String) : Except VocabularyError Vocabulary :=
  match (Json.read text).bind Source.ofJson? with
  | some source => ofSource source
  | none => .error .malformed

end Vocabulary

end RowQuery
