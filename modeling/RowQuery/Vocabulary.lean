import RowQuery.Meaning
import RowQuery.Vocabulary.Keywords

/-! Vocabularies: which words act as operators, connectives, directions and order delimiters. Words
that do not read as a single word may be added; no text can use them. -/

namespace RowQuery

/-- The spelling under which a word is kept and looked up. -/
def spell (caseSensitive : Bool) (word : String) : String :=
  if caseSensitive then word else foldCase word

@[simp] theorem spell_spell (caseSensitive : Bool) (word : String) :
    spell caseSensitive (spell caseSensitive word) = spell caseSensitive word := by
  cases caseSensitive <;> simp [spell]

def Keywords.Spelled {α : Type} (caseSensitive : Bool) (keywords : Keywords α) : Prop :=
  ∀ w ∈ keywords.words, spell caseSensitive w = w

theorem Keywords.Spelled.empty {α : Type} (caseSensitive : Bool) :
    Keywords.Spelled caseSensitive (∅ : Keywords α) :=
  fun _ h => nomatch h

theorem Keywords.Spelled.insert {α : Type} {caseSensitive : Bool} {keywords : Keywords α}
    (h : keywords.Spelled caseSensitive) (word : String) (meaning : α) :
    (keywords.insert (spell caseSensitive word) meaning).Spelled caseSensitive := by
  intro w hw
  rcases Keywords.mem_words_insert hw with rfl | hw
  · simp
  · exact h w hw

structure Vocabulary where
  caseSensitive : Bool
  connectives : Keywords Connective
  operators : Keywords Operator
  directions : Keywords Direction
  delimiters : Keywords Unit
  connectives_spelled : connectives.Spelled caseSensitive
  operators_spelled : operators.Spelled caseSensitive
  directions_spelled : directions.Spelled caseSensitive
  delimiters_spelled : delimiters.Spelled caseSensitive
  deriving DecidableEq

namespace Vocabulary

def empty (caseSensitive : Bool) : Vocabulary where
  caseSensitive := caseSensitive
  connectives := ∅
  operators := ∅
  directions := ∅
  delimiters := ∅
  connectives_spelled := .empty _
  operators_spelled := .empty _
  directions_spelled := .empty _
  delimiters_spelled := .empty _

def withConnective (v : Vocabulary) (word : String) (connective : Connective) : Vocabulary :=
  { v with
    connectives := v.connectives.insert (spell v.caseSensitive word) connective
    connectives_spelled := v.connectives_spelled.insert word connective }

def withOperator (v : Vocabulary) (word : String) (operator : Operator) : Vocabulary :=
  { v with
    operators := v.operators.insert (spell v.caseSensitive word) operator
    operators_spelled := v.operators_spelled.insert word operator }

def withDirection (v : Vocabulary) (word : String) (direction : Direction) : Vocabulary :=
  { v with
    directions := v.directions.insert (spell v.caseSensitive word) direction
    directions_spelled := v.directions_spelled.insert word direction }

def withDelimiter (v : Vocabulary) (word : String) : Vocabulary :=
  { v with
    delimiters := v.delimiters.insert (spell v.caseSensitive word) ()
    delimiters_spelled := v.delimiters_spelled.insert word () }

def connective? (v : Vocabulary) (word : String) : Option Connective :=
  v.connectives.get? (spell v.caseSensitive word)

def operator? (v : Vocabulary) (word : String) : Option Operator :=
  v.operators.get? (spell v.caseSensitive word)

def direction? (v : Vocabulary) (word : String) : Option Direction :=
  v.directions.get? (spell v.caseSensitive word)

def isDelimiter (v : Vocabulary) (word : String) : Bool :=
  v.delimiters.contains (spell v.caseSensitive word)

/-- Spelled-out words are preferred to symbols. -/
def connectiveKeyword? (v : Vocabulary) (connective : Connective) : Option String :=
  v.connectives.choose? (fun w => !isSymbolic w) connective

def operatorKeyword? (v : Vocabulary) (operator : Operator) : Option String :=
  v.operators.choose? (fun w => !isSymbolic w) operator

def directionKeyword? (v : Vocabulary) (direction : Direction) : Option String :=
  v.directions.choose? (fun w => !isSymbolic w) direction

def delimiterKeyword? (v : Vocabulary) : Option String :=
  v.delimiters.choose? isSymbolic ()

def withConnectives (v : Vocabulary) (entries : List (String × Connective)) : Vocabulary :=
  entries.foldl (fun v e => v.withConnective e.1 e.2) v

def withOperators (v : Vocabulary) (entries : List (String × Operator)) : Vocabulary :=
  entries.foldl (fun v e => v.withOperator e.1 e.2) v

def withDirections (v : Vocabulary) (entries : List (String × Direction)) : Vocabulary :=
  entries.foldl (fun v e => v.withDirection e.1 e.2) v

def withDelimiters (v : Vocabulary) (words : List String) : Vocabulary :=
  words.foldl withDelimiter v

/-- The words of the Open Data Protocol with their usual symbols, and a comma between order
entries. -/
def preset : Vocabulary :=
  empty false
    |>.withConnectives [("and", .and), ("&&", .and), ("or", .or), ("||", .or)]
    |>.withOperators
      [("eq", .isEqualTo), ("=", .isEqualTo), ("==", .isEqualTo),
       ("ne", .isNotEqualTo), ("!=", .isNotEqualTo), ("<>", .isNotEqualTo),
       ("lt", .isLessThan), ("<", .isLessThan),
       ("le", .isLessThanOrEqualTo), ("<=", .isLessThanOrEqualTo),
       ("gt", .isGreaterThan), (">", .isGreaterThan),
       ("ge", .isGreaterThanOrEqualTo), (">=", .isGreaterThanOrEqualTo),
       ("startswith", .startsWith), ("endswith", .endsWith),
       ("contains", .contains), ("doesnotcontain", .doesNotContain), ("in", .isContainedIn)]
    |>.withDirections
      [("asc", .ascending), ("ascending", .ascending),
       ("desc", .descending), ("descending", .descending)]
    |>.withDelimiters [","]

/-! The last call for a spelling decides what the words of that spelling mean. -/

theorem connective?_withConnective (v : Vocabulary) (word : String) (c : Connective) (w : String) :
    (v.withConnective word c).connective? w =
      if spell v.caseSensitive w = spell v.caseSensitive word then some c else v.connective? w :=
  Keywords.get?_insert ..

theorem operator?_withOperator (v : Vocabulary) (word : String) (o : Operator) (w : String) :
    (v.withOperator word o).operator? w =
      if spell v.caseSensitive w = spell v.caseSensitive word then some o else v.operator? w :=
  Keywords.get?_insert ..

theorem direction?_withDirection (v : Vocabulary) (word : String) (d : Direction) (w : String) :
    (v.withDirection word d).direction? w =
      if spell v.caseSensitive w = spell v.caseSensitive word then some d else v.direction? w :=
  Keywords.get?_insert ..

end Vocabulary

end RowQuery
