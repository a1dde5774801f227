/-! What a keyword can mean. Each meaning has a code, which documents use, and a label, which
messages use. -/

namespace RowQuery

/-- A finite set of meanings, told apart by their codes. -/
class Coded (α : Type) where
  all : List α
  code : α → String
  find?_code (a : α) : all.find? (fun b => code b == code a) = some a

namespace Coded

def ofCode? (α : Type) [Coded α] (s : String) : Option α :=
  (all (α := α)).find? fun a => code a == s

@[simp] theorem ofCode?_code {α : Type} [Coded α] (a : α) : ofCode? α (code a) = some a :=
  find?_code a

end Coded

inductive Operator where
  | isEqualTo
  | isNotEqualTo
  | isLessThan
  | isLessThanOrEqualTo
  | isGreaterThan
  | isGreaterThanOrEqualTo
  | startsWith
  | endsWith
  | contains
  | doesNotContain
  | isContainedIn
  deriving DecidableEq, Repr

namespace Operator

def all : List Operator :=
  [isEqualTo, isNotEqualTo, isLessThan, isLessThanOrEqualTo, isGreaterThan,
   isGreaterThanOrEqualTo, startsWith, endsWith, contains, doesNotContain, isContainedIn]

def code : Operator → String
  | isEqualTo => "is_equal_to"
  | isNotEqualTo => "is_not_equal_to"
  | isLessThan => "is_less_than"
  | isLessThanOrEqualTo => "is_less_than_or_equal_to"
  | isGreaterThan => "is_greater_than"
  | isGreaterThanOrEqualTo => "is_greater_than_or_equal_to"
  | startsWith => "starts_with"
  | endsWith => "ends_with"
  | contains => "contains"
  | doesNotContain => "does_not_contain"
  | isContainedIn => "is_contained_in"

def label : Operator → String
  | isEqualTo => "IsEqualTo"
  | isNotEqualTo => "IsNotEqualTo"
  | isLessThan => "IsLessThan"
  | isLessThanOrEqualTo => "IsLessThanOrEqualTo"
  | isGreaterThan => "IsGreaterThan"
  | isGreaterThanOrEqualTo => "IsGreaterThanOrEqualTo"
  | startsWith => "StartsWith"
  | endsWith => "EndsWith"
  | contains => "Contains"
  | doesNotContain => "DoesNotContain"
  | isContainedIn => "IsContainedIn"

instance : Coded Operator where
  all := all
  code := code
  find?_code o := by cases o <;> decide +kernel

end Operator

inductive Connective where
  | and
  | or
  deriving DecidableEq, Repr

namespace Connective

def code : Connective → String
  | and => "and"
  | or => "or"

def label : Connective → String
  | and => "And"
  | or => "Or"

instance : Coded Connective where
  all := [and, or]
  code := code
  find?_code c := by cases c <;> decide +kernel

end Connective

inductive Direction where
  | ascending
  | descending
  deriving DecidableEq, Repr

namespace Direction

def code : Direction → String
  | ascending => "ascending"
  | descending => "descending"

def label : Direction → String
  | ascending => "Ascending"
  | descending => "Descending"

instance : Coded Direction where
  all := [ascending, descending]
  code := code
  find?_code d := by cases d <;> decide +kernel

end Direction

end RowQuery
