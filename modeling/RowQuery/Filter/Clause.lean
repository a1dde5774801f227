import RowQuery.Meaning

/-! Filters as trees of conditions. -/

namespace RowQuery

/-- The right-hand side of a condition. The null marker says "no value" and differs from every
text, the text `null` included. -/
inductive Value where
  | text (s : String)
  | null
  deriving DecidableEq, Repr

structure Condition where
  field : String
  operator : Operator
  value : Value
  deriving DecidableEq, Repr

/-- Connectives have no precedence; the tree is the grouping. -/
inductive Clause where
  | leaf (condition : Condition)
  | combined (left : Clause) (connective : Connective) (right : Clause)
  deriving DecidableEq, Repr

namespace Value

def isNull : Value → Bool
  | null => true
  | text _ => false

def text? : Value → Option String
  | text s => some s
  | null => none

end Value

namespace Clause

def condition (field : String) (operator : Operator) (value : Value) : Clause :=
  leaf ⟨field, operator, value⟩

def joinCondition (c : Clause) (connective : Connective) (field : String) (operator : Operator)
    (value : Value) : Clause :=
  combined c connective (condition field operator value)

protected def and (c : Clause) (field : String) (operator : Operator) (value : Value) : Clause :=
  c.joinCondition .and field operator value

protected def or (c : Clause) (field : String) (operator : Operator) (value : Value) : Clause :=
  c.joinCondition .or field operator value

def depth : Clause → Nat
  | leaf _ => 1
  | combined left _ right => 1 + max left.depth right.depth

def joints : Clause → Nat
  | leaf _ => 0
  | combined left _ right => left.joints + right.joints + 1

def conditions : Clause → List Condition
  | leaf c => [c]
  | combined left _ right => left.conditions ++ right.conditions

def isCombined : Clause → Bool
  | leaf _ => false
  | combined _ _ _ => true

/-- What is left to do for the clauses on a stack: a joint puts two clauses for one on it. -/
def work : List Clause → Nat
  | [] => 0
  | c :: rest => 2 * c.joints + 1 + work rest

/-- The same conditions, met by a walk that keeps the clauses still to visit on a stack. -/
def walk : List Clause → List Condition
  | [] => []
  | leaf c :: rest => c :: walk rest
  | combined left _ right :: rest => walk (left :: right :: rest)
termination_by stack => work stack
decreasing_by
  all_goals
    simp only [work, joints]
    omega

def leaves (c : Clause) : List Condition :=
  walk [c]

theorem depth_pos (c : Clause) : 0 < c.depth := by
  cases c with
  | leaf => exact Nat.one_pos
  | combined => exact Nat.lt_of_lt_of_le Nat.one_pos (Nat.le_add_right _ _)

theorem length_conditions (c : Clause) : c.conditions.length = c.joints + 1 := by
  induction c with
  | leaf => rfl
  | combined left _ right ihl ihr =>
    rw [conditions, List.length_append, ihl, ihr, joints]
    omega

theorem walk_eq_flatMap (stack : List Clause) : walk stack = stack.flatMap conditions := by
  fun_induction walk stack with
  | case1 => rfl
  | case2 c rest ih => rw [ih, List.flatMap_cons, conditions, List.singleton_append]
  | case3 left _ right rest ih =>
    rw [ih, List.flatMap_cons, List.flatMap_cons, List.flatMap_cons, conditions,
      List.append_assoc]

@[simp] theorem leaves_eq_conditions (c : Clause) : c.leaves = c.conditions := by
  rw [leaves, walk_eq_flatMap, List.flatMap_cons, List.flatMap_nil, List.append_nil]

end Clause

end RowQuery
