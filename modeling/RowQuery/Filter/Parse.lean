import RowQuery.Filter.Clause
import RowQuery.Parse.Machine
import RowQuery.Vocabulary

/-! Reading filters. A body is a clause followed by any number of connectives with a clause each,
folded from left to right; a clause is a body in parentheses, or a field, an operator and a value. -/

namespace RowQuery

/-- `nullMarker` makes the bare word `null` the null marker; `maxDepth` bounds how many groups may
be open at once. -/
structure ParseOptions where
  nullMarker : Bool := false
  maxDepth : Option Nat := none
  deriving DecidableEq, Repr

namespace Filter

/-- The clauses so far of a body with the connective behind them; none at its beginning. -/
abbrev Pending := Option (Clause × Connective)

def Pending.join : Pending → Clause → Clause
  | none, c => c
  | some (left, connective), c => .combined left connective c

inductive Phase where
  | clause (pending : Pending)
  | operator (pending : Pending) (field : String)
  | value (pending : Pending) (field : String) (operator : Operator)
  | joint (body : Clause)
  deriving DecidableEq, Repr

/-- `outer` holds what each open group interrupted, the innermost first. -/
structure State where
  outer : List Pending
  phase : Phase
  deriving DecidableEq, Repr

def State.start : State :=
  ⟨[], .clause none⟩

def State.terminator (s : State) : TokenKind :=
  if s.outer.isEmpty then .endOfInput else .closeGroup

/-- What may stand next, in the order that messages name it. -/
def State.expected (s : State) : List TokenKind :=
  match s.phase with
  | .clause _ => [.openGroup, .word]
  | .operator _ _ => [.word]
  | .value _ _ _ => [.word, .number, .string]
  | .joint _ => [s.terminator, .word]

/-- The value a token stands for; a quoted `null` stays text. -/
def valueOf? (nullMarker : Bool) : Token → Option Value
  | .word w => some (if nullMarker && w == "null" then .null else .text w)
  | .number n => some (.text n)
  | .string s => some (.text s)
  | .openGroup | .closeGroup => none

def atLimit (options : ParseOptions) (outer : List Pending) : Option Nat :=
  options.maxDepth.filter fun limit => limit ≤ outer.length

/-- A word is tried as the keyword that its place calls for, and as nothing else. -/
def step (v : Vocabulary) (options : ParseOptions) (s : State) (t : Token) : Verdict State :=
  match s.phase, t with
  | .clause pending, .openGroup =>
    match atLimit options s.outer with
    | some limit => .fault (.tooDeep limit)
    | none => .take ⟨pending :: s.outer, .clause none⟩
  | .clause pending, .word field => .take ⟨s.outer, .operator pending field⟩
  | .operator pending field, .word w =>
    match v.operator? w with
    | some operator => .take ⟨s.outer, .value pending field operator⟩
    | none => .fault (.unknownWord .operator w)
  | .value pending field operator, t =>
    match valueOf? options.nullMarker t with
    | some value => .take ⟨s.outer, .joint (pending.join (.condition field operator value))⟩
    | none => .refuse
  | .joint body, .closeGroup =>
    match s.outer with
    | pending :: outer => .take ⟨outer, .joint (pending.join body)⟩
    | [] => .refuse
  | .joint body, .word w =>
    match v.connective? w with
    | some connective => .take ⟨s.outer, .clause (some (body, connective))⟩
    | none => .fault (.unknownWord .connective w)
  | _, _ => .refuse

/-- Only a clause outside all groups may be the last thing read. -/
def finish (s : State) : Option Clause :=
  match s.outer, s.phase with
  | [], .joint body => some body
  | _, _ => none

theorem step_eq_refuse_iff (v : Vocabulary) (options : ParseOptions) (s : State) (t : Token) :
    step v options s t = .refuse ↔ t.kind ∉ s.expected := by
  obtain ⟨outer, phase⟩ := s
  cases phase with
  | clause p =>
    cases t with
    | openGroup => cases h : atLimit options outer <;> simp [step, h, State.expected, Token.kind]
    | _ => simp [step, State.expected, Token.kind]
  | operator p field =>
    cases t with
    | word w => cases h : v.operator? w <;> simp [step, h, State.expected, Token.kind]
    | _ => simp [step, State.expected, Token.kind]
  | value p field o => cases t <;> simp [step, valueOf?, State.expected, Token.kind]
  | joint body =>
    cases t with
    | closeGroup => cases outer <;> simp [step, State.expected, State.terminator, Token.kind]
    | word w => cases h : v.connective? w <;> simp [step, h, State.expected, Token.kind]
    | _ => cases outer <;> simp [step, State.expected, State.terminator, Token.kind]

theorem finish_eq_none_iff (s : State) : finish s = none ↔ .endOfInput ∉ s.expected := by
  obtain ⟨outer, phase⟩ := s
  cases phase <;> cases outer <;> simp [finish, State.expected, State.terminator]

def machine (v : Vocabulary) (options : ParseOptions) : Machine State Clause where
  expected := State.expected
  step := step v options
  finish := finish
  takesEnd := false
  step_eq_refuse_iff := step_eq_refuse_iff v options
  finish_eq_none_iff := finish_eq_none_iff

/-- A text without tokens is no filter, which is not an error. -/
def run (v : Vocabulary) (options : ParseOptions) (text : String) : Run (Option Clause) :=
  let reader := Reader.ofText text
  if reader.check .endOfInput then ⟨[], .ok none⟩
  else
    let r := (machine v options).read .start reader
    ⟨r.taken, r.result.map some⟩

def parse (v : Vocabulary) (options : ParseOptions) (text : String) :
    Except ParseError (Option Clause) :=
  (run v options text).result

end Filter

end RowQuery
