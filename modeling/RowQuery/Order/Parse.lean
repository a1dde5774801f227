import RowQuery.Order.Entry
import RowQuery.Parse.Machine
import RowQuery.Vocabulary

/-! Reading order lists: fields with an optional direction each, joined by delimiters. A word behind
a field that can be a direction is one, even if it is a delimiter as well. -/

namespace RowQuery.Order

/-- The entries so far come last first. -/
inductive State where
  | field (done : List OrderEntry)
  | direction (done : List OrderEntry) (field : String)
  | delimiter (done : List OrderEntry)
  deriving DecidableEq, Repr

def State.expected : State → List TokenKind
  | field _ => [.word]
  | direction _ _ | delimiter _ => [.word, .endOfInput]

def stepDelimiter (v : Vocabulary) (done : List OrderEntry) (w : String) : Verdict State :=
  if v.isDelimiter w then .take (.field done) else .fault (.unknownWord .orderDelimiter w)

/-- Whether a word is a direction is asked before whether it is a delimiter. -/
def step (v : Vocabulary) (s : State) (t : Token) : Verdict State :=
  match s, t with
  | .field done, .word field => .take (.direction done field)
  | .direction done field, .word w =>
    match v.direction? w with
    | some direction => .take (.delimiter (⟨field, direction == .descending⟩ :: done))
    | none => stepDelimiter v (⟨field, false⟩ :: done) w
  | .delimiter done, .word w => stepDelimiter v done w
  | _, _ => .refuse

def finish : State → Option (List OrderEntry)
  | .field _ => none
  | .direction done field => some (⟨field, false⟩ :: done).reverse
  | .delimiter done => some done.reverse

theorem stepDelimiter_ne_refuse (v : Vocabulary) (done : List OrderEntry) (w : String) :
    stepDelimiter v done w ≠ .refuse := by
  unfold stepDelimiter
  split <;> simp

theorem step_eq_refuse_iff (v : Vocabulary) (s : State) (t : Token) :
    step v s t = .refuse ↔ t.kind ∉ s.expected := by
  cases t with
  | word w =>
    cases s with
    | field done => simp [step, State.expected, Token.kind]
    | direction done field =>
      cases h : v.direction? w <;>
        simp [step, h, stepDelimiter_ne_refuse, State.expected, Token.kind]
    | delimiter done => simp [step, stepDelimiter_ne_refuse, State.expected, Token.kind]
  | _ => cases s <;> simp [step, State.expected, Token.kind]

theorem finish_eq_none_iff (s : State) : finish s = none ↔ .endOfInput ∉ s.expected := by
  cases s <;> simp [finish, State.expected]

/-- The end of the input stands where a delimiter could, and is taken like one. -/
def machine (v : Vocabulary) : Machine State (List OrderEntry) where
  expected := State.expected
  step := step v
  finish := finish
  takesEnd := true
  step_eq_refuse_iff := step_eq_refuse_iff v
  finish_eq_none_iff := finish_eq_none_iff

def run (v : Vocabulary) (text : String) : Run (List OrderEntry) :=
  let reader := Reader.ofText text
  if reader.check .endOfInput then ⟨[], .ok []⟩ else (machine v).read (.field []) reader

def parse (v : Vocabulary) (text : String) : Except ParseError (List OrderEntry) :=
  (run v text).result

end RowQuery.Order
