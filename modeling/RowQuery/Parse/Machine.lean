import RowQuery.Parse.Reader

/-! Machines that read a text token by token. What a machine has taken is what its reader has advanced
over: a token is taken if it is of a kind that the machine expects, even if it turns out faulty. -/

namespace RowQuery

/-- What a machine does with the token in view: it takes it and goes on, it leaves it where it is, or
it takes it only to find it faulty. -/
inductive Verdict (σ : Type) where
  | take (next : σ)
  | refuse
  | fault (fault : Fault)
  deriving DecidableEq, Repr

/-- `expected` names the kinds that may stand next, in the order that messages name them, and `finish`
is asked at the end of the input. `takesEnd` tells a machine that takes the end of the input like a
token from one that only looks at it. -/
structure Machine (σ α : Type) where
  expected : σ → List TokenKind
  step : σ → Token → Verdict σ
  finish : σ → Option α
  takesEnd : Bool
  step_eq_refuse_iff : ∀ s t, step s t = .refuse ↔ t.kind ∉ expected s
  finish_eq_none_iff : ∀ s, finish s = none ↔ .endOfInput ∉ expected s

structure Run (α : Type) where
  taken : List Reading
  result : Except ParseError α

namespace Machine

variable {σ α : Type}

def conclude (m : Machine σ α) (s : σ) (stop : Nat) : Run α :=
  match m.finish s with
  | some a => ⟨if m.takesEnd then [⟨none, stop⟩] else [], .ok a⟩
  | none => ⟨[], .error (.unexpectedToken .endOfInput (m.expected s) stop)⟩

/-- A token of a kind that is expected is never refused, nor is the end of the input. -/
def read (m : Machine σ α) (s : σ) (r : Reader) : Run α :=
  match _h : r.expect (m.expected s) with
  | .error e => ⟨[], .error e⟩
  | .ok (⟨none, stop⟩, _) => m.conclude s stop
  | .ok (⟨some t, position⟩, behind) =>
    match m.step s t with
    | .take next =>
      let rest := m.read next behind
      ⟨⟨some t, position⟩ :: rest.taken, rest.result⟩
    | .refuse => ⟨[], .error (r.unexpected (m.expected s))⟩
    | .fault f => ⟨[⟨some t, position⟩], .error (f.toError position)⟩
termination_by r.left
decreasing_by exact Reader.left_lt_of_expect _h

end Machine

end RowQuery
