import RowQuery.Proofs.Parse.Reads
import RowQuery.Proofs.Token.Fold

/-! Two machines in step. The second reads the same tokens with other texts, and does with each what
the first does; so it takes the same stretch of the text and ends at the same place. Or it does so
only as long as the first gets on, and then what the first accepts it accepts. -/

namespace RowQuery

def ParseError.mapWord (f : String → String) : ParseError → ParseError
  | unexpectedToken found expected position => unexpectedToken found expected position
  | unresolvedKeyword kind word position => unresolvedKeyword kind (f word) position
  | nestingTooDeep limit position => nestingTooDeep limit position

@[simp] theorem ParseError.mapWord_id : ParseError.mapWord id = id := by
  funext e
  cases e <;> rfl

@[simp] theorem mapError_id {ε α : Type} (x : Except ε α) : x.mapError id = x := by
  cases x <;> rfl

def Fault.mapWord (f : String → String) : Fault → Fault
  | unknownWord kind word => unknownWord kind (f word)
  | tooDeep limit => tooDeep limit

theorem Fault.toError_mapWord (f : String → String) (fault : Fault) (position : Nat) :
    (fault.mapWord f).toError position = (fault.toError position).mapWord f := by
  cases fault <;> rfl

def Reading.mapText (f : String → String) (r : Reading) : Reading :=
  { r with token? := r.token?.map (Token.mapText f) }

variable {σ τ α β : Type}

def Verdict.map (onText : String → String) (onState : σ → τ) : Verdict σ → Verdict τ
  | take next => take (onState next)
  | refuse => refuse
  | fault f => fault (f.mapWord onText)

def Run.map (onText : String → String) (onResult : α → β) (r : Run α) : Run β :=
  ⟨r.taken.map (Reading.mapText onText), (r.result.map onResult).mapError (.mapWord onText)⟩

namespace Machine

/-- The machine `m'` does what `m` does, once texts, states and results are carried over. Only tokens
that a text can hold need be considered. -/
structure Follows (m' : Machine τ β) (m : Machine σ α) (onText : String → String)
    (onState : σ → τ) (onResult : α → β) : Prop where
  expected : ∀ s, m'.expected (onState s) = m.expected s
  step : ∀ s tok, tok.Legible →
    m'.step (onState s) (tok.mapText onText) = (m.step s tok).map onText onState
  finish : ∀ s, m'.finish (onState s) = (m.finish s).map onResult
  takesEnd : m'.takesEnd = m.takesEnd

section Follows

variable {m' : Machine τ β} {m : Machine σ α} {onText : String → String} {onState : σ → τ}
  {onResult : α → β}

theorem Follows.conclude_eq (h : m'.Follows m onText onState onResult) (s : σ) (stop : Nat) :
    m'.conclude (onState s) stop = (m.conclude s stop).map onText onResult := by
  rw [conclude, conclude, h.finish, h.expected, h.takesEnd]
  cases m.finish s with
  | none => rfl
  | some a => cases m.takesEnd <;> rfl

theorem Follows.run_eq (h : m'.Follows m onText onState onResult) (stop : Nat) (s : σ)
    {ls : List Lexeme} (hls : ∀ l ∈ ls, l.token.Legible) :
    m'.run stop (onState s) (ls.map (Lexeme.mapText onText)) =
      (m.run stop s ls).map onText onResult := by
  induction ls generalizing s with
  | nil => exact h.conclude_eq s stop
  | cons l rest ih =>
    rw [List.forall_mem_cons] at hls
    have hstep : m'.step (onState s) (l.mapText onText).token =
        (m.step s l.token).map onText onState := h.step s l.token hls.1
    rw [List.map_cons, run, run, hstep, h.expected]
    cases m.step s l.token with
    | take next =>
      simp only [Verdict.map, ih next hls.2]
      rfl
    | refuse =>
      simp only [Verdict.map, Lexeme.kind_mapText]
      rfl
    | fault f =>
      simp only [Verdict.map, Fault.toError_mapWord]
      rfl

end Follows

/-- The machine `m'` takes whatever `m` takes, and comes to the same; what `m` does not take it may
take as well. Only tokens that a text can hold need be considered. -/
structure Includes (m' m : Machine σ α) : Prop where
  step : ∀ s t tok, tok.Legible → m.step s tok = .take t → m'.step s tok = .take t
  finish : ∀ s a, m.finish s = some a → m'.finish s = some a

theorem Includes.reads {m' m : Machine σ α} (h : m'.Includes m) {s t : σ} {ts : List Token}
    (hts : ∀ tok ∈ ts, tok.Legible) (hreads : m.Reads s ts t) : m'.Reads s ts t := by
  induction hreads with
  | nil => exact .nil _
  | cons hstep _ ih =>
    rw [List.forall_mem_cons] at hts
    exact .cons (h.step _ _ _ hts.1 hstep) (ih hts.2)

end Machine

theorem Lexeme.legible_of_mem_ofText {text : String} :
    ∀ l ∈ Lexeme.ofText text, l.token.Legible := by
  intro l hl
  exact Token.legible_of_mem_ofChars l.token (List.mem_map_of_mem hl)

theorem Machine.Includes.result_of_ok {m' m : Machine σ α} (h : m'.Includes m) {s : σ}
    {text : String} {stop : Nat} {a : α} (hok : (m.run stop s (Lexeme.ofText text)).result = .ok a) :
    (m'.run stop s (Lexeme.ofText text)).result = .ok a := by
  obtain ⟨t, hreads, hfinish⟩ := result_run_eq_ok_iff.mp hok
  exact result_run_eq_ok_iff.mpr
    ⟨t, h.reads Token.legible_of_mem_ofChars hreads, h.finish t a hfinish⟩

end RowQuery
