import RowQuery.Proofs.Filter.Acceptance
import RowQuery.Proofs.Parse.Simulation

/-! Reading a filter under other texts, other keywords or another notion of a value. As long as each
keyword keeps its meaning and each token its value, the tree keeps its shape. -/

namespace RowQuery

def Clause.mapConditions (f : Condition → Condition) : Clause → Clause
  | leaf c => leaf (f c)
  | combined left connective right =>
    combined (left.mapConditions f) connective (right.mapConditions f)

@[simp] theorem Clause.mapConditions_id : Clause.mapConditions id = id := by
  funext c
  induction c with
  | leaf => rfl
  | combined left _ right ihl ihr =>
    rw [mapConditions, ihl, ihr]
    rfl

theorem Clause.conditions_mapConditions (f : Condition → Condition) (c : Clause) :
    (c.mapConditions f).conditions = c.conditions.map f := by
  induction c with
  | leaf => rfl
  | combined left _ right ihl ihr =>
    rw [mapConditions, conditions, ihl, ihr, conditions, List.map_append]

def Condition.relabel (onText : String → String) (onValue : Value → Value) (c : Condition) :
    Condition :=
  { c with field := onText c.field, value := onValue c.value }

@[simp] theorem Condition.relabel_id : Condition.relabel id id = id := rfl

namespace Filter

variable {onText : String → String} {onValue : Value → Value}

def Pending.relabel (onText : String → String) (onValue : Value → Value) : Pending → Pending
  | none => none
  | some (c, connective) => some (c.mapConditions (.relabel onText onValue), connective)

def Phase.relabel (onText : String → String) (onValue : Value → Value) : Phase → Phase
  | clause p => clause (p.relabel onText onValue)
  | operator p field => operator (p.relabel onText onValue) (onText field)
  | value p field o => value (p.relabel onText onValue) (onText field) o
  | joint body => joint (body.mapConditions (.relabel onText onValue))

def State.relabel (onText : String → String) (onValue : Value → Value) (s : State) : State :=
  ⟨s.outer.map (Pending.relabel onText onValue), s.phase.relabel onText onValue⟩

theorem State.expected_relabel (s : State) : (s.relabel onText onValue).expected = s.expected := by
  obtain ⟨outer, phase⟩ := s
  cases phase <;> cases outer <;> rfl

theorem State.joint_relabel (outer : List Pending) (p : Pending) (c : Clause) :
    ⟨outer.map (.relabel onText onValue),
        .joint ((p.relabel onText onValue).join (c.mapConditions (.relabel onText onValue)))⟩ =
      State.relabel onText onValue ⟨outer, .joint (p.join c)⟩ := by
  cases p <;> rfl

/-- Keywords keep their meanings and tokens their values. -/
structure Relabels (v v' : Vocabulary) (options options' : ParseOptions)
    (onText : String → String) (onValue : Value → Value) : Prop where
  operator : ∀ w, isSingleWord w = true → v'.operator? (onText w) = v.operator? w
  connective : ∀ w, isSingleWord w = true → v'.connective? (onText w) = v.connective? w
  value : ∀ t, valueOf? options'.nullMarker (t.mapText onText) =
    (valueOf? options.nullMarker t).map onValue
  maxDepth : options'.maxDepth = options.maxDepth

variable {v v' : Vocabulary} {options options' : ParseOptions}

theorem Relabels.atLimit_eq (h : Relabels v v' options options' onText onValue)
    (outer : List Pending) :
    atLimit options' (outer.map (Pending.relabel onText onValue)) = atLimit options outer := by
  rw [atLimit, h.maxDepth, List.length_map, atLimit]

theorem Relabels.step_eq (h : Relabels v v' options options' onText onValue) (s : State)
    {tok : Token} (htok : tok.Legible) :
    step v' options' (s.relabel onText onValue) (tok.mapText onText) =
      (step v options s tok).map onText (State.relabel onText onValue) := by
  obtain ⟨outer, phase⟩ := s
  cases phase with
  | clause p =>
    cases tok with
    | openGroup =>
      have hlimit := h.atLimit_eq outer
      simp only [step, State.relabel, Phase.relabel, Token.mapText, hlimit]
      cases atLimit options outer <;> rfl
    | _ => rfl
  | operator p field =>
    cases tok with
    | word w =>
      have hw := h.operator w (isSingleWord_iff.mpr htok)
      simp only [step, State.relabel, Phase.relabel, Token.mapText, hw]
      cases v.operator? w <;> rfl
    | _ => rfl
  | value p field o =>
    have hvalue := h.value tok
    simp only [step, State.relabel, Phase.relabel, hvalue]
    cases valueOf? options.nullMarker tok with
    | none => rfl
    | some value =>
      exact congrArg Verdict.take (State.joint_relabel outer p (.condition field o value))
  | joint body =>
    cases tok with
    | closeGroup =>
      cases outer with
      | nil => rfl
      | cons p outer => exact congrArg Verdict.take (State.joint_relabel outer p body)
    | word w =>
      have hw := h.connective w (isSingleWord_iff.mpr htok)
      simp only [step, State.relabel, Phase.relabel, Token.mapText, hw]
      cases v.connective? w <;> rfl
    | _ => rfl

theorem finish_relabel (s : State) :
    finish (s.relabel onText onValue) =
      (finish s).map (Clause.mapConditions (.relabel onText onValue)) := by
  obtain ⟨outer, phase⟩ := s
  cases outer <;> cases phase <;> rfl

theorem Relabels.follows (h : Relabels v v' options options' onText onValue) :
    (machine v' options').Follows (machine v options) onText (State.relabel onText onValue)
      (Clause.mapConditions (.relabel onText onValue)) where
  expected := State.expected_relabel
  step := fun s _ htok => h.step_eq s htok
  finish := finish_relabel
  takesEnd := rfl

theorem Relabels.run_eq (h : Relabels v v' options options' onText onValue) {text text' : String}
    (hlexemes : Lexeme.ofText text' = (Lexeme.ofText text).map (Lexeme.mapText onText))
    (hlength : text'.length = text.length) :
    run v' options' text' =
      (run v options text).map onText
        (Option.map (Clause.mapConditions (.relabel onText onValue))) := by
  by_cases htext : Lexeme.ofText text = []
  · rw [run_of_nil htext, run_of_nil (by rw [hlexemes, htext, List.map_nil])]
    rfl
  · have htext' : Lexeme.ofText text' ≠ [] := by
      rwa [hlexemes, ne_eq, List.map_eq_nil_iff]
    have hrun : (machine v' options').run text.length .start (Lexeme.ofText text') =
        ((machine v options).run text.length .start (Lexeme.ofText text)).map onText
          (Clause.mapConditions (.relabel onText onValue)) := by
      rw [hlexemes]
      exact h.follows.run_eq text.length .start Lexeme.legible_of_mem_ofText
    rw [run_of_ne_nil htext, run_of_ne_nil htext', hlength, hrun]
    simp only [Run.map]
    cases ((machine v options).run text.length .start (Lexeme.ofText text)).result <;> rfl

theorem Relabels.parse_eq (h : Relabels v v' options options' onText onValue)
    {text text' : String}
    (hlexemes : Lexeme.ofText text' = (Lexeme.ofText text).map (Lexeme.mapText onText))
    (hlength : text'.length = text.length) :
    parse v' options' text' =
      ((parse v options text).map
        (Option.map (Clause.mapConditions (.relabel onText onValue)))).mapError
          (.mapWord onText) :=
  congrArg Run.result (h.run_eq hlexemes hlength)

theorem Relabels.parse_same (h : Relabels v v' options options' id onValue) (text : String) :
    parse v' options' text =
      (parse v options text).map
        (Option.map (Clause.mapConditions (.relabel id onValue))) := by
  rw [h.parse_eq (Lexeme.map_mapText_id _).symm rfl, ParseError.mapWord_id, mapError_id]

end Filter

end RowQuery
