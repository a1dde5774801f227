import RowQuery.Proofs.Order.Acceptance
import RowQuery.Proofs.Parse.Simulation

/-! Reading an order list under other texts or other keywords. As long as each word keeps its role,
each entry keeps its direction. -/

namespace RowQuery

def OrderEntry.mapField (f : String → String) (e : OrderEntry) : OrderEntry :=
  { e with field := f e.field }

@[simp] theorem OrderEntry.mapField_id : OrderEntry.mapField id = id := rfl

namespace Order

variable {onText : String → String}

def State.relabel (onText : String → String) : State → State
  | field done => field (done.map (.mapField onText))
  | direction done f => direction (done.map (.mapField onText)) (onText f)
  | delimiter done => delimiter (done.map (.mapField onText))

theorem State.expected_relabel (s : State) : (s.relabel onText).expected = s.expected := by
  cases s <;> rfl

/-- Each word keeps what it can be behind a field. -/
structure Relabels (v v' : Vocabulary) (onText : String → String) : Prop where
  direction : ∀ w, isSingleWord w = true → v'.direction? (onText w) = v.direction? w
  delimiter : ∀ w, isSingleWord w = true → v'.isDelimiter (onText w) = v.isDelimiter w

variable {v v' : Vocabulary}

theorem Relabels.stepDelimiter_eq (h : Relabels v v' onText) (done : List OrderEntry) {w : String}
    (hw : isSingleWord w = true) :
    stepDelimiter v' (done.map (.mapField onText)) (onText w) =
      (stepDelimiter v done w).map onText (State.relabel onText) := by
  rw [stepDelimiter, stepDelimiter, h.delimiter w hw]
  split <;> rfl

theorem Relabels.step_eq (h : Relabels v v' onText) (s : State) {tok : Token}
    (htok : tok.Legible) :
    step v' (s.relabel onText) (tok.mapText onText) =
      (step v s tok).map onText (State.relabel onText) := by
  cases tok with
  | word w =>
    have hw := isSingleWord_iff.mpr htok
    cases s with
    | field done => rfl
    | direction done f =>
      have hdirection := h.direction w hw
      simp only [step, State.relabel, Token.mapText, hdirection]
      cases v.direction? w with
      | some d => rfl
      | none => exact h.stepDelimiter_eq (⟨f, false⟩ :: done) hw
    | delimiter done => exact h.stepDelimiter_eq done hw
  | _ => cases s <;> rfl

theorem finish_relabel (s : State) :
    finish (s.relabel onText) = (finish s).map (List.map (.mapField onText)) := by
  have hentries : ∀ done : List OrderEntry,
      (done.map (OrderEntry.mapField onText)).reverse =
        done.reverse.map (OrderEntry.mapField onText) :=
    fun _ => List.map_reverse.symm
  cases s with
  | field done => rfl
  | direction done f => exact congrArg some (hentries (⟨f, false⟩ :: done))
  | delimiter done => exact congrArg some (hentries done)

theorem Relabels.follows (h : Relabels v v' onText) :
    (machine v').Follows (machine v) onText (State.relabel onText)
      (List.map (.mapField onText)) where
  expected := State.expected_relabel
  step := fun s _ htok => h.step_eq s htok
  finish := finish_relabel
  takesEnd := rfl

theorem Relabels.run_eq (h : Relabels v v' onText) {text text' : String}
    (hlexemes : Lexeme.ofText text' = (Lexeme.ofText text).map (Lexeme.mapText onText))
    (hlength : text'.length = text.length) :
    run v' text' = (run v text).map onText (List.map (.mapField onText)) := by
  by_cases htext : Lexeme.ofText text = []
  · rw [run_of_nil htext, run_of_nil (by rw [hlexemes, htext, List.map_nil])]
    rfl
  · have htext' : Lexeme.ofText text' ≠ [] := by
      rwa [hlexemes, ne_eq, List.map_eq_nil_iff]
    rw [run_of_ne_nil htext, run_of_ne_nil htext', hlength, hlexemes]
    exact h.follows.run_eq text.length (.field []) Lexeme.legible_of_mem_ofText

theorem Relabels.parse_eq (h : Relabels v v' onText) {text text' : String}
    (hlexemes : Lexeme.ofText text' = (Lexeme.ofText text).map (Lexeme.mapText onText))
    (hlength : text'.length = text.length) :
    parse v' text' =
      ((parse v text).map (List.map (.mapField onText))).mapError (.mapWord onText) :=
  congrArg Run.result (h.run_eq hlexemes hlength)

theorem Relabels.parse_same (h : Relabels v v' id) (text : String) :
    parse v' text = parse v text := by
  rw [h.parse_eq (Lexeme.map_mapText_id _).symm rfl, ParseError.mapWord_id, mapError_id,
    OrderEntry.mapField_id, List.map_id_fun, Except.map_id, id_eq]

end Order

end RowQuery
