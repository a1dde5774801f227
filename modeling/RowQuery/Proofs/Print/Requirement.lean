import RowQuery.Proofs.Filter.Relabel
import RowQuery.Proofs.Print.Success
import RowQuery.Proofs.Vocabulary.Choice

/-! What has to be found before something can be written: words for what it says, and fields that
are words themselves. The writers need nothing else, look for it from the left to the right, and
stop at the first thing that is not to be found. -/

namespace RowQuery

inductive Requirement where
  | connective (k : Connective)
  | operator (o : Operator)
  | direction (d : Direction)
  | delimiter
  | field (name : String)
  deriving DecidableEq, Repr

namespace Requirement

/-- Some text that is one word says it; a field has to be that word. -/
def Met (v : Vocabulary) : Requirement → Prop
  | connective k => ∃ w, Token.ofText w = [.word w] ∧ v.connective? w = some k
  | operator o => ∃ w, Token.ofText w = [.word w] ∧ v.operator? w = some o
  | direction d => ∃ w, Token.ofText w = [.word w] ∧ v.direction? w = some d
  | delimiter => ∃ w, Token.ofText w = [.word w] ∧ v.isDelimiter w = true
  | field name => Token.ofText name = [.word name]

def error : Requirement → RenderError
  | connective k => .noConnective k
  | operator o => .noOperator o
  | direction d => .noDirection d
  | delimiter => .noDelimiter
  | field name => .unrepresentableField name

end Requirement

/-- The requirements of a tree, each joint before its two sides. -/
def Clause.requirements : Clause → List Requirement
  | leaf c => [.operator c.operator, .field c.field]
  | combined left connective right =>
    .connective connective :: (left.requirements ++ right.requirements)

def OrderEntry.requirements (e : OrderEntry) : List Requirement :=
  .field e.field :: if e.descending then [.direction .descending] else []

def Order.requirements : List OrderEntry → List Requirement
  | [] => []
  | e :: rest => e.requirements ++ rest.flatMap fun e => .delimiter :: e.requirements

variable {v : Vocabulary} {rs qs : List Requirement} {r : Requirement} {α β : Type}

def FirstUnmet (v : Vocabulary) (rs : List Requirement) (r : Requirement) : Prop :=
  ∃ met rest, rs = met ++ r :: rest ∧ (∀ q ∈ met, q.Met v) ∧ ¬ r.Met v

theorem FirstUnmet.append_right (h : FirstUnmet v rs r) (qs : List Requirement) :
    FirstUnmet v (rs ++ qs) r := by
  obtain ⟨met, rest, rfl, hmet, hr⟩ := h
  exact ⟨met, rest ++ qs, by rw [List.append_assoc, List.cons_append], hmet, hr⟩

theorem FirstUnmet.append_left (hrs : ∀ q ∈ rs, q.Met v) (h : FirstUnmet v qs r) :
    FirstUnmet v (rs ++ qs) r := by
  obtain ⟨met, rest, rfl, hmet, hr⟩ := h
  exact ⟨rs ++ met, rest, (List.append_assoc ..).symm, List.forall_mem_append.2 ⟨hrs, hmet⟩, hr⟩

theorem FirstUnmet.not_forall_met (h : FirstUnmet v rs r) : ¬ ∀ q ∈ rs, q.Met v := by
  obtain ⟨met, rest, rfl, -, hr⟩ := h
  intro hall
  exact hr (hall r (by simp))

theorem FirstUnmet.unique {r' : Requirement} (h : FirstUnmet v rs r) (h' : FirstUnmet v rs r') :
    r = r' := by
  classical
  have hfind : ∀ {r}, FirstUnmet v rs r → rs.find? (fun q => !decide (q.Met v)) = some r := by
    rintro r ⟨met, rest, hrs, hmet, hr⟩
    rw [List.find?_eq_some_iff_append]
    exact ⟨by simpa using hr, met, rest, hrs, by simpa using hmet⟩
  exact Option.some.inj ((hfind h).symm.trans (hfind h'))

/-- A writer with these requirements: it gets on if all of them are met, and otherwise reports the
first that is not. -/
structure Reports (v : Vocabulary) (rs : List Requirement) (x : Except RenderError α) : Prop where
  met : ∀ a, x = .ok a → ∀ r ∈ rs, r.Met v
  unmet : ∀ e, x = .error e → ∃ r, FirstUnmet v rs r ∧ r.error = e

namespace Reports

variable {x : Except RenderError α}

theorem ok (v : Vocabulary) (a : α) : Reports v [] (.ok a) :=
  ⟨fun _ _ => List.forall_mem_nil _, nofun⟩

/-- What is done later is required later, and only if nothing was missing before. -/
theorem bind {f : α → Except RenderError β} (hx : Reports v rs x)
    (hf : ∀ a, Reports v qs (f a)) : Reports v (rs ++ qs) (x >>= f) where
  met := by
    intro b hb
    obtain ⟨a, ha, hb⟩ := bind_eq_ok_iff.mp hb
    exact List.forall_mem_append.2 ⟨hx.met a ha, (hf a).met b hb⟩
  unmet := by
    intro e he
    cases hresult : x with
    | error e' =>
      rw [hresult] at he
      cases he
      obtain ⟨r, hr, herror⟩ := hx.unmet e hresult
      exact ⟨r, hr.append_right qs, herror⟩
    | ok a =>
      rw [hresult] at he
      obtain ⟨r, hr, herror⟩ := (hf a).unmet e he
      exact ⟨r, hr.append_left (hx.met a hresult), herror⟩

theorem map (hx : Reports v rs x) (f : α → β) : Reports v rs (x >>= fun a => .ok (f a)) := by
  rw [← List.append_nil rs]
  exact hx.bind fun a => .ok v (f a)

theorem of_iff (hok : (∃ a, x = .ok a) ↔ r.Met v)
    (herror : ∀ e, x = .error e → r.error = e) : Reports v [r] x where
  met := by
    intro a ha
    rw [List.forall_mem_singleton]
    exact hok.1 ⟨a, ha⟩
  unmet := by
    intro e he
    have hr : ¬ r.Met v := by
      rw [← hok, he]
      exact nofun
    exact ⟨r, ⟨[], [], rfl, List.forall_mem_nil _, hr⟩, herror e he⟩

theorem elim {o : Option α} (h : (∃ a, o = some a) ↔ r.Met v) :
    Reports v [r] (o.elim (.error r.error) .ok) := by
  apply of_iff
  · rw [← h]
    exact exists_congr fun _ => elim_eq_ok_iff
  · cases o with
    | none => exact fun _ he => Except.error.inj he
    | some a => exact nofun

theorem exists_ok_iff (h : Reports v rs x) : (∃ a, x = .ok a) ↔ ∀ r ∈ rs, r.Met v := by
  apply Iff.intro
  · rintro ⟨a, ha⟩
    exact h.met a ha
  · intro hall
    cases hresult : x with
    | ok a => exact ⟨a, rfl⟩
    | error e =>
      obtain ⟨r, hr, -⟩ := h.unmet e hresult
      exact absurd hall hr.not_forall_met

theorem eq_error_iff (h : Reports v rs x) {e : RenderError} :
    x = .error e ↔ ∃ r, FirstUnmet v rs r ∧ r.error = e := by
  apply Iff.intro
  · exact h.unmet e
  · rintro ⟨r, hr, rfl⟩
    cases hresult : x with
    | ok a => exact absurd (h.met a hresult) hr.not_forall_met
    | error e' =>
      obtain ⟨r', hr', rfl⟩ := h.unmet e' hresult
      rw [hr.unique hr']

end Reports

theorem Keywords.Spelled.exists_choose?_iff [BEq α] [LawfulBEq α] {caseSensitive : Bool}
    {keywords : Keywords α} (hs : keywords.Spelled caseSensitive) {preferred : String → Bool}
    {meaning : α} : (∃ w, keywords.choose? preferred meaning = some w) ↔
      ∃ w, Token.ofText w = [.word w] ∧ keywords.get? (spell caseSensitive w) = some meaning := by
  simp only [← isSingleWord_iff_ofText]
  apply Iff.intro
  · rintro ⟨w, hw⟩
    exact ⟨w, (hs.get?_of_choose? hw).2, (hs.get?_of_choose? hw).1⟩
  · rintro ⟨w, hw, hmeans⟩
    exact exists_choose? hmeans hw

/-! The writers, each with the requirements of what it writes. -/

theorem reports_printField (v : Vocabulary) (name : String) :
    Reports v [.field name] (printField name) := by
  apply Reports.of_iff
  · simp only [printField_eq_ok_iff, exists_and_left, exists_eq, and_true]
    exact isSingleWord_iff_ofText
  · intro e he
    unfold printField at he
    split at he <;> cases he
    rfl

theorem Filter.reports_printCondition (v : Vocabulary) (c : Condition) :
    Reports v [.operator c.operator, .field c.field] (printCondition v c) := by
  have hoperator : Reports v [.operator c.operator]
      ((v.operatorKeyword? c.operator).elim (.error (.noOperator c.operator)) .ok) :=
    .elim v.operators_spelled.exists_choose?_iff
  exact hoperator.bind fun _ => (reports_printField v c.field).map _

theorem Filter.reports_print (v : Vocabulary) (c : Clause) :
    Reports v c.requirements (print v c) := by
  induction c with
  | leaf c => exact reports_printCondition v c
  | combined left k right ihl ihr =>
    have hconnective : Reports v [.connective k]
        ((v.connectiveKeyword? k).elim (.error (.noConnective k)) .ok) :=
      .elim v.connectives_spelled.exists_choose?_iff
    exact hconnective.bind fun _ => ihl.bind fun _ => ihr.map _

theorem Order.reports_printEntry (v : Vocabulary) (e : OrderEntry) :
    Reports v e.requirements (printEntry v e) := by
  have hdirection : Reports v [.direction .descending]
      ((v.directionKeyword? .descending).elim (.error (.noDirection .descending)) .ok) :=
    .elim v.directions_spelled.exists_choose?_iff
  apply (reports_printField v e.field).bind
  intro field
  cases e.descending with
  | true => exact hdirection.map _
  | false => exact .ok v _

theorem Order.reports_printRest (v : Vocabulary) (previous : String) (l : List OrderEntry) :
    Reports v (l.flatMap fun e => .delimiter :: e.requirements) (printRest v previous l) := by
  have hdelimiter : Reports v [.delimiter] (v.delimiterKeyword?.elim (.error .noDelimiter) .ok) := by
    apply Reports.elim
    simp only [Requirement.Met, Vocabulary.isDelimiter_iff]
    exact v.delimiters_spelled.exists_choose?_iff
  induction l generalizing previous with
  | nil => exact .ok v _
  | cons e rest ih =>
    exact hdelimiter.bind fun _ => (reports_printEntry v e).bind fun entry => (ih entry).map _

theorem Order.reports_print (v : Vocabulary) (l : List OrderEntry) :
    Reports v (requirements l) (print v l) := by
  cases l with
  | nil => exact .ok v _
  | cons e rest =>
    exact (reports_printEntry v e).bind fun entry => (reports_printRest v entry rest).map _

theorem Clause.requirements_mapConditions {f : Condition → Condition}
    (h : ∀ c, (f c).field = c.field ∧ (f c).operator = c.operator) (c : Clause) :
    (c.mapConditions f).requirements = c.requirements := by
  induction c with
  | leaf c => rw [mapConditions, requirements, (h c).1, (h c).2, requirements]
  | combined left _ right ihl ihr => rw [mapConditions, requirements, ihl, ihr, requirements]

/-- Writing fails exactly if some requirement is not met, and reports the first such; the values of
conditions have no part in it. -/
theorem print_reports_first_unmet (v : Vocabulary) :
    (∀ c, ((∃ text, Filter.print v c = .ok text) ↔ ∀ r ∈ c.requirements, r.Met v) ∧
      ∀ e, Filter.print v c = .error e ↔ ∃ r, FirstUnmet v c.requirements r ∧ r.error = e) ∧
    (∀ l, ((∃ text, Order.print v l = .ok text) ↔ ∀ r ∈ Order.requirements l, r.Met v) ∧
      ∀ e, Order.print v l = .error e ↔ ∃ r, FirstUnmet v (Order.requirements l) r ∧ r.error = e) ∧
    ∀ c onValue e, Filter.print v (c.mapConditions (.relabel id onValue)) = .error e ↔
      Filter.print v c = .error e := by
  refine ⟨fun c => ?_, fun l => ?_, fun c onValue e => ?_⟩
  · have h := Filter.reports_print v c
    exact ⟨h.exists_ok_iff, fun _ => h.eq_error_iff⟩
  · have h := Order.reports_print v l
    exact ⟨h.exists_ok_iff, fun _ => h.eq_error_iff⟩
  · have hsame : (c.mapConditions (.relabel id onValue)).requirements = c.requirements :=
      Clause.requirements_mapConditions (f := .relabel id onValue) (fun _ => ⟨rfl, rfl⟩) c
    rw [(Filter.reports_print v _).eq_error_iff, (Filter.reports_print v c).eq_error_iff, hsame]

/-- Three requirements of the tree fail, on both sides, and two of the list. A quoted value would
not matter. -/
theorem print_reports_first_unmet_of_several :
    let v := (Vocabulary.empty false).withConnective "and" .and |>.withOperator "eq" .isEqualTo
      |>.withOperator "is like" .contains |>.withDelimiter ";"
    let c := Clause.combined (.condition "a" .contains (.text "\" (")) .and
      (.combined (.condition "b c" .isEqualTo .null) .or (.condition "d" .isEqualTo .null))
    let l : List OrderEntry := [⟨"a", true⟩, ⟨"b c", false⟩]
    c.requirements = [.connective .and, .operator .contains, .field "a", .connective .or,
        .operator .isEqualTo, .field "b c", .operator .isEqualTo, .field "d"] ∧
      FirstUnmet v c.requirements (.operator .contains) ∧
      Order.requirements l = [.field "a", .direction .descending, .delimiter, .field "b c"] ∧
      FirstUnmet v (Order.requirements l) (.direction .descending) := by
  intro v c l
  have hc : Filter.print v c = .error (.noOperator .contains) := by decide +kernel
  have hl : Order.print v l = .error (.noDirection .descending) := by decide +kernel
  obtain ⟨filters, lists, -⟩ := print_reports_first_unmet v
  refine ⟨rfl, ?_, rfl, ?_⟩
  · obtain ⟨r, hr, herror⟩ := ((filters c).2 _).1 hc
    cases r <;> cases herror
    exact hr
  · obtain ⟨r, hr, herror⟩ := ((lists l).2 _).1 hl
    cases r <;> cases herror
    exact hr

end RowQuery
