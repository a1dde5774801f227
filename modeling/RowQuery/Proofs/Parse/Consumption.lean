import RowQuery.Event
import RowQuery.Proofs.Filter.Acceptance
import RowQuery.Proofs.Order.Acceptance
import RowQuery.Proofs.Parse.Halt
import RowQuery.Proofs.Print.Success

/-! Every reader takes the tokens of a text once and in order, and an error tells where it stopped:
at the token that follows the ones taken, or at the last of them. -/

namespace RowQuery

abbrev Mark := TokenKind × Nat

def Reading.mark (r : Reading) : Mark :=
  (r.kind, r.start)

def Event.mark? : Event → Option Mark
  | .token kind position => some (kind, position)
  | _ => none

/-- The marks of a text up to the first that is the end of the input. -/
def stream (text : String) : List Mark :=
  (Reading.ofText text).map Reading.mark

theorem le_length_of_mem_stream {text : String} {mark : Mark} (h : mark ∈ stream text) :
    mark.2 ≤ text.length := by
  obtain ⟨r, hr, rfl⟩ := List.mem_map.1 h
  exact Reading.start_le_length hr

/-- How an error fits the marks of the tokens that were taken before it was raised. -/
inductive StopsAt (text : String) (consumed : List Mark) : ParseError → Prop
  | unexpected {found : TokenKind} {expected : List TokenKind} {position : Nat}
      (h : consumed ++ [(found, position)] <+: stream text) (hfound : found ∉ expected) :
      StopsAt text consumed (.unexpectedToken found expected position)
  | unresolved {front : List Mark} {kind : KeywordKind} {w : String} {position : Nat}
      (h : consumed = front ++ [(.word, position)]) (hne : w ≠ "")
      (hspelled : w.toList <+: text.toList.drop position) :
      StopsAt text consumed (.unresolvedKeyword kind w position)
  | tooDeep {front : List Mark} {limit position : Nat}
      (h : consumed = front ++ [(.openGroup, position)]) :
      StopsAt text consumed (.nestingTooDeep limit position)

theorem StopsAt.position_le {text : String} {consumed : List Mark} {e : ParseError}
    (h : StopsAt text consumed e) (hfront : consumed <+: stream text) :
    e.position ≤ text.length := by
  have hlast : ∀ mark, consumed.getLast? = some mark → mark.2 ≤ text.length := by
    intro mark hmark
    exact le_length_of_mem_stream (hfront.subset (List.mem_of_getLast? hmark))
  cases h with
  | @unexpected found _ position h =>
    have hmem : (found, position) ∈ stream text := h.subset (by simp)
    exact le_length_of_mem_stream hmem
  | @unresolved _ _ _ position h => exact hlast (.word, position) (by simp [h])
  | @tooDeep _ _ position h => exact hlast (.openGroup, position) (by simp [h])

inductive Fault.Fits : Fault → Token → Prop
  | unknownWord (kind : KeywordKind) (w : String) : Fits (.unknownWord kind w) (.word w)
  | tooDeep (limit : Nat) : Fits (.tooDeep limit) .openGroup

namespace Machine

variable {σ α : Type} {m : Machine σ α} {s : σ} {text : String} {stop : Nat} {e : ParseError}

def FaultsFit (m : Machine σ α) : Prop :=
  ∀ s tok f, m.step s tok = .fault f → f.Fits tok

theorem taken_conclude_isPrefix (m : Machine σ α) (s : σ) (stop : Nat) :
    (m.conclude s stop).taken <+: [⟨none, stop⟩] := by
  unfold conclude
  cases m.finish s with
  | none => exact List.nil_prefix
  | some a => cases m.takesEnd <;> simp

/-- What has been taken are readings of the text, from its first on and with none left out. -/
theorem taken_run_isPrefix (m : Machine σ α) (stop : Nat) (s : σ) (ls : List Lexeme) :
    (m.run stop s ls).taken <+: ls.map Lexeme.reading ++ [⟨none, stop⟩] := by
  induction ls generalizing s with
  | nil => exact m.taken_conclude_isPrefix s stop
  | cons l rest ih =>
    unfold run
    cases m.step s l.token with
    | take next => simpa using ih next
    | refuse => exact List.nil_prefix
    | fault f => simp

theorem taken_conclude_of_ok {a : α} (h : (m.conclude s stop).result = .ok a) :
    (m.conclude s stop).taken = if m.takesEnd then [⟨none, stop⟩] else [] := by
  unfold conclude at h ⊢
  cases hfinish : m.finish s with
  | none => simp [hfinish] at h
  | some b => rfl

/-- A machine that succeeds has taken everything, and the end of the input if it ever takes that. -/
theorem taken_run_of_ok {ls : List Lexeme} {a : α} (h : (m.run stop s ls).result = .ok a) :
    (m.run stop s ls).taken =
      ls.map Lexeme.reading ++ if m.takesEnd then [⟨none, stop⟩] else [] := by
  induction ls generalizing s with
  | nil => exact taken_conclude_of_ok h
  | cons l rest ih =>
    unfold run at h ⊢
    cases hstep : m.step s l.token with
    | take next =>
      simp only [hstep] at h ⊢
      rw [ih h, List.map_cons, List.cons_append]
    | refuse => simp [hstep] at h
    | fault f => simp [hstep] at h

theorem conclude_of_error (h : (m.conclude s stop).result = .error e) :
    (m.conclude s stop).taken = [] ∧ e = .unexpectedToken .endOfInput (m.expected s) stop ∧
      .endOfInput ∉ m.expected s := by
  rw [← m.finish_eq_none_iff]
  unfold conclude at h ⊢
  cases hfinish : m.finish s with
  | none =>
    simp only [hfinish, Except.error.injEq] at h
    exact ⟨rfl, h.symm, rfl⟩
  | some a => simp [hfinish] at h

theorem FaultsFit.stopsAt (hm : m.FaultsFit)
    (h : (m.run text.length s (Lexeme.ofText text)).result = .error e) :
    StopsAt text ((m.run text.length s (Lexeme.ofText text)).taken.map Reading.mark) e := by
  have hends := m.ends_run text.length s (Lexeme.ofText text)
  generalize m.run text.length s (Lexeme.ofText text) = r at h hends
  have hstream := Reading.ofText_eq text
  generalize Lexeme.ofText text = ls at hends hstream
  cases hends with
  | finish hreads =>
    obtain ⟨htaken, rfl, hfound⟩ := conclude_of_error h
    refine .unexpected ?_ hfound
    rw [htaken, List.append_nil, stream, hstream, List.map_append]
    exact List.prefix_rfl
  | @refuse pre post l t hreads hstep =>
    cases h
    refine .unexpected ?_ ((m.step_eq_refuse_iff t l.token).mp hstep)
    rw [List.map_append, List.append_assoc] at hstream
    rw [stream, hstream, List.map_append]
    exact (List.prefix_append_right_inj _).2 (List.prefix_append [l.reading.mark] _)
  | @fault pre post l t f hreads hstep =>
    cases h
    have hmem : l.reading ∈ Reading.ofText text := by simp [hstream]
    rw [List.map_append, List.map_append]
    have hfits := hm t l.token f hstep
    obtain ⟨tok, start, stop, closed⟩ := l
    cases hfits with
    | unknownWord kind w =>
      obtain ⟨hne, hspelled⟩ := Reading.word_of_mem hmem
      exact .unresolved rfl hne hspelled
    | tooDeep limit => exact .tooDeep rfl

end Machine

def marksOf (events : List Event) : List Mark :=
  events.filterMap Event.mark?

/-- What is reported before and behind the tokens says nothing about any. -/
theorem marksOf_report {first : Event} (hfirst : first.mark? = none) (rs : List Reading)
    {outcome : List Event} (houtcome : marksOf outcome = []) :
    marksOf (first :: (rs.map Reading.event ++ outcome)) = rs.map Reading.mark := by
  have htokens : marksOf (rs.map Reading.event) = rs.map Reading.mark := by
    rw [marksOf, List.filterMap_map]
    exact congrFun List.filterMap_eq_map' rs
  rw [marksOf, List.filterMap_cons_none hfirst, List.filterMap_append, ← marksOf, ← marksOf,
    htokens, houtcome, List.append_nil]

namespace Filter

variable {v : Vocabulary} {options : ParseOptions} {text : String}

theorem machine_faultsFit (v : Vocabulary) (options : ParseOptions) :
    (machine v options).FaultsFit := by
  intro s tok f h
  simp only [machine, step] at h
  repeat' split at h
  all_goals cases h
  · exact .tooDeep _
  · exact .unknownWord _ _
  · exact .unknownWord _ _

def consumed (v : Vocabulary) (options : ParseOptions) (text : String) : List Mark :=
  marksOf (events options text (run v options text))

theorem consumed_eq (v : Vocabulary) (options : ParseOptions) (text : String) :
    consumed v options text = (run v options text).taken.map Reading.mark := by
  apply marksOf_report rfl
  cases (run v options text).result <;> rfl

theorem consumed_isPrefix : consumed v options text <+: stream text := by
  rw [consumed_eq]
  apply List.IsPrefix.map
  by_cases htext : Lexeme.ofText text = []
  · rw [run_of_nil htext]
    exact List.nil_prefix
  · rw [run_of_ne_nil htext, Reading.ofText_eq]
    exact Machine.taken_run_isPrefix _ _ _ _

theorem consumed_of_ok {c : Option Clause} (h : parse v options text = .ok c) :
    consumed v options text ++ [(.endOfInput, text.length)] = stream text := by
  have htaken : (run v options text).taken = (Lexeme.ofText text).map Lexeme.reading := by
    by_cases htext : Lexeme.ofText text = []
    · rw [run_of_nil htext, htext, List.map_nil]
    · rw [parse, run_of_ne_nil htext] at h
      rw [run_of_ne_nil htext]
      cases hresult : ((machine v options).run text.length .start (Lexeme.ofText text)).result with
      | ok c => exact (Machine.taken_run_of_ok hresult).trans (List.append_nil _)
      | error e => simp [hresult, Except.map] at h
  rw [consumed_eq, htaken, stream, Reading.ofText_eq, List.map_append]
  rfl

theorem stopsAt_of_error {e : ParseError} (h : parse v options text = .error e) :
    StopsAt text (consumed v options text) e := by
  have htext : Lexeme.ofText text ≠ [] := by
    intro hnil
    rw [parse, run_of_nil hnil] at h
    cases h
  rw [parse_eq_error_iff (mt List.map_eq_nil_iff.mp htext)] at h
  rw [consumed_eq, run_of_ne_nil htext]
  exact (machine_faultsFit v options).stopsAt h

end Filter

namespace Order

variable {v : Vocabulary} {text : String}

theorem machine_faultsFit (v : Vocabulary) : (machine v).FaultsFit := by
  intro s tok f h
  simp only [machine, step, stepDelimiter] at h
  repeat' split at h
  all_goals cases h <;> exact .unknownWord _ _

def consumed (v : Vocabulary) (text : String) : List Mark :=
  marksOf (events text (run v text))

theorem consumed_eq (v : Vocabulary) (text : String) :
    consumed v text = (run v text).taken.map Reading.mark := by
  apply marksOf_report rfl
  cases (run v text).result <;> rfl

theorem consumed_of_nil (h : Lexeme.ofText text = []) : consumed v text = [] := by
  rw [consumed_eq, run_of_nil h, List.map_nil]

theorem consumed_isPrefix : consumed v text <+: stream text := by
  by_cases htext : Lexeme.ofText text = []
  · rw [consumed_of_nil htext]
    exact List.nil_prefix
  · rw [consumed_eq, run_of_ne_nil htext, stream, Reading.ofText_eq]
    exact (Machine.taken_run_isPrefix _ _ _ _).map _

theorem consumed_of_ok {l : List OrderEntry} (h : parse v text = .ok l)
    (htext : Lexeme.ofText text ≠ []) : consumed v text = stream text := by
  rw [parse, run_of_ne_nil htext] at h
  rw [consumed_eq, run_of_ne_nil htext, Machine.taken_run_of_ok h, stream, Reading.ofText_eq]
  rfl

theorem stopsAt_of_error {e : ParseError} (h : parse v text = .error e) :
    StopsAt text (consumed v text) e := by
  by_cases htext : Lexeme.ofText text = []
  · rw [parse, run_of_nil htext] at h
    cases h
  · rw [consumed_eq, run_of_ne_nil htext]
    rw [parse, run_of_ne_nil htext] at h
    exact (machine_faultsFit v).stopsAt h

end Order

/-- Every reading of a text takes a stretch from its beginning and tells where it stopped. A filter
that is read leaves nothing but the end of the input; an order list takes that as well, unless there
is nothing to take. -/
theorem consumes_stream (v : Vocabulary) (options : ParseOptions) (text : String) :
    (stream text).Pairwise (fun a b => a.2 < b.2) ∧
    (Filter.consumed v options text <+: stream text ∧
      (∀ c, Filter.parse v options text = .ok c →
        Filter.consumed v options text ++ [(.endOfInput, text.length)] = stream text) ∧
      ∀ e, Filter.parse v options text = .error e →
        StopsAt text (Filter.consumed v options text) e ∧ e.position ≤ text.length) ∧
    (Order.consumed v text <+: stream text ∧
      (∀ l, Order.parse v text = .ok l → (∃ ch ∈ text.toList, Unicode.isBlank ch = false) →
        Order.consumed v text = stream text) ∧
      ((∀ ch ∈ text.toList, Unicode.isBlank ch = true) → Order.consumed v text = []) ∧
      ∀ e, Order.parse v text = .error e →
        StopsAt text (Order.consumed v text) e ∧ e.position ≤ text.length) := by
  have hblank : Lexeme.ofText text = [] ↔ ∀ ch ∈ text.toList, Unicode.isBlank ch = true := by
    rw [← Token.ofChars_eq_nil_iff, ← Token.ofText_eq_ofChars, Token.ofText, List.map_eq_nil_iff]
  refine ⟨?_, ⟨Filter.consumed_isPrefix, fun c => Filter.consumed_of_ok, fun e he => ?_⟩,
    Order.consumed_isPrefix, fun l hl hsome => ?_, fun hall => ?_, fun e he => ?_⟩
  · exact List.pairwise_map.mpr (Cursor.ascending_readings (.ofText text))
  · have hstops := Filter.stopsAt_of_error he
    exact ⟨hstops, hstops.position_le Filter.consumed_isPrefix⟩
  · apply Order.consumed_of_ok hl
    intro hnil
    obtain ⟨ch, hch, hfalse⟩ := hsome
    rw [hblank.mp hnil ch hch] at hfalse
    cases hfalse
  · exact Order.consumed_of_nil (hblank.mpr hall)
  · have hstops := Order.stopsAt_of_error he
    exact ⟨hstops, hstops.position_le Order.consumed_isPrefix⟩

theorem consumes_stream_up_to_unknown_words :
    let filter := " (a eq 1) then b"
    let order := "a, b up"
    Filter.consumed .preset {} filter =
        [(.openGroup, 1), (.word, 2), (.word, 4), (.number, 7), (.closeGroup, 8), (.word, 10)] ∧
      StopsAt filter (Filter.consumed .preset {} filter) (.unresolvedKeyword .connective "then" 10) ∧
      StopsAt order (Order.consumed .preset order) (.unresolvedKeyword .orderDelimiter "up" 5) ∧
      Filter.consumed .preset {} "a eq 1" ++ [(.endOfInput, 6)] = stream "a eq 1" ∧
      Order.consumed .preset "a, b" = stream "a, b" ∧ Order.consumed .preset " " = [] := by
  intro filter order
  have hfilter : Filter.parse .preset {} filter =
      .error (.unresolvedKeyword .connective "then" 10) := by decide +kernel
  have horder : Order.parse .preset order =
      .error (.unresolvedKeyword .orderDelimiter "up" 5) := by decide +kernel
  have hleaf : Filter.parse .preset {} "a eq 1" =
      .ok (some (.leaf ⟨"a", .isEqualTo, .text "1"⟩)) := by decide +kernel
  have hpair : Order.parse .preset "a, b" = .ok [⟨"a", false⟩, ⟨"b", false⟩] := by decide +kernel
  have hspace : Unicode.isBlank ' ' = true := by decide +kernel
  have hblank : ∀ ch ∈ " ".toList, Unicode.isBlank ch = true := by simpa using hspace
  refine ⟨by decide +kernel, ((consumes_stream _ _ _).2.1.2.2 _ hfilter).1,
    ((consumes_stream _ {} _).2.2.2.2.2 _ horder).1, (consumes_stream _ _ _).2.1.2.1 _ hleaf,
    (consumes_stream _ {} _).2.2.2.1 _ hpair ?_, (consumes_stream _ {} _).2.2.2.2.1 hblank⟩
  exact ⟨'a', by simp, by decide +kernel⟩

end RowQuery
