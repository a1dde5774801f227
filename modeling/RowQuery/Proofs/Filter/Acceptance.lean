import RowQuery.Proofs.Filter.Steps

/-! A filter is read exactly if its tokens derive it and its groups nest no deeper than allowed. The
grammar therefore has at most one tree for any tokens. -/

namespace RowQuery.Filter

variable {v : Vocabulary} {options : ParseOptions}

/-! What has been read when the reader is in a certain state. -/

inductive IsPending (v : Vocabulary) (nullMarker : Bool) : List Token → Pending → Prop
  | none : IsPending v nullMarker [] none
  | some {ts : List Token} {c : Clause} {w : String} {k : Connective}
      (h : IsBody v nullMarker ts c) (hk : v.connective? w = some k) :
      IsPending v nullMarker (ts ++ [.word w]) (some (c, k))

theorem IsPending.join {nullMarker : Bool} {ts us : List Token} {p : Pending} {c : Clause}
    (hp : IsPending v nullMarker ts p) (hc : IsClause v nullMarker us c) :
    IsBody v nullMarker (ts ++ us) (p.join c) := by
  cases hp with
  | none => exact hc.isBody
  | some h hk =>
    rw [List.append_assoc]
    exact h.snoc hk hc

inductive IsPhase (v : Vocabulary) (nullMarker : Bool) : List Token → Phase → Prop
  | clause {ts : List Token} {p : Pending} (hp : IsPending v nullMarker ts p) :
      IsPhase v nullMarker ts (.clause p)
  | operator {ts : List Token} {p : Pending} (hp : IsPending v nullMarker ts p) (field : String) :
      IsPhase v nullMarker (ts ++ [.word field]) (.operator p field)
  | value {ts : List Token} {p : Pending} (hp : IsPending v nullMarker ts p) (field : String)
      {w : String} {o : Operator} (ho : v.operator? w = some o) :
      IsPhase v nullMarker (ts ++ [.word field, .word w]) (.value p field o)
  | joint {ts : List Token} {c : Clause} (h : IsBody v nullMarker ts c) :
      IsPhase v nullMarker ts (.joint c)

/-- The invariant of a run: in every open group a phase of its own, and at each opening parenthesis
a clause that is due. -/
inductive Leads (v : Vocabulary) (nullMarker : Bool) : List Token → State → Prop
  | outside {ts : List Token} {phase : Phase} (h : IsPhase v nullMarker ts phase) :
      Leads v nullMarker ts ⟨[], phase⟩
  | inside {ts us : List Token} {p : Pending} {outer : List Pending} {phase : Phase}
      (hout : Leads v nullMarker ts ⟨outer, .clause p⟩) (h : IsPhase v nullMarker us phase) :
      Leads v nullMarker (ts ++ .openGroup :: us) ⟨p :: outer, phase⟩

private theorem Leads.extend {nullMarker : Bool} {ts us : List Token} {outer : List Pending}
    {phase phase' : Phase} (h : Leads v nullMarker ts ⟨outer, phase⟩)
    (hphase : ∀ ts, IsPhase v nullMarker ts phase → IsPhase v nullMarker (ts ++ us) phase') :
    Leads v nullMarker (ts ++ us) ⟨outer, phase'⟩ := by
  cases h with
  | outside h => exact .outside (hphase _ h)
  | inside hout h =>
    rw [List.append_assoc, List.cons_append]
    exact .inside hout (hphase _ h)

theorem Leads.move {s t : State} {ts : List Token} {tok : Token}
    (h : Leads v options.nullMarker ts s) (hmove : Move v options s tok t) :
    Leads v options.nullMarker (ts ++ [tok]) t := by
  cases hmove with
  | openGroup => exact .inside h (.clause .none)
  | field w =>
    apply h.extend
    intro us hus
    cases hus with
    | clause hp => exact .operator hp w
  | operator ho =>
    apply h.extend
    intro us hus
    cases hus with
    | operator hp =>
      rw [List.append_assoc]
      exact .value hp _ ho
  | value hvalue =>
    apply h.extend
    intro us hus
    cases hus with
    | value hp _ ho =>
      rw [List.append_assoc]
      exact .joint (hp.join (.condition ho hvalue))
  | closeGroup body =>
    cases h with
    | inside hout h =>
      cases h with
      | joint hbody =>
        rw [List.append_assoc]
        apply hout.extend
        intro us hus
        cases hus with
        | clause hp => exact .joint (hp.join (.group hbody))
  | connective hk =>
    apply h.extend
    intro us hus
    cases hus with
    | joint hbody => exact .clause (.some hbody hk)

theorem Leads.reads {s t : State} {ts us : List Token} (h : Leads v options.nullMarker ts s)
    (hreads : (machine v options).Reads s us t) : Leads v options.nullMarker (ts ++ us) t := by
  induction us generalizing s ts with
  | nil =>
    cases hreads
    rwa [List.append_nil]
  | cons tok us ih =>
    obtain ⟨next, hmove, more⟩ := exists_move hreads
    rw [List.append_cons]
    exact ih (h.move hmove) more

theorem leads_start (nullMarker : Bool) : Leads v nullMarker [] .start :=
  .outside (.clause .none)

/-! Without a limit every derivation is read, wherever its place is. -/

private theorem closed_reads (v : Vocabulary) (options : ParseOptions) :
    Closed v options.nullMarker
      (fun ts c => ∀ outer p, (machine v (unlimited options)).Reads ⟨outer, .clause p⟩ ts
        ⟨outer, .joint (p.join c)⟩)
      (fun ts c => ∀ outer, (machine v (unlimited options)).Reads ⟨outer, .clause none⟩ ts
        ⟨outer, .joint c⟩) where
  condition := by
    intro field w o t value ho hvalue outer p
    have hlast : Move v (unlimited options) ⟨outer, .value p field o⟩ t
        ⟨outer, .joint (p.join (.condition field o value))⟩ := .value hvalue
    exact (Move.field field).reads.trans ((Move.operator ho).reads.trans hlast.reads)
  group := by
    intro ts c hbody outer p
    exact (Move.openGroup rfl).reads.trans ((hbody (p :: outer)).trans (Move.closeGroup c).reads)
  one := by
    intro ts c hclause outer
    exact hclause outer none
  snoc := by
    intro ts us b c w k hbody hk hclause outer
    exact (hbody outer).trans ((Move.connective hk).reads.trans (hclause outer (some (b, k))))

theorem reads_start_iff {ts : List Token} {c : Clause} :
    (machine v options).Reads .start ts ⟨[], .joint c⟩ ↔
      IsBody v options.nullMarker ts c ∧
        ∀ limit ∈ options.maxDepth, Token.nesting 0 ts ≤ limit := by
  have hstart : ∀ limit ∈ options.maxDepth, State.start.outer.length ≤ limit :=
    fun limit _ => Nat.zero_le limit
  rw [reads_iff_unlimited hstart]
  apply Iff.intro
  · intro ⟨h, hnesting⟩
    have hstarts : Leads v (unlimited options).nullMarker [] .start := leads_start _
    have hleads := hstarts.reads h
    cases hleads with
    | outside hphase =>
      cases hphase with
      | joint hbody => exact ⟨hbody, hnesting⟩
  · intro ⟨h, hnesting⟩
    exact ⟨h.induct (closed_reads v options) [], hnesting⟩

theorem finish_eq_some_iff {s : State} {c : Clause} : finish s = some c ↔ s = ⟨[], .joint c⟩ := by
  obtain ⟨outer, phase⟩ := s
  cases outer <;> cases phase <;> simp [finish]

theorem IsBody.unique {nullMarker : Bool} {ts : List Token} {b c : Clause}
    (hb : IsBody v nullMarker ts b) (hc : IsBody v nullMarker ts c) : b = c := by
  have hreads : ∀ {d}, IsBody v nullMarker ts d →
      (machine v ⟨nullMarker, none⟩).Reads .start ts ⟨[], .joint d⟩ :=
    fun hd => reads_start_iff.mpr ⟨hd, by simp⟩
  have hstate := (hreads hb).unique (hreads hc)
  simpa using hstate

theorem run_of_nil {text : String} (h : Lexeme.ofText text = []) :
    run v options text = ⟨[], .ok none⟩ :=
  if_pos (Reader.check_ofText_iff.mpr h)

theorem run_of_ne_nil {text : String} (h : Lexeme.ofText text ≠ []) :
    run v options text =
      let r := (machine v options).run text.length .start (Lexeme.ofText text)
      ⟨r.taken, r.result.map some⟩ := by
  rw [← Machine.read_ofText]
  exact if_neg (mt Reader.check_ofText_iff.mp h)

theorem parse_of_ofText_nil {text : String} (h : Token.ofText text = []) :
    parse v options text = .ok none := by
  rw [parse, run_of_nil (List.map_eq_nil_iff.mp h)]

theorem parse_of_ofText_ne_nil {text : String} (h : Token.ofText text ≠ []) :
    parse v options text =
      ((machine v options).run text.length .start (Lexeme.ofText text)).result.map some := by
  rw [parse, run_of_ne_nil fun hnil => h (List.map_eq_nil_iff.mpr hnil)]

theorem parse_eq_error_iff {text : String} (h : Token.ofText text ≠ []) {e : ParseError} :
    parse v options text = .error e ↔
      ((machine v options).run text.length .start (Lexeme.ofText text)).result = .error e := by
  rw [parse_of_ofText_ne_nil h]
  cases ((machine v options).run text.length .start (Lexeme.ofText text)).result <;>
    simp [Except.map]

/-- What is read from a text is what its tokens derive. -/
theorem parse_eq_ok_some_iff {text : String} {c : Clause} :
    parse v options text = .ok (some c) ↔
      IsBody v options.nullMarker (Token.ofText text) c ∧
        ∀ limit ∈ options.maxDepth, Token.nesting 0 (Token.ofText text) ≤ limit := by
  rw [← reads_start_iff]
  by_cases htext : Token.ofText text = []
  · rw [parse_of_ofText_nil htext, htext]
    apply Iff.intro
    · intro h
      cases h
    · intro h
      cases h
  · rw [parse_of_ofText_ne_nil htext]
    have hrun : ((machine v options).run text.length .start (Lexeme.ofText text)).result = .ok c ↔
        (machine v options).Reads .start (Token.ofText text) ⟨[], .joint c⟩ := by
      rw [Machine.result_run_eq_ok_iff]
      apply Iff.intro
      · intro ⟨t, hreads, hfinish⟩
        rwa [finish_eq_some_iff.mp hfinish] at hreads
      · intro hreads
        exact ⟨_, hreads, rfl⟩
    rw [← hrun]
    cases ((machine v options).run text.length .start (Lexeme.ofText text)).result <;>
      simp [Except.map]

theorem parse_eq_ok_none_iff {text : String} :
    parse v options text = .ok none ↔ Token.ofText text = [] := by
  apply Iff.intro
  · intro h
    apply Decidable.byContradiction
    intro htext
    rw [parse_of_ofText_ne_nil htext] at h
    cases hresult : ((machine v options).run text.length .start (Lexeme.ofText text)).result <;>
      simp [hresult, Except.map] at h
  · exact parse_of_ofText_nil

/-- Nothing but blanks is no filter; any other text is a filter exactly if its tokens derive one
within the limit, and then it is that one and no other. -/
theorem parse_ok_iff_derivation (v : Vocabulary) (options : ParseOptions) (text : String) :
    (parse v options text = .ok none ↔ Token.ofText text = []) ∧
    (Token.ofText text = [] ↔ ∀ ch ∈ text.toList, Unicode.isBlank ch = true) ∧
    (∀ c, parse v options text = .ok (some c) ↔
      IsBody v options.nullMarker (Token.ofText text) c ∧
        ∀ limit ∈ options.maxDepth, Token.nesting 0 (Token.ofText text) ≤ limit) ∧
    ∀ ts b c, IsBody v options.nullMarker ts b → IsBody v options.nullMarker ts c → b = c := by
  refine ⟨parse_eq_ok_none_iff, ?_, fun c => parse_eq_ok_some_iff, fun ts b c => IsBody.unique⟩
  rw [Token.ofText_eq_ofChars]
  exact Token.ofChars_eq_nil_iff

theorem parse_ok_of_grouped_derivation :
    parse .preset ⟨true, some 1⟩ "a eq 1 and (b ne null)" =
      .ok (some (.combined (.condition "a" .isEqualTo (.text "1")) .and
        (.condition "b" .isNotEqualTo .null))) := by
  have htokens : Token.ofText "a eq 1 and (b ne null)" =
      [.word "a", .word "eq", .number "1", .word "and", .openGroup, .word "b", .word "ne",
        .word "null", .closeGroup] := by decide +kernel
  have ha : IsClause .preset true [.word "a", .word "eq", .number "1"]
      (.condition "a" .isEqualTo (.text "1")) := .condition (by decide +kernel) (.number "1")
  have hb : IsClause .preset true [.word "b", .word "ne", .word "null"]
      (.condition "b" .isNotEqualTo .null) := .condition (by decide +kernel) (.null rfl)
  apply ((parse_ok_iff_derivation _ _ _).2.2.1 _).2
  rw [htokens]
  exact ⟨ha.isBody.snoc (by decide +kernel) (.group hb.isBody), by decide⟩

end RowQuery.Filter
