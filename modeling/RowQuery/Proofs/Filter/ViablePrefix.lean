import RowQuery.Proofs.Filter.Acceptance
import RowQuery.Proofs.Parse.Halt
import RowQuery.Proofs.Print.Success
import RowQuery.Proofs.Token.Reading
import RowQuery.Proofs.Token.Spelling
import RowQuery.Proofs.Vocabulary.Reverse

/-! A filter is refused at the first place where it can no longer become one: what stands before
could have gone on to a filter, what stands up to there cannot, and the kinds that an error names
are those that could have followed. -/

namespace RowQuery

def ParseError.moveTo (position : Nat) : ParseError → ParseError
  | unexpectedToken found expected _ => unexpectedToken found expected position
  | unresolvedKeyword kind word _ => unresolvedKeyword kind word position
  | nestingTooDeep limit _ => nestingTooDeep limit position

@[simp] theorem ParseError.position_moveTo (p : Nat) (e : ParseError) :
    (e.moveTo p).position = p := by
  cases e <;> rfl

@[simp] theorem Fault.moveTo_toError (p q : Nat) (f : Fault) :
    (f.toError p).moveTo q = f.toError q := by
  cases f <;> rfl

namespace Machine

/-! Errors depend on the tokens alone, apart from the place they name. -/

variable {σ α : Type} {m : Machine σ α} {s : σ} {next : Option Token} {p : Nat} {e : ParseError}

theorem objection_eq_map_moveTo (m : Machine σ α) (s : σ) (next : Option Token) (p q : Nat) :
    m.objection s next q = (m.objection s next p).map (.moveTo q) := by
  cases next with
  | none =>
    simp only [objection]
    cases m.finish s <;> rfl
  | some tok =>
    simp only [objection]
    cases m.step s tok with
    | fault f => exact congrArg some (f.moveTo_toError p q).symm
    | _ => rfl

theorem objection_moveTo (h : m.objection s next p = some e) (q : Nat) :
    m.objection s next q = some (e.moveTo q) := by
  rw [objection_eq_map_moveTo m s next p q, h, Option.map_some]

theorem position_of_objection (h : m.objection s next p = some e) : e.position = p := by
  have hsame := objection_moveTo h p
  rw [h, Option.some.injEq] at hsame
  rw [hsame, ParseError.position_moveTo]

theorem eq_of_objection_unexpected {found : TokenKind} {expected : List TokenKind} {q : Nat}
    (h : m.objection s next p = some (.unexpectedToken found expected q)) :
    found = Token.kindOf next ∧ expected = m.expected s := by
  unfold objection at h
  cases next with
  | none =>
    cases hfinish : m.finish s with
    | some a => simp [hfinish] at h
    | none =>
      simp only [hfinish] at h
      cases h
      exact ⟨rfl, rfl⟩
  | some tok =>
    cases hstep : m.step s tok with
    | take t => simp [hstep] at h
    | refuse =>
      simp only [hstep] at h
      cases h
      exact ⟨rfl, rfl⟩
    | fault f =>
      simp only [hstep] at h
      cases f <;> cases h

end Machine

namespace Filter

variable {v : Vocabulary} {options : ParseOptions} {s t : State} {ts : List Token} {text : String}

/-- Some filter begins with these tokens, the end of the input being the last if it is among
them. -/
def Viable (v : Vocabulary) (options : ParseOptions) (front : List (Option Token)) : Prop :=
  ∃ text c, parse v options text = .ok c ∧ front <+: Token.sentence text

/-! From every state a reader can be led to the end, without opening another group. -/

def Completable (v : Vocabulary) (options : ParseOptions) (s : State) : Prop :=
  ∃ more c, (∀ t ∈ more, Token.Legible t) ∧ (machine v options).Reads s more ⟨[], .joint c⟩

theorem Completable.of_move {tok : Token} (h : Move v options s tok t) (htok : tok.Legible)
    (ht : Completable v options t) : Completable v options s := by
  obtain ⟨more, c, hmore, hreads⟩ := ht
  exact ⟨tok :: more, c, List.forall_mem_cons.2 ⟨htok, hmore⟩, h.reads.trans hreads⟩

theorem completable_joint (outer : List Pending) (body : Clause) :
    Completable v options ⟨outer, .joint body⟩ := by
  induction outer generalizing body with
  | nil => exact ⟨[], body, by simp, .nil _⟩
  | cons p outer ih => exact .of_move (.closeGroup body) trivial (ih _)

theorem completable {w : String} (ho : ∃ o, v.operator? w = some o)
    (hw : isSingleWord w = true) (s : State) : Completable v options s := by
  obtain ⟨o, ho⟩ := ho
  have hlegible : Token.Legible (.word w) := isSingleWord_iff.mp hw
  have hvalue : ∀ outer p field o, Completable v options ⟨outer, .value p field o⟩ :=
    fun outer _ _ _ => .of_move (.value (.string "")) trivial (completable_joint outer _)
  have hoperator : ∀ outer p field, Completable v options ⟨outer, .operator p field⟩ :=
    fun outer p field => .of_move (.operator ho) hlegible (hvalue outer p field o)
  obtain ⟨outer, phase⟩ := s
  cases phase with
  | clause p => exact .of_move (.field w) hlegible (hoperator outer p w)
  | operator p field => exact hoperator outer p field
  | value p field o => exact hvalue outer p field o
  | joint body => exact completable_joint outer body

/-! What may follow the tokens that have been read. -/

theorem reads_of_parse {c : Clause} (h : parse v options text = .ok (some c)) :
    (machine v options).Reads .start (Token.ofText text) ⟨[], .joint c⟩ :=
  reads_start_iff.mpr (parse_eq_ok_some_iff.mp h)

theorem viable_of_reads {c : Clause} {front : List (Option Token)}
    (h : (machine v options).Reads .start ts ⟨[], .joint c⟩) (hlegible : ∀ t ∈ ts, t.Legible)
    (hfront : front <+: ts.map some ++ [none]) : Viable v options front := by
  obtain ⟨text, rfl⟩ := Token.exists_ofText_eq hlegible
  refine ⟨text, some c, parse_eq_ok_some_iff.mpr (reads_start_iff.mp h), ?_⟩
  rwa [Token.sentence_eq]

theorem viable_of_completable (h : (machine v options).Reads .start ts s)
    (hlegible : ∀ t ∈ ts, t.Legible) (hs : Completable v options s) :
    Viable v options (ts.map some) := by
  obtain ⟨more, c, hmore, hreads⟩ := hs
  refine viable_of_reads (h.trans hreads) (List.forall_mem_append.2 ⟨hlegible, hmore⟩) ?_
  rw [List.map_append, List.append_assoc]
  exact List.prefix_append _ _

theorem exists_move_of_viable {tok : Token} (h : (machine v options).Reads .start ts s)
    (hviable : Viable v options (ts.map some ++ [some tok])) :
    tok.Legible ∧ ∃ next, Move v options s tok next := by
  obtain ⟨text, c, hparse, hfront⟩ := hviable
  have hfront' : (ts ++ [tok]).map some <+: Token.sentence text := by simpa using hfront
  obtain ⟨rest, hrest⟩ := Token.map_some_prefix_sentence_iff.mp hfront'
  rw [List.append_assoc] at hrest
  cases c with
  | none =>
    rw [parse_eq_ok_none_iff.mp hparse] at hrest
    simp at hrest
  | some c =>
    have hreads := reads_of_parse hparse
    rw [← hrest] at hreads
    obtain ⟨s', hts, hrest'⟩ := hreads.split
    obtain rfl := h.unique hts
    obtain ⟨next, hmove, -⟩ := exists_move hrest'
    have hmem : tok ∈ Token.ofText text := by rw [← hrest]; simp
    exact ⟨Token.legible_of_mem_ofChars tok hmem, next, hmove⟩

theorem viable_end_iff (h : (machine v options).Reads .start ts s)
    (hlegible : ∀ t ∈ ts, t.Legible) :
    Viable v options (ts.map some ++ [none]) ↔ ts = [] ∨ ∃ c, s = ⟨[], .joint c⟩ := by
  apply Iff.intro
  · intro ⟨text, c, hparse, hfront⟩
    have htext := Token.ended_prefix_sentence_iff.mp hfront
    cases c with
    | none => exact .inl (htext ▸ parse_eq_ok_none_iff.mp hparse)
    | some c =>
      have hreads := reads_of_parse hparse
      rw [htext] at hreads
      exact .inr ⟨c, h.unique hreads⟩
  · rintro (rfl | ⟨c, rfl⟩)
    · exact ⟨"", none, parse_of_ofText_nil Token.ofChars_nil,
        Token.ended_prefix_sentence_iff.mpr Token.ofChars_nil⟩
    · exact viable_of_reads h hlegible List.prefix_rfl

/-! What an error names as expected. -/

theorem endOfInput_mem_expected_iff :
    .endOfInput ∈ s.expected ↔ ∃ c, s = ⟨[], .joint c⟩ := by
  obtain ⟨outer, phase⟩ := s
  cases phase with
  | joint body => cases outer <;> simp [State.expected, State.terminator]
  | _ => simp [State.expected]

private theorem exists_move_value (outer : List Pending) (p : Pending) (field : String)
    (o : Operator) {tok : Token} (h : (valueOf? options.nullMarker tok).isSome = true) :
    ∃ next, Move v options ⟨outer, .value p field o⟩ tok next := by
  obtain ⟨value, hvalue⟩ := Option.isSome_iff_exists.mp h
  exact ⟨_, .value (valueOf?_eq_some_iff.mp hvalue)⟩

/-- As long as no limit forbids a group, some token of every kind that is named can be taken. -/
theorem exists_move_of_mem_expected {w u : String} {o : Operator} {k : Connective}
    (ho : v.operator? w = some o) (hw : isSingleWord w = true) (hk : v.connective? u = some k)
    (hu : isSingleWord u = true) (hlimit : options.maxDepth = none) {kind : TokenKind}
    (h : kind ∈ s.expected) (hkind : kind ≠ .endOfInput) :
    ∃ tok : Token, tok.kind = kind ∧ tok.Legible ∧ ∃ next, Move v options s tok next := by
  have hw : Token.Legible (.word w) := isSingleWord_iff.mp hw
  obtain ⟨outer, phase⟩ := s
  cases phase with
  | clause p =>
    have hcases : kind = .openGroup ∨ kind = .word := by simpa [State.expected] using h
    rcases hcases with rfl | rfl
    · have hopen : atLimit options outer = none := by simp [atLimit, hlimit]
      exact ⟨.openGroup, rfl, trivial, _, .openGroup hopen⟩
    · exact ⟨.word w, rfl, hw, _, .field w⟩
  | operator p field =>
    have hword : kind = .word := by simpa [State.expected] using h
    exact ⟨.word w, hword.symm, hw, _, .operator ho⟩
  | value p field o =>
    have hcases : kind = .word ∨ kind = .number ∨ kind = .string := by
      simpa [State.expected] using h
    rcases hcases with rfl | rfl | rfl
    · exact ⟨.word w, rfl, hw, exists_move_value outer p field o rfl⟩
    · have hzero : isNumberChar '0' = true := by decide
      have hdigit : Token.Legible (.number "0") := ⟨by simp, by simpa using hzero⟩
      exact ⟨.number "0", rfl, hdigit, exists_move_value outer p field o rfl⟩
    · exact ⟨.string "", rfl, trivial, exists_move_value outer p field o rfl⟩
  | joint body =>
    cases outer with
    | nil =>
      have hword : kind = .word := by simpa [State.expected, State.terminator, hkind] using h
      exact ⟨.word u, hword.symm, isSingleWord_iff.mp hu, _, .connective hk⟩
    | cons p outer =>
      have hcases : kind = .closeGroup ∨ kind = .word := by
        simpa [State.expected, State.terminator] using h
      rcases hcases with rfl | rfl
      · exact ⟨.closeGroup, rfl, trivial, _, .closeGroup body⟩
      · exact ⟨.word u, rfl, isSingleWord_iff.mp hu, _, .connective hk⟩

/-! Where a run stops, in terms of tokens. -/

theorem ofText_ne_nil_of_error {e : ParseError} (h : parse v options text = .error e) :
    Token.ofText text ≠ [] := by
  intro htext
  rw [parse_of_ofText_nil htext] at h
  cases h

theorem exists_objection_of_error {e : ParseError} (h : parse v options text = .error e) :
    ∃ ts s next position, (machine v options).Reads .start ts s ∧
      ts.map some ++ [next] <+: Token.sentence text ∧
      (Reading.ofText text)[ts.length]? = some ⟨next, position⟩ ∧
      (machine v options).objection s next position = some e := by
  rw [parse_eq_error_iff (ofText_ne_nil_of_error h)] at h
  obtain ⟨pre, s, hreads, ⟨hall, hend⟩ | ⟨l, post, hls, hstep⟩⟩ :=
    Machine.exists_halt_of_error h
  · have htext : Token.ofText text = pre.map Lexeme.token := by rw [Token.ofText, hall]
    refine ⟨_, s, none, text.length, hreads, ?_, ?_, hend⟩
    · exact Token.ended_prefix_sentence_iff.mpr htext
    · rw [← htext]
      exact Reading.getElem?_end text
  · have htext :
        Token.ofText text = (pre.map Lexeme.token ++ [l.token]) ++ post.map Lexeme.token := by
      rw [Token.ofText, hls]
      simp
    refine ⟨_, s, some l.token, l.start, hreads, ?_, ?_, hstep⟩
    · have hfront := Token.map_some_prefix_sentence_iff.mpr ⟨_, htext.symm⟩
      simpa using hfront
    · rw [List.length_map]
      exact Reading.getElem?_of_lexemes hls

theorem error_of_objection {next : Option Token} {position : Nat} {e : ParseError}
    (htext : Token.ofText text ≠ []) (hreads : (machine v options).Reads .start ts s)
    (hfront : ts.map some ++ [next] <+: Token.sentence text)
    (hnext : (Reading.ofText text)[ts.length]? = some ⟨next, position⟩)
    (h : (machine v options).objection s next position = some e) :
    parse v options text = .error e := by
  rw [parse_eq_error_iff htext]
  cases next with
  | none =>
    have hall := Token.ended_prefix_sentence_iff.mp hfront
    rw [← hall, Reading.getElem?_end] at hnext
    cases hnext
    rw [← hall] at hreads
    rw [(Machine.Ends.finish hreads).run_eq]
    exact Machine.result_conclude_eq_error_iff.mpr h
  | some tok =>
    have hfront : (ts ++ [tok]).map some <+: Token.sentence text := by simpa using hfront
    obtain ⟨rest, hrest⟩ := Token.map_some_prefix_sentence_iff.mp hfront
    rw [List.append_assoc, Token.ofText, eq_comm] at hrest
    obtain ⟨pre, more, hls, rfl, hmore⟩ := List.map_eq_append_iff.mp hrest
    obtain ⟨l, post, rfl, rfl, -⟩ := List.map_eq_cons_iff.mp hmore
    rw [List.length_map, Reading.getElem?_of_lexemes hls] at hnext
    cases hnext
    rw [hls]
    exact Machine.result_run_of_objection hreads h post

theorem ofText_ne_nil_of_front {other : String} {next : Option Token}
    (hfront : ts.map some ++ [next] <+: Token.sentence text)
    (hother : ts.map some ++ [next] <+: Token.sentence other) (htext : Token.ofText text ≠ []) :
    Token.ofText other ≠ [] := by
  cases next with
  | none =>
    rw [Token.ended_prefix_sentence_iff] at hfront hother
    rwa [hother, ← hfront]
  | some tok =>
    have hother : (ts ++ [tok]).map some <+: Token.sentence other := by simpa using hother
    have hmem := (Token.map_some_prefix_sentence_iff.mp hother).subset (by simp : tok ∈ ts ++ [tok])
    exact List.ne_nil_of_mem hmem

theorem exists_viable_iff {w u : String} {o : Operator} {k : Connective}
    (ho : v.operator? w = some o) (hw : isSingleWord w = true) (hk : v.connective? u = some k)
    (hu : isSingleWord u = true) (hlimit : options.maxDepth = none)
    (hreads : (machine v options).Reads .start ts s) (hlegible : ∀ t ∈ ts, t.Legible)
    (kind : TokenKind) :
    (∃ t, Token.kindOf t = kind ∧ Viable v options (ts.map some ++ [t])) ↔
      kind ∈ s.expected ∨ ts = [] ∧ kind = .endOfInput := by
  apply Iff.intro
  · rintro ⟨t, rfl, hviable⟩
    cases t with
    | none =>
      rcases (viable_end_iff hreads hlegible).mp hviable with hnil | hend
      · exact .inr ⟨hnil, rfl⟩
      · exact .inl (endOfInput_mem_expected_iff.mpr hend)
    | some tok =>
      obtain ⟨-, next, hmove⟩ := exists_move_of_viable hreads hviable
      have htaken := (machine_movesBy v options _ _ _).mpr hmove
      exact .inl (Machine.kind_mem_of_step (by rw [htaken]; nofun))
  · rintro (hexpected | ⟨hnil, rfl⟩)
    · by_cases hkind : kind = .endOfInput
      · subst hkind
        have hend := endOfInput_mem_expected_iff.mp hexpected
        exact ⟨none, rfl, (viable_end_iff hreads hlegible).mpr (.inr hend)⟩
      · obtain ⟨tok, rfl, htok, next, hmove⟩ :=
          exists_move_of_mem_expected ho hw hk hu hlimit hexpected hkind
        have hviable := viable_of_completable (hreads.trans hmove.reads)
          (List.forall_mem_append.2 ⟨hlegible, List.forall_mem_singleton.2 htok⟩)
          (completable ⟨o, ho⟩ hw next)
        rw [List.map_append] at hviable
        exact ⟨some tok, rfl, hviable⟩
    · exact ⟨none, rfl, (viable_end_iff hreads hlegible).mpr (.inl hnil)⟩

/-- What an error says of the text in front of it, of what stands there and of what could: the
place it names belongs to one token, up to which every text fails in the same way. At the very
beginning the end of the input could stand too, which no error says. -/
theorem parse_error_viable {v : Vocabulary} {options : ParseOptions} {text : String}
    {e : ParseError} (hoperator : ∃ w ∈ v.operators.words, isSingleWord w = true)
    (hconnective : ∃ w ∈ v.connectives.words, isSingleWord w = true)
    (h : parse v options text = .error e) :
    ∃ i next, (Reading.ofText text)[i]? = some ⟨next, e.position⟩ ∧
      (∀ j r, (Reading.ofText text)[j]? = some r → r.start = e.position → j = i) ∧
      Viable v options ((Token.sentence text).take i) ∧
      ¬ Viable v options ((Token.sentence text).take (i + 1)) ∧
      (∀ other, (Token.sentence text).take (i + 1) <+: Token.sentence other →
        ∃ position, (Reading.ofText other)[i]? = some ⟨next, position⟩ ∧
          parse v options other = .error (e.moveTo position)) ∧
      ∀ found expected position, e = .unexpectedToken found expected position →
        found = Token.kindOf next ∧ (i = 0 → .endOfInput ∉ expected) ∧
        (options.maxDepth = none → ∀ kind,
          (∃ t, Token.kindOf t = kind ∧ Viable v options ((Token.sentence text).take i ++ [t])) ↔
            kind ∈ expected ∨ i = 0 ∧ kind = .endOfInput) := by
  obtain ⟨w, hw, hword⟩ := hoperator
  obtain ⟨u, hu, huword⟩ := hconnective
  obtain ⟨o, ho⟩ := Vocabulary.exists_operator? hw
  obtain ⟨k, hk⟩ := Vocabulary.exists_connective? hu
  obtain ⟨ts, s, next, position, hreads, hfront, hnext, hobjection⟩ := exists_objection_of_error h
  obtain rfl := Machine.position_of_objection hobjection
  have hbefore : ts.map some <+: Token.sentence text := (List.prefix_append _ _).trans hfront
  have htake : (Token.sentence text).take ts.length = ts.map some := by
    simpa using (List.prefix_iff_eq_take.mp hbefore).symm
  have htakeNext : (Token.sentence text).take (ts.length + 1) = ts.map some ++ [next] := by
    simpa using (List.prefix_iff_eq_take.mp hfront).symm
  have hlegible : ∀ t ∈ ts, t.Legible := by
    intro t ht
    have hmem := (Token.map_some_prefix_sentence_iff.mp hbefore).subset ht
    exact Token.legible_of_mem_ofChars t hmem
  have hfails : ∀ other, ts.map some ++ [next] <+: Token.sentence other →
      ∃ position, (Reading.ofText other)[ts.length]? = some ⟨next, position⟩ ∧
        parse v options other = .error (e.moveTo position) := by
    intro other hother
    obtain ⟨position, hposition⟩ := Token.exists_reading hother
    rw [List.length_map] at hposition
    exact ⟨position, hposition,
      error_of_objection (ofText_ne_nil_of_front hfront hother (ofText_ne_nil_of_error h)) hreads
        hother hposition (Machine.objection_moveTo hobjection position)⟩
  refine ⟨ts.length, next, hnext, ?_, ?_, ?_, ?_, ?_⟩
  · intro j r hr hstart
    exact Reading.eq_of_start_eq hr hnext hstart
  · rw [htake]
    exact viable_of_completable hreads hlegible (completable ⟨o, ho⟩ hword s)
  · rw [htakeNext]
    intro ⟨other, c, hparse, hother⟩
    obtain ⟨position, -, herror⟩ := hfails other hother
    rw [hparse] at herror
    cases herror
  · rwa [htakeNext]
  · rintro found expected position rfl
    obtain ⟨hfound, rfl⟩ := Machine.eq_of_objection_unexpected hobjection
    refine ⟨hfound, fun hzero => ?_, fun hlimit kind => ?_⟩
    · obtain rfl := List.length_eq_zero_iff.mp hzero
      cases hreads
      simp [machine, State.expected, State.start]
    · rw [htake, List.length_eq_zero_iff]
      exact exists_viable_iff ho hword hk huword hlimit hreads hlegible kind

/-- A group that nobody opened cannot be closed, whatever stands behind. -/
theorem parse_error_viable_stray_close :
    let front := [some .openGroup, some (.word "a"), some (.word "eq"), some (.number "1"),
      some .closeGroup]
    parse .preset {} "(a eq 1) ) or" =
        .error (.unexpectedToken .closeGroup [.endOfInput, .word] 9) ∧
      Viable .preset {} front ∧ ¬ Viable .preset {} (front ++ [some .closeGroup]) ∧
      (∃ position, parse .preset {} "(a eq 1))(" =
        .error (.unexpectedToken .closeGroup [.endOfInput, .word] position)) ∧
      ∀ kind, (∃ t, Token.kindOf t = kind ∧ Viable .preset {} (front ++ [t])) ↔
        kind = .endOfInput ∨ kind = .word := by
  intro front
  have herror : parse .preset {} "(a eq 1) ) or" =
      .error (.unexpectedToken .closeGroup [.endOfInput, .word] 9) := by decide +kernel
  have hthere : (Reading.ofText "(a eq 1) ) or")[5]? = some ⟨some .closeGroup, 9⟩ := by
    decide +kernel
  have hfront : (Token.sentence "(a eq 1) ) or").take 5 = front := by decide +kernel
  have hfront' : (Token.sentence "(a eq 1) ) or").take (5 + 1) = front ++ [some .closeGroup] := by
    decide +kernel
  have hother : front ++ [some .closeGroup] <+: Token.sentence "(a eq 1))(" := by decide +kernel
  obtain ⟨i, next, -, hplace, hviable, hnot, hsame, hkinds⟩ :=
    parse_error_viable ⟨"eq", by decide +kernel⟩ ⟨"and", by decide +kernel⟩ herror
  obtain rfl := hplace 5 _ hthere rfl
  rw [hfront] at hviable hkinds
  rw [hfront'] at hnot hsame
  obtain ⟨position, -, hmoved⟩ := hsame _ hother
  obtain ⟨-, -, hkinds⟩ := hkinds _ _ _ rfl
  exact ⟨herror, hviable, hnot, ⟨position, hmoved⟩, fun kind => by simpa using hkinds rfl kind⟩

end Filter

end RowQuery
