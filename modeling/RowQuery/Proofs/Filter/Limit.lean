import RowQuery.Proofs.Filter.Canonical
import RowQuery.Proofs.Parse.Halt

/-! What a limit on groups does to a run: up to the first parenthesis that opens one group too many
it changes nothing, and there the run ends. Groups that have been closed are not counted. -/

namespace RowQuery

namespace Token

theorem openAfter_le_nesting (opened : Nat) (ts : List Token) :
    openAfter opened ts ≤ nesting opened ts := by
  induction ts generalizing opened with
  | nil => exact Nat.le_refl _
  | cons t ts ih =>
    cases t with
    | closeGroup => exact Nat.le_trans (ih _) (Nat.le_max_right _ _)
    | _ => exact ih _

theorem exists_first_beyond {limit opened : Nat} {ts : List Token} (h : limit < nesting opened ts)
    (hopened : opened ≤ limit) :
    ∃ pre post, ts = pre ++ .openGroup :: post ∧ nesting opened pre ≤ limit ∧
      openAfter opened pre = limit := by
  fun_induction nesting opened ts with
  | case1 opened => omega
  | case2 opened ts ih =>
    by_cases hlimit : opened = limit
    · exact ⟨[], ts, rfl, hopened, hlimit⟩
    · obtain ⟨pre, post, rfl, hpre, hlast⟩ := ih h (by omega)
      exact ⟨.openGroup :: pre, post, rfl, hpre, hlast⟩
  | case3 opened ts ih =>
    obtain ⟨pre, post, rfl, hpre, hlast⟩ := ih (by omega) (by omega)
    exact ⟨.closeGroup :: pre, post, rfl, Nat.max_le.2 ⟨hopened, hpre⟩, hlast⟩
  | case4 opened w ts ih =>
    obtain ⟨pre, post, rfl, hpre, hlast⟩ := ih h hopened
    exact ⟨.word w :: pre, post, rfl, hpre, hlast⟩
  | case5 opened n ts ih =>
    obtain ⟨pre, post, rfl, hpre, hlast⟩ := ih h hopened
    exact ⟨.number n :: pre, post, rfl, hpre, hlast⟩
  | case6 opened s ts ih =>
    obtain ⟨pre, post, rfl, hpre, hlast⟩ := ih h hopened
    exact ⟨.string s :: pre, post, rfl, hpre, hlast⟩

end Token

namespace Reading

def tokens (rs : List Reading) : List Token :=
  rs.filterMap token?

theorem tokens_append (rs ss : List Reading) : tokens (rs ++ ss) = tokens rs ++ tokens ss :=
  List.filterMap_append

theorem tokens_map_reading (ls : List Lexeme) :
    tokens (ls.map Lexeme.reading) = ls.map Lexeme.token := by
  rw [tokens, List.filterMap_map]
  exact congrFun List.filterMap_eq_map' ls

def opened (rs : List Reading) : Nat :=
  Token.openAfter 0 (tokens rs)

/-- No parenthesis among these opens more groups than the limit. -/
def Within (limit : Nat) (rs : List Reading) : Prop :=
  ∀ pre position, pre ++ [⟨some .openGroup, position⟩] <+: rs →
    opened (pre ++ [⟨some .openGroup, position⟩]) ≤ limit

theorem exists_first_beyond {limit : Nat} {rs : List Reading}
    (h : limit < Token.nesting 0 (tokens rs)) :
    ∃ pre position post, rs = pre ++ ⟨some .openGroup, position⟩ :: post ∧
      Token.nesting 0 (tokens pre) ≤ limit ∧ opened pre = limit := by
  obtain ⟨before, after, htokens, hbefore, hopened⟩ :=
    Token.exists_first_beyond h (Nat.zero_le limit)
  obtain ⟨front, rest, rfl, rfl, hrest⟩ := List.filterMap_eq_append_iff.mp htokens
  obtain ⟨skipped, ⟨tok, position⟩, post, rfl, hskipped, rfl, -⟩ :=
    List.filterMap_eq_cons_iff.mp hrest
  have hpre : tokens (front ++ skipped) = tokens front := by
    rw [tokens_append, tokens, tokens, List.filterMap_eq_nil_iff.mpr hskipped, List.append_nil]
  refine ⟨front ++ skipped, position, post, by rw [List.append_assoc], ?_, ?_⟩
  · rwa [hpre]
  · rwa [opened, hpre]

theorem opened_append_openGroup (pre : List Reading) (position : Nat) :
    opened (pre ++ [⟨some .openGroup, position⟩]) = opened pre + 1 := by
  rw [opened, tokens_append, Token.openAfter_append]
  rfl

theorem within_iff {limit : Nat} {rs : List Reading} :
    Within limit rs ↔ Token.nesting 0 (tokens rs) ≤ limit := by
  apply Iff.intro
  · intro h
    apply Nat.le_of_not_lt
    intro hbeyond
    obtain ⟨pre, position, post, rfl, -, hopened⟩ := exists_first_beyond hbeyond
    have hle := h pre position (by simp)
    rw [opened_append_openGroup] at hle
    omega
  · intro h pre position ⟨post, hrs⟩
    rw [← hrs, tokens_append, Token.nesting_append] at h
    have hle := Token.openAfter_le_nesting 0 (tokens (pre ++ [⟨some .openGroup, position⟩]))
    rw [opened]
    omega

end Reading

namespace Filter

variable {v : Vocabulary} {options : ParseOptions} {s t : State} {ls : List Lexeme} {stop : Nat}

theorem Move.openAfter_eq {tok : Token} (h : Move v options s tok t) (ts : List Token) :
    Token.openAfter s.outer.length (tok :: ts) = Token.openAfter t.outer.length ts := by
  cases h with
  | value h => cases h <;> rfl
  | _ => rfl

theorem openAfter_of_reads {ts : List Token} (h : (machine v options).Reads s ts t) :
    Token.openAfter s.outer.length ts = t.outer.length := by
  induction ts generalizing s with
  | nil =>
    cases h
    rfl
  | cons tok ts ih =>
    obtain ⟨next, hmove, more⟩ := exists_move h
    rw [hmove.openAfter_eq, ih more]

/-- Where a reader without a limit does not go on, a limit makes no difference. -/
theorem step_eq_unlimited {tok : Token}
    (h : ∀ t, (machine v (unlimited options)).step s tok ≠ .take t) :
    (machine v options).step s tok = (machine v (unlimited options)).step s tok := by
  obtain ⟨outer, phase⟩ := s
  cases phase with
  | clause p =>
    cases tok with
    | openGroup => exact absurd rfl (h ⟨p :: outer, .clause none⟩)
    | _ => rfl
  | value => rfl
  | operator | joint => cases tok <;> rfl

theorem run_eq_unlimited (hs : ∀ limit ∈ options.maxDepth, s.outer.length ≤ limit)
    (h : ∀ limit ∈ options.maxDepth, Token.nesting s.outer.length
      (Reading.tokens ((machine v (unlimited options)).run stop s ls).taken) ≤ limit) :
    (machine v options).run stop s ls = (machine v (unlimited options)).run stop s ls := by
  have hends := (machine v (unlimited options)).ends_run stop s ls
  generalize (machine v (unlimited options)).run stop s ls = r at h hends
  apply Machine.Ends.run_eq
  -- What has been read is no deeper than what has been taken.
  have hread : ∀ {t : State} {pre : List Lexeme} {more : List Reading},
      (machine v (unlimited options)).Reads s (pre.map Lexeme.token) t →
      r.taken = pre.map Lexeme.reading ++ more →
      (machine v options).Reads s (pre.map Lexeme.token) t := by
    intro t pre more hreads htaken
    refine (reads_iff_unlimited hs).2 ⟨hreads, fun limit hl => ?_⟩
    have hle := h limit hl
    rw [htaken, Reading.tokens_append, Token.nesting_append, Reading.tokens_map_reading] at hle
    omega
  cases hends with
  | finish hreads => exact .finish (hread hreads rfl)
  | refuse pre post hreads hstep =>
    have hsame := step_eq_unlimited fun t => by rw [hstep]; nofun
    exact .refuse pre post (hread hreads (List.append_nil _).symm) (hsame.trans hstep)
  | fault pre post hreads hstep =>
    have hsame := step_eq_unlimited fun t => by rw [hstep]; nofun
    exact .fault pre post (hread hreads List.map_append) (hsame.trans hstep)

theorem exists_clause_of_step_ne_refuse (h : (machine v options).step s .openGroup ≠ .refuse) :
    ∃ p, s.phase = .clause p := by
  have h := Machine.kind_mem_of_step h
  obtain ⟨outer, phase⟩ := s
  cases phase with
  | clause p => exact ⟨p, rfl⟩
  | joint body => cases outer <;> simp [machine, State.expected, State.terminator, Token.kind] at h
  | _ => simp [machine, State.expected, Token.kind] at h

theorem run_beyond {limit position : Nat} {pre post : List Reading}
    (hlimit : options.maxDepth = some limit)
    (htaken : ((machine v (unlimited options)).run stop s ls).taken =
      pre ++ ⟨some .openGroup, position⟩ :: post)
    (hs : s.outer.length ≤ limit)
    (hpre : Token.nesting s.outer.length (Reading.tokens pre) ≤ limit)
    (hopened : Token.openAfter s.outer.length (Reading.tokens pre) = limit) :
    (machine v options).run stop s ls =
      ⟨pre ++ [⟨some .openGroup, position⟩], .error (.nestingTooDeep limit position)⟩ := by
  obtain ⟨before, l, after, ⟨outer, phase⟩, rfl, rfl, hl, hreads, hstep⟩ :=
    Machine.exists_reads_of_taken htaken
  obtain ⟨p, rfl⟩ := exists_clause_of_step_ne_refuse hstep
  obtain ⟨tok, start, behind, closed⟩ := l
  cases hl
  rw [Reading.tokens_map_reading] at hpre hopened
  have hfull : outer.length = limit := (openAfter_of_reads hreads).symm.trans hopened
  have hlimited : (machine v options).Reads s (before.map Lexeme.token) ⟨outer, .clause p⟩ := by
    rw [reads_iff_unlimited (by simpa [hlimit] using hs)]
    exact ⟨hreads, by simpa [hlimit] using hpre⟩
  have hfault : (machine v options).step ⟨outer, .clause p⟩ .openGroup =
      .fault (.tooDeep limit) := by
    have hat : atLimit options outer = some limit := by
      simp [atLimit, hlimit, hfull]
    simp only [machine, step, hat]
  have hends : (machine v options).Ends stop s
      (before ++ ⟨.openGroup, start, behind, closed⟩ :: after) _ :=
    .fault before after hlimited hfault
  rw [hends.run_eq, List.map_append]
  rfl

/-! Groups side by side. -/

theorem IsBody.append_chain {nullMarker : Bool} {ts : List Token} {b : Clause}
    (h : IsBody v nullMarker ts b) : ∀ {us : List Token} {links : List (Connective × Clause)},
      IsChain v nullMarker us links → IsBody v nullMarker (ts ++ us) (b.chain links)
  | _, _, .nil => by rwa [List.append_nil]
  | _, _, .cons hk hc more => by
    have hall := (h.snoc hk hc).append_chain more
    rwa [List.append_assoc] at hall

theorem IsBody.exists_join {nullMarker : Bool} {ts us : List Token} {b c : Clause} {w : String}
    {k : Connective} (hb : IsBody v nullMarker ts b) (hk : v.connective? w = some k)
    (hc : IsBody v nullMarker us c) : ∃ d, IsBody v nullMarker (ts ++ .word w :: us) d := by
  cases hc with
  | fold first more =>
    have hall := (hb.snoc hk first).append_chain more
    rw [List.append_assoc, List.cons_append] at hall
    exact ⟨_, hall⟩

theorem parse_beside {nullMarker : Bool} {limit : Nat} {left right text : String}
    {b c : Clause} {w : String} {k : Connective}
    (hb : parse v ⟨nullMarker, some limit⟩ left = .ok (some b)) (hk : v.connective? w = some k)
    (hc : parse v ⟨nullMarker, some limit⟩ right = .ok (some c))
    (htext : Token.ofText text = Token.ofText left ++ .word w :: Token.ofText right) :
    ∃ d, parse v ⟨nullMarker, some limit⟩ text = .ok (some d) := by
  obtain ⟨hleft, hleftDepth⟩ := parse_eq_ok_some_iff.mp hb
  obtain ⟨hright, hrightDepth⟩ := parse_eq_ok_some_iff.mp hc
  obtain ⟨d, hd⟩ := hleft.exists_join hk hright
  refine ⟨d, parse_eq_ok_some_iff.mpr ⟨htext ▸ hd, fun bound hbound => ?_⟩⟩
  rw [htext, Token.nesting_append, hleft.openAfter_eq]
  exact Nat.max_le.2 ⟨hleftDepth bound hbound, hrightDepth bound hbound⟩

theorem parse_of_le {nullMarker : Bool} {limit : Nat} {higher : Option Nat} {text : String}
    {c : Option Clause} (hle : ∀ bound ∈ higher, limit ≤ bound)
    (h : parse v ⟨nullMarker, some limit⟩ text = .ok c) :
    parse v ⟨nullMarker, higher⟩ text = .ok c := by
  cases c with
  | none => exact parse_eq_ok_none_iff.mpr (parse_eq_ok_none_iff.mp h)
  | some c =>
    obtain ⟨hbody, hdepth⟩ := parse_eq_ok_some_iff.mp h
    refine parse_eq_ok_some_iff.mpr ⟨hbody, fun bound hbound => ?_⟩
    exact Nat.le_trans (hdepth limit rfl) (hle bound hbound)

private theorem parse_within {nullMarker : Bool} {limit : Nat} {text : String}
    (h : Reading.Within limit (run v ⟨nullMarker, none⟩ text).taken) :
    parse v ⟨nullMarker, some limit⟩ text = parse v ⟨nullMarker, none⟩ text := by
  by_cases htext : Lexeme.ofText text = []
  · rw [parse, parse, run_of_nil htext, run_of_nil htext]
  · rw [run_of_ne_nil htext, Reading.within_iff] at h
    have hrun : (machine v ⟨nullMarker, some limit⟩).run text.length .start (Lexeme.ofText text) =
        (machine v ⟨nullMarker, none⟩).run text.length .start (Lexeme.ofText text) :=
      run_eq_unlimited (fun _ _ => Nat.zero_le _) fun bound hbound => by cases hbound; exact h
    rw [parse, parse, run_of_ne_nil htext, run_of_ne_nil htext, hrun]

private theorem parse_beyond {nullMarker : Bool} {limit : Nat} {text : String}
    (h : ¬ Reading.Within limit (run v ⟨nullMarker, none⟩ text).taken) :
    ∃ pre position post,
      (run v ⟨nullMarker, none⟩ text).taken = pre ++ ⟨some .openGroup, position⟩ :: post ∧
      Reading.Within limit pre ∧
      Reading.opened (pre ++ [⟨some .openGroup, position⟩]) = limit + 1 ∧
      parse v ⟨nullMarker, some limit⟩ text = .error (.nestingTooDeep limit position) := by
  rw [Reading.within_iff, Nat.not_le] at h
  obtain ⟨pre, position, post, htaken, hpre, hopened⟩ := Reading.exists_first_beyond h
  have htext : Lexeme.ofText text ≠ [] := by
    intro hnil
    rw [run_of_nil hnil] at htaken
    simp at htaken
  refine ⟨pre, position, post, htaken, Reading.within_iff.mpr hpre, ?_, ?_⟩
  · rw [Reading.opened_append_openGroup, hopened]
  · rw [run_of_ne_nil htext] at htaken
    have hrun : (machine v ⟨nullMarker, some limit⟩).run text.length .start (Lexeme.ofText text) =
        ⟨pre ++ [⟨some .openGroup, position⟩], .error (.nestingTooDeep limit position)⟩ :=
      run_beyond rfl htaken (Nat.zero_le _) hpre hopened
    rw [parse, run_of_ne_nil htext, hrun]
    rfl

/-- A limit cuts the run without one short at the first parenthesis that opens one group too many,
and changes no other run. It counts the groups that are open at once, so that groups side by side
need no higher limit than each of them, and a higher limit changes nothing that was read. -/
theorem parse_limited (v : Vocabulary) (nullMarker : Bool) (limit : Nat) :
    (∀ text, Reading.Within limit (run v ⟨nullMarker, none⟩ text).taken →
      parse v ⟨nullMarker, some limit⟩ text = parse v ⟨nullMarker, none⟩ text) ∧
    (∀ text, ¬ Reading.Within limit (run v ⟨nullMarker, none⟩ text).taken →
      ∃ pre position post,
        (run v ⟨nullMarker, none⟩ text).taken = pre ++ ⟨some .openGroup, position⟩ :: post ∧
        Reading.Within limit pre ∧
        Reading.opened (pre ++ [⟨some .openGroup, position⟩]) = limit + 1 ∧
        parse v ⟨nullMarker, some limit⟩ text = .error (.nestingTooDeep limit position)) ∧
    (∀ left right text b c w k, parse v ⟨nullMarker, some limit⟩ left = .ok (some b) →
      v.connective? w = some k → parse v ⟨nullMarker, some limit⟩ right = .ok (some c) →
      Token.ofText text = Token.ofText left ++ .word w :: Token.ofText right →
      ∃ d, parse v ⟨nullMarker, some limit⟩ text = .ok (some d)) ∧
    ∀ higher : Option Nat, (∀ bound ∈ higher, limit ≤ bound) →
      ∀ text c, parse v ⟨nullMarker, some limit⟩ text = .ok c →
        parse v ⟨nullMarker, higher⟩ text = .ok c := by
  exact ⟨fun text => parse_within, fun text => parse_beyond,
    fun left right text b c w k => parse_beside, fun higher hle text c => parse_of_le hle⟩

/-- The error of the run without a limit stands behind the parenthesis that is one too many. Two
groups side by side are no deeper than one. -/
theorem parse_limited_second_sibling :
    let text := "(a eq 1) and ((b eq 2) or"
    parse .preset ⟨false, none⟩ text =
        .error (.unexpectedToken .endOfInput [.openGroup, .word] 25) ∧
      parse .preset ⟨false, some 2⟩ text =
        .error (.unexpectedToken .endOfInput [.openGroup, .word] 25) ∧
      (∃ pre position post,
        (run .preset ⟨false, none⟩ text).taken = pre ++ ⟨some .openGroup, position⟩ :: post ∧
        Reading.Within 1 pre ∧ Reading.opened (pre ++ [⟨some .openGroup, position⟩]) = 2 ∧
        parse .preset ⟨false, some 1⟩ text = .error (.nestingTooDeep 1 position)) ∧
      ∃ d, parse .preset ⟨false, some 1⟩ "(a eq 1) and (b eq 2)" = .ok (some d) ∧
        parse .preset ⟨false, none⟩ "(a eq 1) and (b eq 2)" = .ok (some d) := by
  intro text
  have hfree : parse .preset ⟨false, none⟩ text =
      .error (.unexpectedToken .endOfInput [.openGroup, .word] 25) := by decide +kernel
  have hleft : parse .preset ⟨false, some 1⟩ "(a eq 1)" =
      .ok (some (.leaf ⟨"a", .isEqualTo, .text "1"⟩)) := by decide +kernel
  have hright : parse .preset ⟨false, some 1⟩ "(b eq 2)" =
      .ok (some (.leaf ⟨"b", .isEqualTo, .text "2"⟩)) := by decide +kernel
  have hand : Vocabulary.preset.connective? "and" = some .and := by decide +kernel
  obtain ⟨d, hd⟩ := (parse_limited .preset false 1).2.2.1 _ _ "(a eq 1) and (b eq 2)" _ _ _ _
    hleft hand hright (by decide +kernel)
  refine ⟨hfree, ?_, (parse_limited .preset false 1).2.1 text ?_, d, hd,
    (parse_limited .preset false 1).2.2.2 none (by simp) _ _ hd⟩
  · rw [(parse_limited .preset false 2).1 text (Reading.within_iff.mpr (by decide +kernel)), hfree]
  · rw [Reading.within_iff]
    decide +kernel

end Filter

end RowQuery
