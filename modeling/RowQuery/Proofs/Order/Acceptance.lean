import RowQuery.Order.Parse
import RowQuery.Proofs.Parse.Reads

/-! The grammar of order lists, and that a list is read exactly if its tokens derive it. Words are
entries, directions or delimiters by their places; only behind a bare field two roles compete, and
there a direction wins. -/

namespace RowQuery.Order

inductive IsEntry (v : Vocabulary) : List Token → OrderEntry → Prop
  | bare (field : String) : IsEntry v [.word field] ⟨field, false⟩
  | directed (field : String) {w : String} {d : Direction} (hd : v.direction? w = some d) :
      IsEntry v [.word field, .word w] ⟨field, d == .descending⟩

inductive IsList (v : Vocabulary) : List Token → List OrderEntry → Prop
  | one {ts : List Token} {e : OrderEntry} (h : IsEntry v ts e) : IsList v ts [e]
  | cons {ts us : List Token} {e : OrderEntry} {es : List OrderEntry} {w : String}
      (h : IsEntry v ts e) (hw : v.isDelimiter w = true)
      (hbare : ts.length = 1 → v.direction? w = none) (more : IsList v us es) :
      IsList v (ts ++ .word w :: us) (e :: es)

inductive Move (v : Vocabulary) : State → Token → State → Prop
  | field (done : List OrderEntry) (w : String) :
      Move v (.field done) (.word w) (.direction done w)
  | direction {done : List OrderEntry} {field w : String} {d : Direction}
      (hd : v.direction? w = some d) :
      Move v (.direction done field) (.word w) (.delimiter (⟨field, d == .descending⟩ :: done))
  | skip {done : List OrderEntry} {field w : String} (hd : v.direction? w = none)
      (hw : v.isDelimiter w = true) :
      Move v (.direction done field) (.word w) (.field (⟨field, false⟩ :: done))
  | delimiter {done : List OrderEntry} {w : String} (hw : v.isDelimiter w = true) :
      Move v (.delimiter done) (.word w) (.field done)

variable {v : Vocabulary} {s t : State} {tok : Token} {ts : List Token} {es : List OrderEntry}

private theorem step_of_move (h : Move v s tok t) : step v s tok = .take t := by
  cases h with
  | field => rfl
  | direction hd => simp only [step, hd]
  | skip hd hw => simp only [step, hd, stepDelimiter, if_pos hw]
  | delimiter hw => simp only [step, stepDelimiter, if_pos hw]

private theorem move_of_step (h : step v s tok = .take t) : Move v s tok t := by
  cases tok with
  | word w =>
    cases s with
    | field done =>
      cases h
      exact .field done w
    | direction done field =>
      simp only [step] at h
      split at h
      · rename_i d hd
        cases h
        exact .direction hd
      · rename_i hd
        unfold stepDelimiter at h
        split at h
        · rename_i hw
          cases h
          exact .skip hd hw
        · cases h
    | delimiter done =>
      simp only [step, stepDelimiter] at h
      split at h
      · rename_i hw
        cases h
        exact .delimiter hw
      · cases h
  | _ => cases s <;> cases h

theorem machine_movesBy (v : Vocabulary) : (machine v).MovesBy (Move v) :=
  fun _ _ _ => ⟨move_of_step, step_of_move⟩

theorem Move.reads (h : Move v s tok t) : (machine v).Reads s [tok] t :=
  (machine_movesBy v).reads h

theorem exists_move (h : (machine v).Reads s (tok :: ts) t) :
    ∃ next, Move v s tok next ∧ (machine v).Reads next ts t :=
  (machine_movesBy v).exists_move h

theorem IsList.reads (h : IsList v ts es) (done : List OrderEntry) :
    ∃ t, (machine v).Reads (.field done) ts t ∧ finish t = some (done.reverse ++ es) := by
  induction h generalizing done with
  | one h =>
    cases h with
    | bare field =>
      exact ⟨_, (Move.field done field).reads, by simp [finish]⟩
    | directed field hd =>
      exact ⟨_, (Move.field done field).reads.trans (Move.direction hd).reads, by simp [finish]⟩
  | cons h hw hbare _ ih =>
    cases h with
    | bare field =>
      obtain ⟨t, hreads, hfinish⟩ := ih (⟨field, false⟩ :: done)
      refine ⟨t, ?_, by simp [hfinish]⟩
      exact (Move.field done field).reads.trans ((Move.skip (hbare rfl) hw).reads.trans hreads)
    | @directed field _ d hd =>
      obtain ⟨t, hreads, hfinish⟩ := ih (⟨field, d == .descending⟩ :: done)
      refine ⟨t, ?_, by simp [hfinish]⟩
      exact (Move.field done field).reads.trans
        ((Move.direction hd).reads.trans ((Move.delimiter hw).reads.trans hreads))

private theorem exists_rest {done : List OrderEntry}
    (h : (machine v).Reads (.delimiter done) ts t) :
    ts = [] ∧ t = .delimiter done ∨
      ∃ w us, ts = .word w :: us ∧ v.isDelimiter w = true ∧
        (machine v).Reads (.field done) us t := by
  cases ts with
  | nil =>
    cases h
    exact .inl ⟨rfl, rfl⟩
  | cons tok us =>
    obtain ⟨next, hmove, more⟩ := exists_move h
    cases hmove with
    | delimiter hw => exact .inr ⟨_, us, rfl, hw, more⟩

/-- An entry is read up to the end or up to a delimiter that is no part of it. -/
private theorem exists_entry {done : List OrderEntry} {l : List OrderEntry}
    (h : (machine v).Reads (.field done) ts t) (hfinish : finish t = some l) :
    ∃ us e, IsEntry v us e ∧
      (ts = us ∧ l = (e :: done).reverse ∨
        ∃ w rest, ts = us ++ .word w :: rest ∧ v.isDelimiter w = true ∧
          (us.length = 1 → v.direction? w = none) ∧
          (machine v).Reads (.field (e :: done)) rest t) := by
  cases ts with
  | nil =>
    cases h
    cases hfinish
  | cons tok ts =>
    obtain ⟨next, hmove, more⟩ := exists_move h
    cases hmove with
    | field _ field =>
      cases ts with
      | nil =>
        cases more
        cases hfinish
        exact ⟨_, _, .bare field, .inl ⟨rfl, rfl⟩⟩
      | cons tok ts =>
        obtain ⟨next, hmove, more⟩ := exists_move more
        cases hmove with
        | skip hd hw => exact ⟨_, _, .bare field, .inr ⟨_, ts, rfl, hw, fun _ => hd, more⟩⟩
        | direction hd =>
          refine ⟨_, _, .directed field hd, ?_⟩
          rcases exists_rest more with ⟨rfl, rfl⟩ | ⟨w, rest, rfl, hw, more⟩
          · cases hfinish
            exact .inl ⟨rfl, rfl⟩
          · exact .inr ⟨w, rest, rfl, hw, nofun, more⟩

theorem exists_isList {done : List OrderEntry} {l : List OrderEntry}
    (h : (machine v).Reads (.field done) ts t) (hfinish : finish t = some l) :
    ∃ es, IsList v ts es ∧ l = done.reverse ++ es := by
  -- each entry leaves a shorter rest, but not always by one token
  induction hn : ts.length using Nat.strongRecOn generalizing done ts with
  | ind n ih =>
    obtain ⟨us, e, hentry, ⟨rfl, rfl⟩ | ⟨w, rest, rfl, hw, hbare, more⟩⟩ := exists_entry h hfinish
    · exact ⟨[e], .one hentry, by simp⟩
    · have hshorter : rest.length < n := by
        rw [List.length_append, List.length_cons] at hn
        omega
      obtain ⟨es, hes, rfl⟩ := ih rest.length hshorter more rfl
      exact ⟨e :: es, .cons hentry hw hbare hes, by simp⟩

theorem run_of_nil {text : String} (h : Lexeme.ofText text = []) : run v text = ⟨[], .ok []⟩ :=
  if_pos (Reader.check_ofText_iff.mpr h)

theorem run_of_ne_nil {text : String} (h : Lexeme.ofText text ≠ []) :
    run v text = (machine v).run text.length (.field []) (Lexeme.ofText text) := by
  rw [← Machine.read_ofText]
  exact if_neg (mt Reader.check_ofText_iff.mp h)

theorem parse_of_ofText_nil {text : String} (h : Token.ofText text = []) :
    parse v text = .ok [] := by
  rw [parse, run_of_nil (List.map_eq_nil_iff.mp h)]

theorem parse_of_ofText_ne_nil {text : String} (h : Token.ofText text ≠ []) :
    parse v text = ((machine v).run text.length (.field []) (Lexeme.ofText text)).result := by
  rw [parse, run_of_ne_nil fun hnil => h (List.map_eq_nil_iff.mpr hnil)]

theorem IsList.tokens_ne_nil (h : IsList v ts es) : ts ≠ [] := by
  cases h with
  | one h => cases h <;> simp
  | cons h => simp

theorem IsList.ne_nil (h : IsList v ts es) : es ≠ [] := by
  cases h <;> simp

/-- What is read from a text is what its tokens derive. -/
theorem parse_eq_ok_iff {text : String} :
    parse v text = .ok es ↔
      Token.ofText text = [] ∧ es = [] ∨ IsList v (Token.ofText text) es := by
  by_cases htext : Token.ofText text = []
  · have hnot : ¬ IsList v [] es := fun h => h.tokens_ne_nil rfl
    rw [parse_of_ofText_nil htext, htext, Except.ok.injEq]
    simp [hnot, eq_comm]
  · rw [parse_of_ofText_ne_nil htext, Machine.result_run_eq_ok_iff]
    apply Iff.intro
    · intro ⟨t, hreads, hfinish⟩
      obtain ⟨es', hes, rfl⟩ := exists_isList hreads hfinish
      exact .inr hes
    · rintro (⟨hnil, -⟩ | h)
      · exact absurd hnil htext
      · obtain ⟨t, hreads, hfinish⟩ := h.reads []
        exact ⟨t, hreads, hfinish⟩

end RowQuery.Order
