import RowQuery.Proofs.Parse.Reads

/-! Where the run of a machine ends, and why. Up to there it has read whatever came; what it did not
reach has no part in the outcome. -/

namespace RowQuery.Machine

variable {σ α : Type} {m : Machine σ α} {s t : σ} {stop : Nat} {pre ls : List Lexeme}

/-- The ways to end: at the end of the input, in front of a lexeme that is refused, or behind one
that is faulty. -/
inductive Ends (m : Machine σ α) (stop : Nat) (s : σ) : List Lexeme → Run α → Prop
  | finish {ls : List Lexeme} {t : σ} (h : m.Reads s (ls.map Lexeme.token) t) :
      Ends m stop s ls
        ⟨ls.map Lexeme.reading ++ (m.conclude t stop).taken, (m.conclude t stop).result⟩
  | refuse (pre post : List Lexeme) {l : Lexeme} {t : σ}
      (h : m.Reads s (pre.map Lexeme.token) t) (hstep : m.step t l.token = .refuse) :
      Ends m stop s (pre ++ l :: post)
        ⟨pre.map Lexeme.reading, .error (.unexpectedToken l.kind (m.expected t) l.start)⟩
  | fault (pre post : List Lexeme) {l : Lexeme} {t : σ} {f : Fault}
      (h : m.Reads s (pre.map Lexeme.token) t) (hstep : m.step t l.token = .fault f) :
      Ends m stop s (pre ++ l :: post)
        ⟨(pre ++ [l]).map Lexeme.reading, .error (f.toError l.start)⟩

private theorem Ends.cons {l : Lexeme} {r : Run α} (hstep : m.step s l.token = .take t)
    (h : m.Ends stop t ls r) : m.Ends stop s (l :: ls) ⟨l.reading :: r.taken, r.result⟩ := by
  cases h with
  | finish h =>
    have hall : m.Reads s ((l :: ls).map Lexeme.token) _ := .cons hstep h
    exact .finish hall
  | refuse pre post h hrefuse => exact .refuse (l :: pre) post (.cons hstep h) hrefuse
  | fault pre post h hfault => exact .fault (l :: pre) post (.cons hstep h) hfault

theorem ends_run (m : Machine σ α) (stop : Nat) (s : σ) (ls : List Lexeme) :
    m.Ends stop s ls (m.run stop s ls) := by
  induction ls generalizing s with
  | nil =>
    have hall : m.Reads s (([] : List Lexeme).map Lexeme.token) s := .nil s
    exact .finish hall
  | cons l rest ih =>
    unfold run
    cases hstep : m.step s l.token with
    | take next => exact .cons hstep (ih next)
    | refuse => exact .refuse [] rest (.nil s) hstep
    | fault f => exact .fault [] rest (.nil s) hstep

/-- What has been read is behind the machine: the rest is run from the state it led to. -/
theorem run_append (h : m.Reads s (pre.map Lexeme.token) t) (ls : List Lexeme) :
    m.run stop s (pre ++ ls) =
      ⟨pre.map Lexeme.reading ++ (m.run stop t ls).taken, (m.run stop t ls).result⟩ := by
  induction pre generalizing s with
  | nil =>
    cases h
    rfl
  | cons l pre ih =>
    cases h with
    | cons hstep more =>
      rw [List.cons_append, run, hstep]
      simp only [ih more, List.map_cons, List.cons_append]

theorem Ends.run_eq {r : Run α} (h : m.Ends stop s ls r) : m.run stop s ls = r := by
  cases h with
  | @finish _ t h =>
    have hall : m.run stop s (_ ++ []) = _ := run_append h []
    rwa [List.append_nil] at hall
  | refuse pre post h hstep =>
    rw [run_append h, run, hstep]
    simp only [List.append_nil]
  | fault pre post h hstep =>
    rw [run_append h, run, hstep]
    simp only [List.map_append, List.map_singleton]

theorem exists_reads_of_taken {before after : List Reading} {tok : Token} {position : Nat}
    (h : (m.run stop s ls).taken = before ++ ⟨some tok, position⟩ :: after) :
    ∃ pre l post t, ls = pre ++ l :: post ∧ before = pre.map Lexeme.reading ∧
      l.reading = ⟨some tok, position⟩ ∧ m.Reads s (pre.map Lexeme.token) t ∧
      m.step t tok ≠ .refuse := by
  induction ls generalizing s before with
  | nil =>
    have hmem : ⟨some tok, position⟩ ∈ (m.conclude s stop).taken := by
      rw [run] at h
      simp [h]
    unfold conclude at hmem
    cases hfinish : m.finish s <;> cases hend : m.takesEnd <;> simp [hfinish, hend] at hmem
  | cons l rest ih =>
    rw [run] at h
    cases before with
    | nil =>
      have hl : l.reading = ⟨some tok, position⟩ ∧ m.step s l.token ≠ .refuse := by
        cases hstep : m.step s l.token <;> simp_all
      obtain ⟨hl, hstep⟩ := hl
      have htok : l.token = tok := Option.some.inj (congrArg Reading.token? hl)
      exact ⟨[], l, rest, s, rfl, rfl, hl, .nil s, htok ▸ hstep⟩
    | cons first before =>
      cases hstep : m.step s l.token with
      | take next =>
        simp only [hstep, List.cons_append, List.cons.injEq] at h
        obtain ⟨rfl, h⟩ := h
        obtain ⟨pre, l', post, t, rfl, rfl, hl, hreads, htok⟩ := ih h
        exact ⟨l :: pre, l', post, t, rfl, rfl, hl, .cons hstep hreads, htok⟩
      | refuse => simp [hstep] at h
      | fault f => simp [hstep] at h

/-- What the machine has to say against a token, or the end of the input, at this position. -/
def objection (m : Machine σ α) (s : σ) (next : Option Token) (position : Nat) :
    Option ParseError :=
  match next with
  | some tok =>
    match m.step s tok with
    | .take _ => none
    | .refuse => some (.unexpectedToken tok.kind (m.expected s) position)
    | .fault f => some (f.toError position)
  | none =>
    match m.finish s with
    | some _ => none
    | none => some (.unexpectedToken .endOfInput (m.expected s) position)

theorem result_conclude_eq_error_iff {e : ParseError} :
    (m.conclude s stop).result = .error e ↔ m.objection s none stop = some e := by
  unfold conclude objection
  cases m.finish s <;> simp

theorem exists_halt_of_error {e : ParseError} (h : (m.run stop s ls).result = .error e) :
    ∃ pre t, m.Reads s (pre.map Lexeme.token) t ∧
      (ls = pre ∧ m.objection t none stop = some e ∨
        ∃ l post, ls = pre ++ l :: post ∧ m.objection t (some l.token) l.start = some e) := by
  have hends := m.ends_run stop s ls
  generalize m.run stop s ls = r at h hends
  cases hends with
  | finish hreads => exact ⟨_, _, hreads, .inl ⟨rfl, result_conclude_eq_error_iff.mp h⟩⟩
  | refuse pre post hreads hstep =>
    cases h
    exact ⟨pre, _, hreads, .inr ⟨_, post, rfl, by rw [objection, hstep]; rfl⟩⟩
  | fault pre post hreads hstep =>
    cases h
    exact ⟨pre, _, hreads, .inr ⟨_, post, rfl, by rw [objection, hstep]⟩⟩

theorem result_run_of_objection {l : Lexeme} {e : ParseError}
    (h : m.Reads s (pre.map Lexeme.token) t)
    (hobjection : m.objection t (some l.token) l.start = some e) (post : List Lexeme) :
    (m.run stop s (pre ++ l :: post)).result = .error e := by
  rw [run_append h, run]
  unfold objection at hobjection
  cases hstep : m.step t l.token with
  | take next => simp [hstep] at hobjection
  | refuse =>
    simp only [hstep, Option.some.injEq] at hobjection
    exact congrArg Except.error hobjection
  | fault f =>
    simp only [hstep, Option.some.injEq] at hobjection
    exact congrArg Except.error hobjection

end RowQuery.Machine
