import RowQuery.Proofs.Parse.Run

/-! What a machine takes in without complaint. It takes no notice of positions, so that all this is a
matter of tokens alone. -/

namespace RowQuery.Machine

variable {σ α : Type} {m : Machine σ α} {move : σ → Token → σ → Prop} {s t u : σ}
  {tok : Token} {ts us : List Token}

/-- The machine takes every one of these tokens, from `s` to the last state. -/
inductive Reads (m : Machine σ α) : σ → List Token → σ → Prop
  | nil (s : σ) : Reads m s [] s
  | cons {s t u : σ} {tok : Token} {ts : List Token} (h : m.step s tok = .take t)
      (more : Reads m t ts u) : Reads m s (tok :: ts) u

def MovesBy (m : Machine σ α) (move : σ → Token → σ → Prop) : Prop :=
  ∀ s t tok, m.step s tok = .take t ↔ move s tok t

theorem kind_mem_of_step (h : m.step s tok ≠ .refuse) : tok.kind ∈ m.expected s := by
  apply Decidable.byContradiction
  intro hnot
  exact h ((m.step_eq_refuse_iff s tok).mpr hnot)

theorem Reads.trans (h : m.Reads s ts t) (h' : m.Reads t us u) : m.Reads s (ts ++ us) u := by
  induction h with
  | nil => exact h'
  | cons hstep _ ih => exact .cons hstep (ih h')

theorem Reads.split (h : m.Reads s (ts ++ us) u) : ∃ t, m.Reads s ts t ∧ m.Reads t us u := by
  induction ts generalizing s with
  | nil => exact ⟨s, .nil s, h⟩
  | cons tok ts ih =>
    cases h with
    | cons hstep more =>
      obtain ⟨t, hts, hus⟩ := ih more
      exact ⟨t, .cons hstep hts, hus⟩

theorem Reads.unique (h : m.Reads s ts t) (h' : m.Reads s ts u) : t = u := by
  induction h with
  | nil =>
    cases h'
    rfl
  | cons hstep _ ih =>
    cases h' with
    | cons hstep' more =>
      cases hstep.symm.trans hstep'
      exact ih more

theorem MovesBy.reads (hm : m.MovesBy move) (h : move s tok t) : m.Reads s [tok] t :=
  .cons ((hm s t tok).mpr h) (.nil t)

theorem MovesBy.exists_move (hm : m.MovesBy move) (h : m.Reads s (tok :: ts) u) :
    ∃ t, move s tok t ∧ m.Reads t ts u := by
  cases h with
  | cons hstep more => exact ⟨_, (hm _ _ _).mp hstep, more⟩

theorem result_conclude_eq_ok_iff {stop : Nat} {a : α} :
    (m.conclude s stop).result = .ok a ↔ m.finish s = some a := by
  unfold conclude
  cases m.finish s <;> simp

theorem result_run_eq_ok_iff {stop : Nat} {ls : List Lexeme} {a : α} :
    (m.run stop s ls).result = .ok a ↔
      ∃ t, m.Reads s (ls.map Lexeme.token) t ∧ m.finish t = some a := by
  induction ls generalizing s with
  | nil =>
    rw [run, result_conclude_eq_ok_iff]
    apply Iff.intro
    · intro h
      exact ⟨s, .nil s, h⟩
    · rintro ⟨t, hreads, h⟩
      cases hreads
      exact h
  | cons l rest ih =>
    unfold run
    apply Iff.intro
    · intro h
      cases hstep : m.step s l.token with
      | take next =>
        simp only [hstep] at h
        obtain ⟨t, hreads, hfinish⟩ := ih.1 h
        exact ⟨t, .cons hstep hreads, hfinish⟩
      | refuse => simp [hstep] at h
      | fault f => simp [hstep] at h
    · rintro ⟨t, hreads, hfinish⟩
      cases hreads with
      | cons hstep more =>
        simp only [hstep]
        exact ih.2 ⟨t, more, hfinish⟩

end RowQuery.Machine
