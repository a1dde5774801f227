import RowQuery.Command.Execute
import RowQuery.Proofs.Filter.Canonical

/-! Formatting never fails on a filter that can be read, and what it prints stands for the filter in
every command. -/

namespace RowQuery.Request

def withInput (r : Request) (command : Command) (text : String) : Request :=
  { r with command := command, text := text }

variable {files : Files} {r : Request} {command : Command} {text : String} {v : Vocabulary}

theorem execute_of_vocabulary_error {e : VocabularyError}
    (h : Vocabulary.loadOrPreset files r.vocabulary = .error e) :
    execute files (r.withInput command text) = .error (.vocabulary e) := by
  unfold execute executeLogged withInput
  dsimp only
  rw [h]

theorem execute_of_vocabulary (h : Vocabulary.loadOrPreset files r.vocabulary = .ok v)
    (hcommand : command ≠ .order) :
    execute files (r.withInput command text) =
      (Filter.parse v r.options text).mapError .parse >>=
        (r.withInput command "").showFilter v := by
  unfold execute executeLogged withInput
  dsimp only
  rw [h]
  cases command with
  | order => exact absurd rfl hcommand
  | _ => rfl

theorem exists_showFilter (command : Command) {c : Option Clause}
    (hparse : Filter.parse v r.options text = .ok c) :
    ∃ out, (r.withInput command "").showFilter v c = .ok out := by
  cases command with
  | format =>
    cases c with
    | none => exact ⟨"", rfl⟩
    | some c =>
      obtain ⟨g, hg, _⟩ := Filter.exists_print_of_parse hparse
      refine ⟨g, ?_⟩
      unfold showFilter withInput
      dsimp only
      rw [hg]
      rfl
  | _ => exact ⟨_, rfl⟩

/-- Whether a command on filters succeeds is settled before the command is looked at. -/
theorem execute_eq_error_iff (hcommand : command ≠ .order) (e : CommandError) :
    execute files (r.withInput command text) = .error e ↔
      (∃ fault, Vocabulary.loadOrPreset files r.vocabulary = .error fault ∧
        e = .vocabulary fault) ∨
      ∃ v refusal, Vocabulary.loadOrPreset files r.vocabulary = .ok v ∧
        Filter.parse v r.options text = .error refusal ∧ e = .parse refusal := by
  cases hload : Vocabulary.loadOrPreset files r.vocabulary with
  | error fault => simp [execute_of_vocabulary_error hload, eq_comm]
  | ok v =>
    rw [execute_of_vocabulary hload hcommand]
    cases hparse : Filter.parse v r.options text with
    | error refusal =>
      change Except.error (CommandError.parse refusal) = .error e ↔ _
      simp [hparse, eq_comm]
    | ok c =>
      obtain ⟨out, hout⟩ := exists_showFilter command hparse
      change (r.withInput command "").showFilter v c = .error e ↔ _
      simp [hparse, hout]

private theorem exists_ok_iff {ε α : Type} {x : Except ε α} :
    (∃ a, x = .ok a) ↔ ∀ e, x ≠ .error e := by
  cases x <;> simp

/-- The text that formatting prints is read as the text that was formatted. -/
theorem parse_of_execute_format {g : String}
    (h : Vocabulary.loadOrPreset files r.vocabulary = .ok v)
    (hformat : execute files (r.withInput .format text) = .ok g) :
    Filter.parse v r.options g = Filter.parse v r.options text := by
  rw [execute_of_vocabulary h (by decide)] at hformat
  cases hparse : Filter.parse v r.options text with
  | error refusal =>
    rw [hparse] at hformat
    cases hformat
  | ok c =>
    rw [hparse] at hformat
    cases c with
    | none =>
      cases hformat
      exact Filter.parse_of_ofText_nil Token.ofChars_nil
    | some c =>
      obtain ⟨printed, hprinted, hreads⟩ := Filter.exists_print_of_parse hparse
      change (Filter.print v c).mapError CommandError.render = .ok g at hformat
      rw [hprinted] at hformat
      cases hformat
      exact hreads

theorem execute_format_canonical (files : Files) (r : Request) (text : String) :
    (∀ command, command ≠ .order →
      ((∃ out, execute files (r.withInput command text) = .ok out) ↔
        ∃ g, execute files (r.withInput .format text) = .ok g) ∧
      ∀ e, execute files (r.withInput command text) = .error e ↔
        execute files (r.withInput .format text) = .error e) ∧
    (∀ e, execute files (r.withInput .format text) ≠ .error (.render e)) ∧
    ∀ g, execute files (r.withInput .format text) = .ok g → ∀ command, command ≠ .order →
      execute files (r.withInput command g) = execute files (r.withInput command text) := by
  refine ⟨fun command hcommand => ?_, fun e h => ?_, fun g hg command hcommand => ?_⟩
  · have herror : ∀ e, execute files (r.withInput command text) = .error e ↔
        execute files (r.withInput .format text) = .error e := by
      intro e
      rw [execute_eq_error_iff hcommand, execute_eq_error_iff (by decide)]
    refine ⟨?_, herror⟩
    rw [exists_ok_iff, exists_ok_iff]
    exact forall_congr' fun e => not_congr (herror e)
  · rw [execute_eq_error_iff (by decide)] at h
    simp at h
  · cases hload : Vocabulary.loadOrPreset files r.vocabulary with
    | error fault => rw [execute_of_vocabulary_error hload, execute_of_vocabulary_error hload]
    | ok v =>
      rw [execute_of_vocabulary hload hcommand, execute_of_vocabulary hload hcommand,
        parse_of_execute_format hload hg]

theorem execute_format_nested_group :
    let r : Request := ⟨.check, "", none, ⟨true, some 2⟩, true⟩
    let files : Files := fun _ => .error .notFound
    let text := "((a = null)) && B<>\"null\""
    let g := "a eq null and B ne \"null\""
    execute files (r.withInput .format text) = .ok g ∧
      execute files (r.withInput .format g) = .ok g ∧
      execute files (r.withInput .filter g) = execute files (r.withInput .filter text) := by
  intro r files text g
  have hformat : execute files (r.withInput .format text) = .ok g := by decide +kernel
  have hstable := (execute_format_canonical files r text).2.2 g hformat
  exact ⟨hformat, (hstable .format (by decide)).trans hformat, hstable .filter (by decide)⟩

end RowQuery.Request
