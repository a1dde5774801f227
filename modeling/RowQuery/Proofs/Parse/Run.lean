import RowQuery.Parse.Machine
import RowQuery.Proofs.Token.Reading

/-! The run of a machine over lexemes that are all at hand. What a reader brings into view one by one
are the lexemes of its text, so that it comes to the same. -/

namespace RowQuery

namespace Reader

theorem check_ofText_iff {text : String} :
    (ofText text).check .endOfInput = true ↔ Lexeme.ofText text = [] := by
  rw [ofText, Lexeme.ofText]
  cases h : (Cursor.ofText text).next with
  | mk first behind =>
    cases first with
    | none => simp [ofCursor_of_next_none h, Cursor.lexemes_of_next_none h, check, kind,
        Token.kindOf]
    | some l =>
      have hkind : l.token.kind ≠ .endOfInput := by cases l.token <;> simp [Token.kind]
      simp [ofCursor_of_next_some h, Cursor.lexemes_of_next_some h, check, kind, Token.kindOf,
        hkind]

end Reader

namespace Machine

variable {σ α : Type}

theorem read_of_mem {m : Machine σ α} {s : σ} {r : Reader} (h : r.kind ∈ m.expected s) :
    m.read s r =
      match r.current with
      | none => m.conclude s r.position
      | some t =>
        match m.step s t with
        | .take next =>
          let rest := m.read next (.ofCursor r.cursor)
          ⟨⟨some t, r.position⟩ :: rest.taken, rest.result⟩
        | .refuse => ⟨[], .error (r.unexpected (m.expected s))⟩
        | .fault f => ⟨[⟨some t, r.position⟩], .error (f.toError r.position)⟩ := by
  have hexpect := Reader.expect_of_mem h
  obtain ⟨cursor, current, position⟩ := r
  rw [read]
  split
  all_goals
    rename_i heq
    cases hexpect.symm.trans heq
  · rfl
  · rfl

theorem read_of_notMem {m : Machine σ α} {s : σ} {r : Reader} (h : r.kind ∉ m.expected s) :
    m.read s r = ⟨[], .error (r.unexpected (m.expected s))⟩ := by
  have hexpect := Reader.expect_of_notMem h
  rw [read]
  split
  all_goals
    rename_i heq
    cases hexpect.symm.trans heq
  rfl

/-- At the end of the input only `finish` counts. -/
theorem read_eq_conclude (m : Machine σ α) (s : σ) {r : Reader} (h : r.current = none) :
    m.read s r = m.conclude s r.position := by
  obtain ⟨cursor, current, position⟩ := r
  cases h
  by_cases hmem : .endOfInput ∈ m.expected s
  · exact read_of_mem hmem
  · rw [read_of_notMem hmem, conclude, (m.finish_eq_none_iff s).mpr hmem]
    rfl

/-- In front of a token only `step` counts, which refuses what is not expected. -/
theorem read_eq_step (m : Machine σ α) (s : σ) {r : Reader} {t : Token} (h : r.current = some t) :
    m.read s r =
      match m.step s t with
      | .take next =>
        let rest := m.read next (.ofCursor r.cursor)
        ⟨⟨some t, r.position⟩ :: rest.taken, rest.result⟩
      | .refuse => ⟨[], .error (r.unexpected (m.expected s))⟩
      | .fault f => ⟨[⟨some t, r.position⟩], .error (f.toError r.position)⟩ := by
  obtain ⟨cursor, current, position⟩ := r
  cases h
  by_cases hmem : t.kind ∈ m.expected s
  · exact read_of_mem hmem
  · rw [read_of_notMem hmem, (m.step_eq_refuse_iff s t).mpr hmem]

/-- The lexemes are what is left of the text, and `stop` is where it ends. -/
def run (m : Machine σ α) (stop : Nat) : σ → List Lexeme → Run α
  | s, [] => m.conclude s stop
  | s, l :: rest =>
    match m.step s l.token with
    | .take next =>
      let r := m.run stop next rest
      ⟨l.reading :: r.taken, r.result⟩
    | .refuse => ⟨[], .error (.unexpectedToken l.kind (m.expected s) l.start)⟩
    | .fault f => ⟨[l.reading], .error (f.toError l.start)⟩

theorem read_ofCursor (m : Machine σ α) (s : σ) (c : Cursor) :
    m.read s (.ofCursor c) = m.run c.stop s c.lexemes := by
  fun_induction Cursor.lexemes c generalizing s with
  | case1 c d h =>
    rw [Reader.ofCursor_of_next_none h, m.read_eq_conclude s rfl, run]
    dsimp only
    rw [Cursor.position_of_next_none h]
  | case2 c l d h ih =>
    rw [Reader.ofCursor_of_next_some h, m.read_eq_step s rfl, run]
    dsimp only
    cases m.step s l.token with
    | take next =>
      dsimp only
      rw [ih next, Cursor.stop_of_next h, Lexeme.reading]
    | refuse => rfl
    | fault f => rfl

theorem read_ofText (m : Machine σ α) (s : σ) (text : String) :
    m.read s (.ofText text) = m.run text.length s (Lexeme.ofText text) := by
  rw [Reader.ofText, read_ofCursor, Cursor.stop_ofText, Lexeme.ofText]

end Machine

end RowQuery
