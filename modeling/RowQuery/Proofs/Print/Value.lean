import RowQuery.Proofs.Filter.RoundTrip
import RowQuery.Proofs.Token.Spacing

/-! Texts that stand for themselves. Whether a text is a word or a bare value is asked of the text
alone, and the answer is a matter of its characters; so it holds as well where the text is written,
with others before and behind it. -/

namespace RowQuery

theorem isNumberChar_eq_isDigit {c : Char} (h : isWordChar c = true) :
    isNumberChar c = c.isDigit := by
  have hpoint : c ≠ '.' := by rintro rfl; exact absurd h (by decide +kernel)
  have hminus : c ≠ '-' := by rintro rfl; exact absurd h (by decide +kernel)
  rw [isNumberChar, beq_false_of_ne hpoint, beq_false_of_ne hminus, Bool.or_false, Bool.or_false]

theorem isWord_iff {w : List Char} : IsWord w ↔ w ≠ [] ∧
    ((∀ c ∈ w, isWordChar c = true) ∧ (∀ c ∈ w.head?, c.isDigit = false) ∨
      ∀ c ∈ w, isSymbolChar c = true) := by
  apply Iff.intro
  · intro h
    refine ⟨h.ne_nil, ?_⟩
    cases h with
    | letters hfirst h =>
      rw [isNumberChar_eq_isDigit (h _ List.mem_cons_self)] at hfirst
      exact .inl ⟨h, by simpa using hfirst⟩
    | symbols h => exact .inr h
  · rintro ⟨hne, h⟩
    obtain ⟨c, cs, rfl⟩ := List.exists_cons_of_ne_nil hne
    rcases h with ⟨h, hdigit⟩ | h
    · have hfirst : isNumberChar c = false := by
        rw [isNumberChar_eq_isDigit (h c List.mem_cons_self)]
        exact hdigit c rfl
      exact .letters hfirst h
    · exact .symbols h

theorem isNumber_map_toLower_iff {n : List Char} : IsNumber (n.map Char.toLower) ↔ IsNumber n := by
  simp [IsNumber]

@[simp] theorem isBareValue_foldCase (s : String) : isBareValue (foldCase s) = isBareValue s := by
  rw [Bool.eq_iff_iff, isBareValue_iff, isBareValue_iff, foldCase, String.toList_map,
    isWord_map_toLower_iff, isNumber_map_toLower_iff]

theorem Cursor.isSingleWord_of_mem_lexemes {c : Cursor} {l : Lexeme} (h : l ∈ c.lexemes)
    {w : String} (hw : l.token = .word w) : isSingleWord w = true := by
  have hmem : Token.word w ∈ Token.ofChars c.rest := by
    rw [← Token.map_token_lexemes, ← hw]
    exact List.mem_map_of_mem h
  exact isSingleWord_iff.mpr (Token.legible_of_mem_ofChars _ hmem)

namespace Filter

theorem textToken_cases (s : String) :
    textToken s ∈ [Token.word s, .number s, .string s] ∧ textToken s ≠ .word "null" := by
  unfold textToken
  split
  · rename_i h
    have hne : s ≠ "null" := by simpa using (Bool.and_eq_true_iff.mp h).2
    split <;> simp [hne]
  · simp

/-- The written value is read as one token, and what follows it as if it stood alone. -/
theorem ofText_printText_append (s : String) {r : String} (hr : Breaks r.toList) :
    Lexeme.ofText (printText s ++ r) =
      ⟨textToken s, 0, (printText s).length, true⟩ ::
        (Lexeme.ofText r).map (.moveBy (printText s).length) := by
  have hspans := Cursor.lexemes_of_spans (spans_printText s hr) 0
  rw [Nat.zero_add, String.length_toList, ← Cursor.moveBy_ofText, Cursor.lexemes_moveBy] at hspans
  rwa [Lexeme.ofText, Cursor.ofText, String.toList_append]

end Filter

theorem isSingleWord_iff_chars (s : String) : isSingleWord s = true ↔ s ≠ "" ∧
    ((∀ c ∈ s.toList, isWordChar c = true) ∧ (∀ c ∈ s.toList.head?, c.isDigit = false) ∨
      ∀ c ∈ s.toList, isSymbolChar c = true) := by
  rw [isSingleWord_iff, isWord_iff, ne_eq, String.toList_eq_nil_iff]

theorem isBareValue_iff_chars (s : String) : isBareValue s = true ↔
    isSingleWord s = true ∨ s ≠ "" ∧ ∀ c ∈ s.toList, isNumberChar c = true := by
  rw [isBareValue_iff, isSingleWord_iff, IsNumber, ne_eq, String.toList_eq_nil_iff]

/-- A single word is a run of word characters that begins with no digit, or a run of symbols, and a
bare value is that or a run of number characters. Neither depends on case, and every word in any
text is a single word. A written value is read as one token with its text, which is never the bare
word `null`, whatever blank or closing parenthesis follows. -/
theorem words_and_values :
    (∀ s, isSingleWord s = true ↔ s ≠ "" ∧
      ((∀ c ∈ s.toList, isWordChar c = true) ∧ (∀ c ∈ s.toList.head?, c.isDigit = false) ∨
        ∀ c ∈ s.toList, isSymbolChar c = true)) ∧
    (∀ s, isBareValue s = true ↔
      isSingleWord s = true ∨ s ≠ "" ∧ ∀ c ∈ s.toList, isNumberChar c = true) ∧
    (∀ s, isSingleWord (foldCase s) = isSingleWord s ∧ isBareValue (foldCase s) = isBareValue s) ∧
    (∀ c : Cursor, ∀ l ∈ c.lexemes, ∀ w, l.token = .word w → isSingleWord w = true) ∧
    ∀ s r, Breaks r.toList → ∃ t ∈ [Token.word s, .number s, .string s], t ≠ .word "null" ∧
      Lexeme.ofText (Filter.printText s ++ r) =
        ⟨t, 0, (Filter.printText s).length, true⟩ ::
          (Lexeme.ofText r).map (.moveBy (Filter.printText s).length) := by
  refine ⟨isSingleWord_iff_chars, isBareValue_iff_chars, ?folding, ?anywhere, ?written⟩
  case folding =>
    intro s
    exact ⟨isSingleWord_foldCase s, isBareValue_foldCase s⟩
  case anywhere =>
    intro c l hl w hw
    exact c.isSingleWord_of_mem_lexemes hl hw
  case written =>
    intro s r hr
    obtain ⟨hmem, hne⟩ := Filter.textToken_cases s
    exact ⟨_, hmem, hne, Filter.ofText_printText_append s hr⟩

/-- A digit may stand anywhere in a word but in front. The value `null` is quoted, and a quote is
escaped. -/
theorem words_and_values_of_null_and_quote :
    let rest := ")\t1a"
    isSingleWord "ä1" = true ∧ isSingleWord "1ä" = false ∧ isSingleWord "a," = false ∧
      Filter.printText "null" = "\"null\"" ∧
      (∃ t ∈ [Token.word "null", .number "null", .string "null"], t ≠ .word "null" ∧
        Lexeme.ofText ("\"null\"" ++ rest) = [⟨t, 0, 6, true⟩, ⟨.closeGroup, 6, 7, true⟩,
          ⟨.number "1", 8, 9, true⟩, ⟨.word "a", 9, 10, true⟩]) ∧
      Filter.printText "\\\"" = "\"\\\\\\\"\"" := by
  intro rest
  obtain ⟨words, -, -, -, written⟩ := words_and_values
  have hchars : rest.toList = [')', '\t', '1', 'a'] := by decide +kernel
  have hrest : Breaks rest.toList := by rw [hchars]; exact breaks_cons.2 (.inr rfl)
  have hquoted : Filter.printText "null" = "\"null\"" := by decide +kernel
  have hlexemes : (Lexeme.ofText rest).map (Lexeme.moveBy "\"null\"".length) =
      [⟨.closeGroup, 6, 7, true⟩, ⟨.number "1", 8, 9, true⟩, ⟨.word "a", 9, 10, true⟩] := by
    decide +kernel
  have hnull := written "null" rest hrest
  rw [hquoted, hlexemes] at hnull
  refine ⟨?_, by decide +kernel, by decide +kernel, hquoted, hnull, by decide +kernel⟩
  have hword : "ä1".toList = ['ä', '1'] := by decide +kernel
  rw [words, hword]
  exact ⟨by decide, .inl ⟨List.all_eq_true.1 (by decide +kernel), by simp⟩⟩

end RowQuery
