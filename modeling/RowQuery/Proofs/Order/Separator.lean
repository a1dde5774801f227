import RowQuery.Order.Print
import RowQuery.Proofs.Token.Word

/-! What a delimiter becomes where it is written. One of nothing but `@` and `_` counts as symbolic,
so that no space is put in front of it, and yet continues a word of letters. -/

namespace RowQuery.Order

/-- Written behind the word `w`, the delimiter `d` stays a word of its own. -/
def Apart (w d : String) : Prop :=
  (∃ c ∈ w.toList, isSymbolChar c = true) ∨ ∃ c ∈ d.toList, c ≠ '@' ∧ c ≠ '_'

theorem not_apart_iff {w d : String} :
    ¬ Apart w d ↔ (∀ c ∈ w.toList, isSymbolChar c = false) ∧ ∀ c ∈ d.toList, c = '@' ∨ c = '_' := by
  simp only [Apart, not_or, not_exists, not_and, Bool.not_eq_true, Decidable.not_not]
  apply and_congr_right
  intro _
  apply forall₂_congr
  intro c _
  exact Decidable.or_iff_not_imp_left.symm

theorem isSymbolic_of_signs {d : String} (h : ∀ c ∈ d.toList, c = '@' ∨ c = '_') :
    isSymbolic d = true := by
  apply List.all_eq_true.2
  intro c hc
  rcases h c hc with rfl | rfl <;> decide +kernel

theorem signs_of_isSymbolic {d : String} (h : isSymbolic d = true)
    (hletters : ∀ c ∈ d.toList, isWordChar c = true) : ∀ c ∈ d.toList, c = '@' ∨ c = '_' := by
  intro c hc
  have hletter := hletters c hc
  have hsymbolic := List.all_eq_true.1 h c hc
  rw [Bool.not_eq_true'] at hsymbolic
  simpa [isWordChar, hsymbolic] using hletter

variable {w d : String}

private theorem exists_getLast? (hw : isSingleWord w = true) :
    ∃ c ∈ w.toList, w.toList.getLast? = some c := by
  have hne := (isSingleWord_iff.mp hw).ne_nil
  exact ⟨_, List.getLast_mem hne, List.getLast?_eq_some_getLast hne⟩

theorem separator_append (front : String) (hw : isSingleWord w = true) :
    separator (front ++ w) d = separator w d := by
  obtain ⟨c, -, hlast⟩ := exists_getLast? hw
  simp only [separator, String.toList_append, List.getLast?_append, hlast, Option.some_or]

theorem separator_of_not_apart (hw : isSingleWord w = true) (h : ¬ Apart w d) :
    separator w d = d ++ " " := by
  obtain ⟨hletters, hsigns⟩ := not_apart_iff.mp h
  obtain ⟨c, hc, hlast⟩ := exists_getLast? hw
  simp [separator, hlast, hletters c hc, isSymbolic_of_signs hsigns]

private theorem letters_of_mem (hw : isSingleWord w = true) {c : Char} (hc : c ∈ w.toList)
    (h : isSymbolChar c = false) : ∀ c ∈ w.toList, isWordChar c = true := by
  apply (isSingleWord_iff.mp hw).letters_or_symbols.resolve_right
  intro hsymbols
  rw [hsymbols c hc] at h
  cases h

/-- Without a space the delimiter is made of symbols and the word before it of letters. -/
theorem separator_of_apart (hw : isSingleWord w = true) (hd : isSingleWord d = true)
    (h : Apart w d) :
    separator w d = " " ++ d ++ " " ∨
      separator w d = d ++ " " ∧ (∀ c ∈ w.toList, isWordChar c = true) ∧
        ∀ c ∈ d.toList, isSymbolChar c = true := by
  obtain ⟨c, hc, hlast⟩ := exists_getLast? hw
  cases hsymbolic : isSymbolic d with
  | false => simp [separator, hsymbolic]
  | true =>
    cases hsymbol : isSymbolChar c with
    | true => simp [separator, hlast, hsymbol]
    | false =>
      have hletters := letters_of_mem hw hc hsymbol
      refine .inr ⟨by simp [separator, hsymbolic, hlast, hsymbol], hletters, ?_⟩
      apply (isSingleWord_iff.mp hd).letters_or_symbols.resolve_left
      intro hd
      refine not_apart_iff.mpr ⟨fun c hc => ?_, signs_of_isSymbolic hsymbolic hd⟩ h
      exact isSymbolChar_eq_false_of_isWordChar (hletters c hc)

theorem ofChars_of_apart (hw : isSingleWord w = true) (hd : isSingleWord d = true)
    (h : Apart w d) (rest : List Char) :
    Token.ofChars (w.toList ++ ((separator w d).toList ++ rest)) =
      .word w :: .word d :: Token.ofChars rest := by
  rcases separator_of_apart hw hd h with hsep | ⟨hsep, hletters, hsymbols⟩
  · have htext : (separator w d).toList ++ rest = ' ' :: (d.toList ++ ' ' :: rest) := by
      simp [hsep]
    rw [htext, Token.ofChars_word_space hw, Token.ofChars_word_space hd]
  · have htext : (separator w d).toList ++ rest = d.toList ++ ' ' :: rest := by simp [hsep]
    have hstops : Stops isWordChar (d.toList ++ ' ' :: rest) := by
      cases hd' : d.toList with
      | nil => exact absurd hd' (isSingleWord_iff.mp hd).ne_nil
      | cons c cs =>
        have hc : isSymbolChar c = true := hsymbols c (by rw [hd']; exact List.mem_cons_self)
        rw [List.cons_append, stops_cons]
        exact (isSymbolChar_iff.mp hc).2.2.2.2.2
    have hmixed : ¬ ∀ c ∈ w.toList, isSymbolChar c = true := by
      intro hw'
      obtain ⟨c, hc, -⟩ := exists_getLast? hw
      have hsymbol := hw' c hc
      rw [isSymbolChar_eq_false_of_isWordChar (hletters c hc)] at hsymbol
      cases hsymbol
    rw [htext, Token.ofChars_word_of_stops (isSingleWord_iff.mp hw) (fun _ => hstops)
      (fun hw' => absurd hw' hmixed), Token.ofChars_word_space hd, String.ofList_toList]

theorem ofChars_of_not_apart (hw : isSingleWord w = true) (h : ¬ Apart w d) (rest : List Char) :
    Token.ofChars (w.toList ++ ((separator w d).toList ++ rest)) =
      .word (w ++ d) :: Token.ofChars rest := by
  obtain ⟨hletters, hsigns⟩ := not_apart_iff.mp h
  obtain ⟨c, hc, -⟩ := exists_getLast? hw
  have hmerged : isSingleWord (w ++ d) = true := by
    rw [isSingleWord_iff, String.toList_append]
    refine (isSingleWord_iff.mp hw).append_letters (letters_of_mem hw hc (hletters c hc)) ?_
    intro c hc
    rcases hsigns c hc with rfl | rfl <;> decide +kernel
  have htext : w.toList ++ ((separator w d).toList ++ rest) = (w ++ d).toList ++ ' ' :: rest := by
    simp [separator_of_not_apart hw h]
  rw [htext, Token.ofChars_word_space hmerged]

end RowQuery.Order
