import RowQuery.Json.Text

/-! Every text can be quoted in a document, and what is quoted reads back as the text. -/

namespace RowQuery.Json.Text

/-! A character reads back from its escape, whatever stands behind it. -/

private theorem hexDigit?_digitChar : ∀ d < 16, hexDigit? (Nat.digitChar d) = some d := by
  decide

private theorem unit?_control {n : Nat} (h : n < 0x20) :
    unit? '0' '0' (Nat.digitChar (n / 16)) (Nat.digitChar (n % 16)) = some n := by
  have hzero : hexDigit? '0' = some 0 := by decide
  have hhigh := hexDigit?_digitChar (n / 16) (by omega)
  have hlow := hexDigit?_digitChar (n % 16) (by omega)
  simp only [unit?, hzero, hhigh, hlow, Option.bind_eq_bind, Option.bind_some]
  rw [Option.some.injEq]
  omega

private theorem readUnits_short {e c : Char} (he : e ≠ 'u') (h : shortEscape? e = some c)
    (rest : List Char) :
    readUnits ('\\' :: e :: rest) = (readUnits rest).map fun r => (c.toNat :: r.1, r.2) := by
  rw [readUnits, if_neg (by decide), if_pos rfl]
  · rw [h]
    cases readUnits rest <;> rfl
  · exact fun _ _ _ _ _ hu => absurd hu he

private theorem readUnits_unit {h₃ h₂ h₁ h₀ : Char} {unit : Nat} (h : unit? h₃ h₂ h₁ h₀ = some unit)
    (rest : List Char) :
    readUnits ('\\' :: 'u' :: h₃ :: h₂ :: h₁ :: h₀ :: rest) =
      (readUnits rest).map fun r => (unit :: r.1, r.2) := by
  rw [readUnits, if_neg (by decide), if_pos rfl, h]
  cases readUnits rest <;> rfl

private theorem readUnits_plain {c : Char} (hquote : c ≠ '"') (hbackslash : c ≠ '\\')
    (hcontrol : ¬ c.toNat < 0x20) (rest : List Char) :
    readUnits (c :: rest) = (readUnits rest).map fun r => (c.toNat :: r.1, r.2) := by
  rw [readUnits.eq_def]
  simp only [if_neg hquote, if_neg hbackslash, if_neg hcontrol]
  cases readUnits rest <;> rfl

theorem readUnits_escapeChar (c : Char) (rest : List Char) :
    readUnits (escapeChar c ++ rest) = (readUnits rest).map fun r => (c.toNat :: r.1, r.2) := by
  -- the two characters that a text cannot hold plainly go first: the last case needs them excluded
  by_cases hquote : c = '"'
  · subst hquote
    exact readUnits_short (by decide) (by decide) rest
  by_cases hbackslash : c = '\\'
  · subst hbackslash
    exact readUnits_short (by decide) (by decide) rest
  unfold escapeChar
  rw [if_neg hquote, if_neg hbackslash]
  iterate 5
    split
    · subst c
      exact readUnits_short (by decide) (by decide) rest
  split
  · exact readUnits_unit (unit?_control ‹_›) rest
  · exact readUnits_plain hquote hbackslash ‹_› rest

theorem readUnits_write (cs rest : List Char) :
    readUnits (cs.flatMap escapeChar ++ '"' :: rest) = some (cs.map Char.toNat, rest) := by
  induction cs with
  | nil =>
    rw [List.flatMap_nil, List.nil_append, readUnits.eq_def]
    rfl
  | cons c cs ih =>
    rw [List.flatMap_cons, List.append_assoc, readUnits_escapeChar, ih]
    rfl

/-! A character is no half of a surrogate pair. -/

private theorem not_surrogate (c : Char) :
    isHighSurrogate c.toNat = false ∧ isLowSurrogate c.toNat = false := by
  have hvalid : c.toNat < 0xD800 ∨ 0xDFFF < c.toNat ∧ c.toNat < 0x110000 := c.valid
  simp only [isHighSurrogate, isLowSurrogate, Bool.and_eq_false_iff, decide_eq_false_iff_not]
  omega

theorem join_map_toNat (cs : List Char) : join (cs.map Char.toNat) = some cs := by
  induction cs with
  | nil => rfl
  | cons c cs ih =>
    obtain ⟨hhigh, hlow⟩ := not_surrogate c
    rw [List.map_cons, join.eq_def]
    simp only [hhigh, hlow, ih, Bool.false_eq_true, if_false, Option.map_some, Char.ofNat_toNat]

end RowQuery.Json.Text
