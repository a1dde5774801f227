import RowQuery.Proofs.Filter.RoundTrip
import RowQuery.Proofs.Token.Append

/-! Filters are put together from their texts as trees are from their parts: a filter in parentheses
stands for itself, and behind a connective a filter is joined to the one in front. -/

namespace RowQuery.Filter

variable {v : Vocabulary} {nullMarker : Bool} {t u k : String} {connective : Connective}
  {b c : Clause}

theorem ofText_grouped (hu : isTerminated u = true) :
    Token.ofText ("(" ++ u ++ ")") = .openGroup :: Token.ofText u ++ [.closeGroup] := by
  have htext : ("(" ++ u ++ ")").toList = '(' :: (u.toList ++ [')']) := by simp
  rw [Token.ofText_eq_ofChars, htext, Token.ofChars_openGroup,
    Token.ofChars_append hu (breaks_cons.2 (.inr rfl)), Token.ofChars_closeGroup, Token.ofChars_nil]
  rfl

theorem ofText_joined (ht : isTerminated t = true) (hk : isSingleWord k = true) (u : String) :
    Token.ofText (t ++ " " ++ k ++ " " ++ u) = Token.ofText t ++ .word k :: Token.ofText u := by
  have htext : (t ++ " " ++ k ++ " " ++ u).toList =
      t.toList ++ ' ' :: (k.toList ++ ' ' :: u.toList) := by simp
  have hspace : Breaks (' ' :: (k.toList ++ ' ' :: u.toList)) := breaks_cons.2 (.inl (by decide))
  rw [Token.ofText_eq_ofChars, htext, Token.ofChars_append ht hspace, Token.ofChars_space,
    Token.ofChars_word_space hk, ← Token.ofText_eq_ofChars]

theorem parse_unlimited_iff :
    parse v ⟨nullMarker, none⟩ t = .ok (some c) ↔ IsBody v nullMarker (Token.ofText t) c := by
  rw [parse_eq_ok_some_iff]
  exact and_iff_left nofun

theorem isClause_grouped (hu : isTerminated u = true)
    (hc : parse v ⟨nullMarker, none⟩ u = .ok (some c)) :
    IsClause v nullMarker (Token.ofText ("(" ++ u ++ ")")) c := by
  rw [ofText_grouped hu]
  exact .group (parse_unlimited_iff.mp hc)

theorem isClause_printed {d : Condition} (hnull : d.value = .null → nullMarker = true)
    (h : print v (.leaf d) = .ok t) : IsClause v nullMarker (Token.ofText t) (.leaf d) := by
  refine (ofText_written h).isClause ?_
  by_cases hvalue : d.value = .null
  · exact .inl (hnull hvalue)
  · exact .inr hvalue

theorem parse_joined (ht : isTerminated t = true)
    (hb : parse v ⟨nullMarker, none⟩ t = .ok (some b)) (hk : isSingleWord k = true)
    (hconnective : v.connective? k = some connective)
    (hc : IsClause v nullMarker (Token.ofText u) c) :
    parse v ⟨nullMarker, none⟩ (t ++ " " ++ k ++ " " ++ u) =
      .ok (some (.combined b connective c)) := by
  rw [parse_unlimited_iff, ofText_joined ht hk]
  exact (parse_unlimited_iff.mp hb).snoc hconnective hc

/-- A filter in parentheses is read as itself. Behind a filter and a connective, a filter in
parentheses or a condition as it is written is read as the right part of a joint. All that is asked
of the texts is that no literal at their end is cut off. -/
theorem parse_composed (v : Vocabulary) (nullMarker : Bool) :
    (∀ u c, isTerminated u = true → parse v ⟨nullMarker, none⟩ u = .ok (some c) →
      parse v ⟨nullMarker, none⟩ ("(" ++ u ++ ")") = .ok (some c)) ∧
    ∀ t b k connective, isTerminated t = true → parse v ⟨nullMarker, none⟩ t = .ok (some b) →
      isSingleWord k = true → v.connective? k = some connective →
      (∀ u c, isTerminated u = true → parse v ⟨nullMarker, none⟩ u = .ok (some c) →
        parse v ⟨nullMarker, none⟩ (t ++ " " ++ k ++ " (" ++ u ++ ")") =
          .ok (some (.combined b connective c))) ∧
      ∀ field operator value p, (value = .null → nullMarker = true) →
        print v (.condition field operator value) = .ok p →
        parse v ⟨nullMarker, none⟩ (t ++ " " ++ k ++ " " ++ p) =
          .ok (some (match connective with
            | .and => b.and field operator value
            | .or => b.or field operator value)) := by
  refine ⟨fun u c hu hc => ?_, fun t b k connective ht hb hk hconnective => ⟨?_, ?_⟩⟩
  · exact parse_unlimited_iff.mpr (isClause_grouped hu hc).isBody
  · intro u c hu hc
    have htext : t ++ " " ++ k ++ " (" ++ u ++ ")" = t ++ " " ++ k ++ " " ++ ("(" ++ u ++ ")") := by
      rw [← String.toList_inj]
      simp
    rw [htext]
    exact parse_joined ht hb hk hconnective (isClause_grouped hu hc)
  · intro field operator value p hnull hp
    have hjoined := parse_joined ht hb hk hconnective (isClause_printed hnull hp)
    cases connective <;> exact hjoined

/-- The texts end in an escaped backslash and in a symbol, which the seams leave as they are. -/
theorem parse_composed_at_escape :
    let t := "a eq \"x\\\\\""
    let u := "b = null or c > +"
    let b : Clause := .condition "a" .isEqualTo (.text "x\\")
    let c : Clause := .combined (.condition "b" .isEqualTo .null) .or
      (.condition "c" .isGreaterThan (.text "+"))
    parse .preset ⟨true, none⟩ ("(" ++ u ++ ")") = .ok (some c) ∧
      parse .preset ⟨true, none⟩ (t ++ " " ++ "&&" ++ " (" ++ u ++ ")") =
        .ok (some (.combined b .and c)) ∧
      parse .preset ⟨true, none⟩ (t ++ " " ++ "&&" ++ " " ++ "d contains null") =
        .ok (some (b.and "d" .contains .null)) := by
  intro t u b c
  have ht : isTerminated t = true := by decide +kernel
  have hu : isTerminated u = true := by decide +kernel
  have hb : parse .preset ⟨true, none⟩ t = .ok (some b) := by decide +kernel
  have hc : parse .preset ⟨true, none⟩ u = .ok (some c) := by decide +kernel
  have hk : isSingleWord "&&" = true := by decide +kernel
  have hand : Vocabulary.preset.connective? "&&" = some .and := by decide +kernel
  have hp : print .preset (.condition "d" .contains .null) = .ok "d contains null" := by
    decide +kernel
  obtain ⟨hgroup, hjoined⟩ := parse_composed .preset true
  obtain ⟨hjoint, hcondition⟩ := hjoined t b "&&" .and ht hb hk hand
  exact ⟨hgroup u c hu hc, hjoint u c hu hc, hcondition "d" .contains .null _ (fun _ => rfl) hp⟩

end RowQuery.Filter
