import RowQuery.Proofs.Vocabulary.Reverse

/-! Which keyword stands for a meaning. It is the first of the words that are kept for the meaning
and that a text can hold: spelled-out words come before symbols, or symbols before spelled-out words
if a delimiter is wanted, and then the lesser word comes before the greater. -/

namespace RowQuery

def HasAlphanumeric (w : String) : Prop :=
  ∃ c ∈ w.toList, Unicode.isAlphanumeric c = true

theorem isSymbolic_eq_false_iff {w : String} : isSymbolic w = false ↔ HasAlphanumeric w := by
  simp [isSymbolic, HasAlphanumeric]

/-- The leading words come first, and apart from that the lesser word before the greater. -/
def Before (leading : String → Prop) (a b : String) : Prop :=
  leading a ∧ ¬ leading b ∨ (leading a ↔ leading b) ∧ a < b

theorem Before.leading {leading : String → Prop} {a b : String} (h : Before leading a b)
    (hb : leading b) : leading a ∧ a < b := by
  rcases h with ⟨-, hnot⟩ | ⟨hiff, hlt⟩
  · exact absurd hb hnot
  · exact ⟨hiff.2 hb, hlt⟩

theorem Before.lt_of_not_leading {leading : String → Prop} {a b : String} (h : Before leading a b)
    (ha : ¬ leading a) : a < b := by
  rcases h with ⟨hleading, -⟩ | ⟨-, hlt⟩
  · exact absurd hleading ha
  · exact hlt

/-- What is chosen for a meaning, where `means` holds of the words that have the meaning and `kept`
of those it is stored under. -/
structure Canonical (means kept leading : String → Prop) (choice? : Option String) : Prop where
  reads : ∀ k, choice? = some k → Token.ofText k = [.word k] ∧ means k
  first : ∀ k, choice? = some k →
    kept k ∧ ∀ w, kept w → Token.ofText w = [.word w] → ¬ Before leading w k
  eq_none_iff : choice? = none ↔ ∀ w, Token.ofText w = [.word w] → ¬ means w

namespace Keywords

theorem not_before_of_ascending {ws : List String} (h : ws.Pairwise (· < ·))
    {preferred : String → Bool} {k : String}
    (hk : (ws.find? preferred).or ws.head? = some k) :
    ∀ w ∈ ws, ¬ Before (fun w => preferred w = true) w k := by
  intro w hw hbefore
  rcases Option.or_eq_some_iff.mp hk with hfound | ⟨hnone, hhead⟩
  · obtain ⟨hpreferred, front, back, rfl, hfront⟩ := List.find?_eq_some_iff_append.mp hfound
    obtain ⟨hleading, hlt⟩ := hbefore.leading hpreferred
    rcases List.mem_append.1 hw with hw | hw
    · have hnot := hfront w hw
      rw [hleading] at hnot
      cases hnot
    · exact not_lt_of_ascending (List.pairwise_append.1 h).2.1 w hw hlt
  · obtain ⟨rest, rfl⟩ := List.head?_eq_some_iff.mp hhead
    exact not_lt_of_ascending h w hw (hbefore.lt_of_not_leading (List.find?_eq_none.mp hnone w hw))

variable {α : Type} [BEq α] [LawfulBEq α] {keywords : Keywords α} {preferred : String → Bool}
  {leading : String → Prop}

/-- Words are kept in one spelling and looked up in any, which makes them no less single words. -/
theorem Spelled.canonical_choose? {caseSensitive : Bool} (hs : keywords.Spelled caseSensitive)
    (hleading : ∀ w, preferred w = true ↔ leading w) (meaning : α) :
    Canonical (fun w => keywords.get? (spell caseSensitive w) = some meaning)
      (fun w => (w, meaning) ∈ keywords.entries) leading
      (keywords.choose? preferred meaning) where
  reads := by
    intro k hk
    obtain ⟨hmeans, hword⟩ := hs.get?_of_choose? hk
    exact ⟨isSingleWord_iff_ofText.mp hword, hmeans⟩
  first := by
    intro k hk
    refine ⟨(get?_eq_some_iff ..).1 (Keywords.get?_of_choose? hk).1, fun w hw hword hbefore => ?_⟩
    have hcandidate : w ∈ keywords.candidates meaning :=
      mem_candidates_iff.2 ⟨(get?_eq_some_iff ..).2 hw, isSingleWord_iff_ofText.mpr hword⟩
    rw [← funext fun w => propext (hleading w)] at hbefore
    exact not_before_of_ascending ascending_candidates hk w hcandidate hbefore
  eq_none_iff := by
    apply Iff.intro
    · intro hnone w hword hmeans
      obtain ⟨k, hk⟩ := exists_choose? hmeans (isSingleWord_iff_ofText.mpr hword)
      rw [hnone] at hk
      cases hk
    · intro hnot
      rw [Option.eq_none_iff_forall_ne_some]
      intro k hk
      obtain ⟨hmeans, hword⟩ := hs.get?_of_choose? hk
      exact hnot k (isSingleWord_iff_ofText.mp hword) hmeans

end Keywords

namespace Vocabulary

theorem isDelimiter_iff {v : Vocabulary} {w : String} :
    v.isDelimiter w = true ↔ v.delimiters.get? (spell v.caseSensitive w) = some () := by
  rw [isDelimiter, Keywords.contains, Option.isSome_iff_exists]
  apply Iff.intro
  · rintro ⟨_, h⟩
    exact h
  · intro h
    exact ⟨(), h⟩

theorem mem_delimiters_iff {v : Vocabulary} {w : String} :
    w ∈ v.delimiters.words ↔ (w, ()) ∈ v.delimiters.entries := by
  rw [Keywords.words, List.mem_map]
  apply Iff.intro
  · rintro ⟨_, h, rfl⟩
    exact h
  · intro h
    exact ⟨(w, ()), h, rfl⟩

theorem canonical_delimiterKeyword? (v : Vocabulary) :
    Canonical (fun w => v.isDelimiter w = true) (fun w => w ∈ v.delimiters.words)
      (fun w => ¬ HasAlphanumeric w) v.delimiterKeyword? := by
  have hleading : ∀ w, isSymbolic w = true ↔ ¬ HasAlphanumeric w := by
    intro w
    rw [← isSymbolic_eq_false_iff, Bool.not_eq_false]
  simp only [isDelimiter_iff, mem_delimiters_iff]
  exact v.delimiters_spelled.canonical_choose? hleading ()

/-- Reverse lookups are sound and complete, and each gives the first of the keywords that would
do. -/
theorem keywords_canonical (v : Vocabulary) :
    (∀ o, Canonical (fun w => v.operator? w = some o) (fun w => (w, o) ∈ v.operators.entries)
      HasAlphanumeric (v.operatorKeyword? o)) ∧
    (∀ k, Canonical (fun w => v.connective? w = some k) (fun w => (w, k) ∈ v.connectives.entries)
      HasAlphanumeric (v.connectiveKeyword? k)) ∧
    (∀ d, Canonical (fun w => v.direction? w = some d) (fun w => (w, d) ∈ v.directions.entries)
      HasAlphanumeric (v.directionKeyword? d)) ∧
    Canonical (fun w => v.isDelimiter w = true) (fun w => w ∈ v.delimiters.words)
      (fun w => ¬ HasAlphanumeric w) v.delimiterKeyword? := by
  have hleading : ∀ w, (!isSymbolic w) = true ↔ HasAlphanumeric w := by
    intro w
    rw [Bool.not_eq_true', isSymbolic_eq_false_iff]
  exact ⟨v.operators_spelled.canonical_choose? hleading,
    v.connectives_spelled.canonical_choose? hleading,
    v.directions_spelled.canonical_choose? hleading, v.canonical_delimiterKeyword?⟩

/-- A symbol and a greater word come behind `eq`, and two words can be looked up but not chosen. -/
theorem keywords_canonical_of_mixed :
    let v := empty false
      |>.withOperators [("is like", .contains), ("=", .isEqualTo), ("EQUALS", .isEqualTo),
        ("eq", .isEqualTo)]
      |>.withDelimiters ["then", ";", ","]
    v.operatorKeyword? .isEqualTo = some "eq" ∧
      ¬ Before HasAlphanumeric "=" "eq" ∧ ¬ Before HasAlphanumeric "equals" "eq" ∧
      v.operator? "is like" = some .contains ∧
      (∀ w, Token.ofText w = [.word w] → v.operator? w ≠ some .contains) ∧
      v.delimiterKeyword? = some "," ∧
      ¬ Before (fun w => ¬ HasAlphanumeric w) "then" "," := by
  intro v
  obtain ⟨operators, -, -, delimiters⟩ := keywords_canonical v
  have hequal : v.operatorKeyword? .isEqualTo = some "eq" := by decide +kernel
  have hcontains : v.operatorKeyword? .contains = none := by decide +kernel
  have hdelimiter : v.delimiterKeyword? = some "," := by decide +kernel
  obtain ⟨-, hfirst⟩ := (operators .isEqualTo).first "eq" hequal
  obtain ⟨-, hfirstDelimiter⟩ := delimiters.first "," hdelimiter
  refine ⟨hequal, ?_, ?_, by decide +kernel, (operators .contains).eq_none_iff.1 hcontains,
    hdelimiter, ?_⟩
  · exact hfirst "=" (by decide +kernel) (by decide +kernel)
  · exact hfirst "equals" (by decide +kernel) (by decide +kernel)
  · exact hfirstDelimiter "then" (by decide +kernel) (by decide +kernel)

end Vocabulary

end RowQuery
