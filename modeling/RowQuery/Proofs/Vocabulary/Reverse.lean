import RowQuery.Proofs.Token.Fold
import RowQuery.Vocabulary

/-! Lookups in both directions. The keyword chosen for a meaning has that meaning and reads as one
word; a meaning goes without a keyword only if no word that a text can hold has it. -/

namespace RowQuery

@[simp] theorem isSingleWord_spell (caseSensitive : Bool) (w : String) :
    isSingleWord (spell caseSensitive w) = isSingleWord w := by
  cases caseSensitive with
  | false => exact isSingleWord_foldCase w
  | true => rfl

namespace Keywords

variable {α : Type}

private theorem lookup_eq_some_iff {entries : List (String × α)}
    (h : entries.Pairwise fun a b => a.1 < b.1) (w : String) (meaning : α) :
    entries.lookup w = some meaning ↔ (w, meaning) ∈ entries := by
  induction entries with
  | nil => simp
  | cons e rest ih =>
    obtain ⟨k, m⟩ := e
    rw [List.pairwise_cons] at h
    rw [List.lookup_cons, List.mem_cons, Prod.mk.injEq]
    by_cases hk : w = k
    · subst hk
      have hnot : (w, meaning) ∉ rest := fun hmem => String.lt_irrefl w (h.1 _ hmem)
      simp [hnot, eq_comm]
    · rw [beq_false_of_ne hk, ih h.2]
      simp [hk]

theorem get?_eq_some_iff (keywords : Keywords α) (w : String) (meaning : α) :
    keywords.get? w = some meaning ↔ (w, meaning) ∈ keywords.entries :=
  lookup_eq_some_iff keywords.ascending w meaning

theorem ascending_words (keywords : Keywords α) : keywords.words.Pairwise (· < ·) :=
  List.pairwise_map.2 keywords.ascending

theorem not_lt_of_ascending {k : String} {ws : List String} (h : (k :: ws).Pairwise (· < ·)) :
    ∀ w ∈ k :: ws, ¬ w < k := by
  intro w hw hlt
  rcases List.mem_cons.1 hw with rfl | hw
  · exact String.lt_irrefl w hlt
  · exact String.lt_irrefl w (String.lt_trans hlt ((List.pairwise_cons.1 h).1 w hw))

theorem Spelled.exists_get? {caseSensitive : Bool} {keywords : Keywords α}
    (hs : keywords.Spelled caseSensitive) {w : String} (h : w ∈ keywords.words) :
    ∃ meaning, keywords.get? (spell caseSensitive w) = some meaning := by
  obtain ⟨⟨w, meaning⟩, he, rfl⟩ := List.mem_map.1 h
  exact ⟨meaning, by rw [hs w h, get?_eq_some_iff]; exact he⟩

section Choice

variable [BEq α] [LawfulBEq α] {keywords : Keywords α} {preferred : String → Bool} {meaning : α}
  {w : String}

def candidates (keywords : Keywords α) (meaning : α) : List String :=
  (keywords.entries.filter fun e => e.2 == meaning && isSingleWord e.1).map (·.1)

omit [LawfulBEq α] in
theorem choose?_eq : keywords.choose? preferred meaning =
    ((keywords.candidates meaning).find? preferred).or (keywords.candidates meaning).head? := rfl

omit [LawfulBEq α] in
theorem ascending_candidates : (keywords.candidates meaning).Pairwise (· < ·) :=
  List.pairwise_map.2 (keywords.ascending.filter _)

theorem mem_candidates_iff :
    w ∈ keywords.candidates meaning ↔ keywords.get? w = some meaning ∧ isSingleWord w = true := by
  rw [get?_eq_some_iff, candidates, List.mem_map]
  apply Iff.intro
  · rintro ⟨⟨w, m⟩, he, rfl⟩
    obtain ⟨hentry, hchosen⟩ := List.mem_filter.1 he
    rw [Bool.and_eq_true, beq_iff_eq] at hchosen
    exact ⟨hchosen.1 ▸ hentry, hchosen.2⟩
  · rintro ⟨hentry, hw⟩
    exact ⟨(w, meaning), List.mem_filter.2 ⟨hentry, by simp [hw]⟩, rfl⟩

/-- A choice prefers some words but is never empty-handed for it. -/
theorem choose?_eq_none_iff :
    keywords.choose? preferred meaning = none ↔
      ∀ w, keywords.get? w = some meaning → isSingleWord w = false := by
  have hempty : keywords.choose? preferred meaning = none ↔ keywords.candidates meaning = [] := by
    rw [choose?_eq, Option.or_eq_none_iff, List.head?_eq_none_iff, and_iff_right_of_imp]
    intro h
    rw [h, List.find?_nil]
  rw [hempty, List.eq_nil_iff_forall_not_mem]
  simp only [mem_candidates_iff, not_and, Bool.not_eq_true]

theorem get?_of_choose? (h : keywords.choose? preferred meaning = some w) :
    keywords.get? w = some meaning ∧ isSingleWord w = true := by
  rw [← mem_candidates_iff]
  rw [choose?_eq] at h
  rcases Option.or_eq_some_iff.mp h with hfound | ⟨-, hhead⟩
  · exact List.mem_of_find?_eq_some hfound
  · exact List.mem_of_mem_head? hhead

theorem Spelled.get?_of_choose? {caseSensitive : Bool} (hs : keywords.Spelled caseSensitive)
    (h : keywords.choose? preferred meaning = some w) :
    keywords.get? (spell caseSensitive w) = some meaning ∧ isSingleWord w = true := by
  have hw := Keywords.get?_of_choose? h
  have hkept : spell caseSensitive w = w :=
    hs w (List.mem_map.2 ⟨_, (get?_eq_some_iff keywords w meaning).1 hw.1, rfl⟩)
  rwa [hkept]

theorem exists_choose? {caseSensitive : Bool}
    (h : keywords.get? (spell caseSensitive w) = some meaning) (hw : isSingleWord w = true) :
    ∃ k, keywords.choose? preferred meaning = some k := by
  cases hc : keywords.choose? preferred meaning with
  | some k => exact ⟨k, rfl⟩
  | none =>
    have hinert := choose?_eq_none_iff.mp hc _ h
    rw [isSingleWord_spell, hw] at hinert
    cases hinert

end Choice

end Keywords

namespace Vocabulary

variable {v : Vocabulary} {w : String}

theorem operator?_of_operatorKeyword? {o : Operator} (h : v.operatorKeyword? o = some w) :
    v.operator? w = some o ∧ isSingleWord w = true :=
  v.operators_spelled.get?_of_choose? h

theorem connective?_of_connectiveKeyword? {c : Connective} (h : v.connectiveKeyword? c = some w) :
    v.connective? w = some c ∧ isSingleWord w = true :=
  v.connectives_spelled.get?_of_choose? h

theorem direction?_of_directionKeyword? {d : Direction} (h : v.directionKeyword? d = some w) :
    v.direction? w = some d ∧ isSingleWord w = true :=
  v.directions_spelled.get?_of_choose? h

theorem isDelimiter_of_delimiterKeyword? (h : v.delimiterKeyword? = some w) :
    v.isDelimiter w = true ∧ isSingleWord w = true := by
  have hw := v.delimiters_spelled.get?_of_choose? h
  refine ⟨?_, hw.2⟩
  rw [isDelimiter, Keywords.contains, hw.1, Option.isSome_some]

theorem exists_operator? (h : w ∈ v.operators.words) : ∃ o, v.operator? w = some o :=
  v.operators_spelled.exists_get? h

theorem exists_connective? (h : w ∈ v.connectives.words) : ∃ k, v.connective? w = some k :=
  v.connectives_spelled.exists_get? h

theorem exists_operatorKeyword? {o : Operator} (h : v.operator? w = some o)
    (hw : isSingleWord w = true) : ∃ k, v.operatorKeyword? o = some k :=
  Keywords.exists_choose? h hw

theorem exists_connectiveKeyword? {c : Connective} (h : v.connective? w = some c)
    (hw : isSingleWord w = true) : ∃ k, v.connectiveKeyword? c = some k :=
  Keywords.exists_choose? h hw

theorem exists_directionKeyword? {d : Direction} (h : v.direction? w = some d)
    (hw : isSingleWord w = true) : ∃ k, v.directionKeyword? d = some k :=
  Keywords.exists_choose? h hw

theorem exists_delimiterKeyword? (h : v.isDelimiter w = true) (hw : isSingleWord w = true) :
    ∃ k, v.delimiterKeyword? = some k := by
  rw [isDelimiter, Keywords.contains, Option.isSome_iff_exists] at h
  obtain ⟨_, h⟩ := h
  exact Keywords.exists_choose? h hw

end Vocabulary

end RowQuery
