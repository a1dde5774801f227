import RowQuery.Proofs.Filter.Conditions
import RowQuery.Proofs.Filter.Relabel
import RowQuery.Proofs.Print.Success

/-! The null marker. Whether a reader knows it makes no difference to what it accepts: the marker
stands for a value that is otherwise the text of the bare word `null`. -/

namespace RowQuery

/-- The text that the null marker is written as stands for itself. -/
def Value.spelledOut : Value → Value
  | text s => text s
  | null => text "null"

theorem Value.spelledOut_ne_null (value : Value) : value.spelledOut ≠ .null := by
  cases value <;> nofun

def Clause.spelledOut (c : Clause) : Clause :=
  c.mapConditions fun d => { d with value := d.value.spelledOut }

theorem Clause.value_ne_null_of_mem_spelledOut {c : Clause} {d : Condition}
    (h : d ∈ c.spelledOut.conditions) : d.value ≠ .null := by
  rw [spelledOut, conditions_mapConditions] at h
  obtain ⟨d, -, rfl⟩ := List.mem_map.1 h
  exact d.value.spelledOut_ne_null

namespace Filter

variable {v : Vocabulary} {options : ParseOptions}

theorem IsValue.eq_null_iff {t : Token} {value : Value} (h : IsValue true t value) :
    value = .null ↔ t = .word "null" := by
  cases h with
  | null => simp
  | word hw =>
    have hne : ¬ Token.word _ = .word "null" := fun heq => hw ⟨rfl, Token.word.inj heq⟩
    exact iff_of_false nofun hne
  | number => exact iff_of_false nofun nofun
  | string => exact iff_of_false nofun nofun

theorem valueOf?_spelledOut (t : Token) :
    valueOf? false t = (valueOf? true t).map Value.spelledOut := by
  cases t with
  | word w =>
    by_cases hw : w = "null"
    · subst hw
      rfl
    · simp [valueOf?, hw, Value.spelledOut]
  | _ => rfl

theorem relabels_spelledOut (v : Vocabulary) (maxDepth : Option Nat) :
    Relabels v v ⟨true, maxDepth⟩ ⟨false, maxDepth⟩ id Value.spelledOut where
  operator := fun _ _ => rfl
  connective := fun _ _ => rfl
  value := by
    intro t
    rw [Token.mapText_id]
    exact valueOf?_spelledOut t
  maxDepth := rfl

theorem parse_spelledOut (v : Vocabulary) (maxDepth : Option Nat) (text : String) :
    parse v ⟨false, maxDepth⟩ text =
      (parse v ⟨true, maxDepth⟩ text).map (Option.map Clause.spelledOut) :=
  (relabels_spelledOut v maxDepth).parse_same text

theorem placed_of_parse {text : String} {c : Clause} (h : parse v options text = .ok (some c)) :
    Placed v options.nullMarker (Token.bare (Token.ofText text)) c.leaves :=
  (arranged_of_parse h).placed

theorem value_ne_null_of_parse {maxDepth : Option Nat} {text : String} {c : Clause}
    (h : parse v ⟨false, maxDepth⟩ text = .ok (some c)) : ∀ d ∈ c.leaves, d.value ≠ .null := by
  intro d hd
  rw [parse_spelledOut] at h
  cases hmarked : parse v ⟨true, maxDepth⟩ text with
  | error e => simp [hmarked, Except.map] at h
  | ok marked =>
    cases marked with
    | none => simp [hmarked, Except.map] at h
    | some marked =>
      have hc : marked.spelledOut = c := by simpa [hmarked, Except.map] using h
      rw [Clause.leaves_eq_conditions, ← hc] at hd
      exact Clause.value_ne_null_of_mem_spelledOut hd

/-- Without the null marker the same texts are read, with the same errors, and the text `null` stands
for each marker. With it, a condition has the marker for a value exactly if its value is the bare
word `null`. -/
theorem parse_nullMarker (v : Vocabulary) (maxDepth : Option Nat) (text : String) :
    parse v ⟨false, maxDepth⟩ text =
      (parse v ⟨true, maxDepth⟩ text).map (Option.map Clause.spelledOut) ∧
    (∀ c, parse v ⟨true, maxDepth⟩ text = .ok (some c) →
      (Token.bare (Token.ofText text)).length + 1 = 4 * c.leaves.length ∧
      ∀ i d, c.leaves[i]? = some d → ∃ field keyword value,
        [field, keyword, value] <+: (Token.bare (Token.ofText text)).drop (4 * i) ∧
          Denotes v true field keyword value d ∧ (d.value = .null ↔ value = .word "null")) ∧
    ∀ c, parse v ⟨false, maxDepth⟩ text = .ok (some c) → ∀ d ∈ c.leaves, d.value ≠ .null := by
  refine ⟨parse_spelledOut v maxDepth text, fun c hc => ?_, fun c => value_ne_null_of_parse⟩
  have hplaced := placed_of_parse hc
  refine ⟨hplaced.length, fun i d hd => ?_⟩
  obtain ⟨field, keyword, value, hfront, hdenotes⟩ := hplaced.denotes i d hd
  exact ⟨field, keyword, value, hfront, hdenotes, hdenotes.value.eq_null_iff⟩

/-- Neither in quotes nor in capitals is `null` the marker. -/
theorem parse_nullMarker_quoted :
    let text := "a eq null and (b eq \"null\" or c eq NULL)"
    let c : Clause := .combined (.condition "a" .isEqualTo .null) .and
      (.combined (.condition "b" .isEqualTo (.text "null")) .or
        (.condition "c" .isEqualTo (.text "NULL")))
    let bare : List Token := [.word "a", .word "eq", .word "null", .word "and", .word "b",
      .word "eq", .string "null", .word "or", .word "c", .word "eq", .word "NULL"]
    parse .preset ⟨true, none⟩ text = .ok (some c) ∧
      parse .preset ⟨false, none⟩ text = .ok (some c.spelledOut) ∧
      (∀ i d, c.leaves[i]? = some d → ∃ field keyword value,
        [field, keyword, value] <+: bare.drop (4 * i) ∧
          Denotes .preset true field keyword value d ∧
            (d.value = .null ↔ value = .word "null")) ∧
      ∀ d ∈ c.spelledOut.leaves, d.value ≠ .null := by
  intro text c bare
  have hmarked : parse .preset ⟨true, none⟩ text = .ok (some c) := by decide +kernel
  have hbare : Token.bare (Token.ofText text) = bare := by decide +kernel
  obtain ⟨hspelled, hplaced, hnone⟩ := parse_nullMarker .preset none text
  have hplain : parse .preset ⟨false, none⟩ text = .ok (some c.spelledOut) := by
    rw [hspelled, hmarked]
    rfl
  have hconditions := (hplaced c hmarked).2
  rw [hbare] at hconditions
  exact ⟨hmarked, hplain, hconditions, hnone _ hplain⟩

end Filter

end RowQuery
