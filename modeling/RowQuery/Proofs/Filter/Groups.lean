import RowQuery.Proofs.Filter.Canonical

/-! The groups of a filter. A combined clause on the right can only be read from a group, and a
writer puts no other clause into one, so no text for a clause has fewer groups than the printed
text, or groups that nest less deep. -/

namespace RowQuery

def Clause.rightJoints : Clause → Nat
  | .leaf _ => 0
  | .combined left _ right =>
    left.rightJoints + right.rightJoints + if right.isCombined then 1 else 0

namespace Filter

variable {v : Vocabulary} {nullMarker : Bool} {ts : List Token} {c : Clause}

theorem IsValue.count_openGroup {t : Token} {value : Value} (h : IsValue nullMarker t value)
    (field w : String) : [.word field, .word w, t].count Token.openGroup = 0 := by
  cases h <;> rfl

private theorem closed_rightJoints (v : Vocabulary) (nullMarker : Bool) :
    Closed v nullMarker
      (fun ts c => c.rightJoints + (if c.isCombined then 1 else 0) ≤ ts.count .openGroup)
      (fun ts c => c.rightJoints ≤ ts.count .openGroup) where
  condition := by
    intro field w o t value _ _
    simp [Clause.condition, Clause.rightJoints, Clause.isCombined]
  group := by
    intro ts c hbody
    rw [Token.count_openGroup_group]
    split <;> omega
  one := by
    intro ts c hclause
    omega
  snoc := by
    intro ts us b c w k hbody _ hclause
    rw [Token.count_openGroup_joint, Clause.rightJoints]
    omega

/-- Each joint on the right was read from a group of its own. -/
theorem IsBody.rightJoints_le (h : IsBody v nullMarker ts c) :
    c.rightJoints ≤ ts.count .openGroup :=
  h.induct (closed_rightJoints v nullMarker)

theorem Written.count_openGroup (h : Written v ts c) : ts.count .openGroup = c.rightJoints := by
  induction h with
  | @leaf c w ho hfield =>
    have hvalue : IsValue true (valueToken c.value) c.value := isValue_valueToken (.inl rfl)
    rw [hvalue.count_openGroup, Clause.rightJoints]
  | bare _ _ _ ihl ihr =>
    simp [ihl, ihr, Clause.rightJoints, Clause.isCombined]
  | grouped _ _ _ hcombined ihl ihr =>
    rw [Token.count_openGroup_joint, Token.count_openGroup_group, ihl, ihr, Clause.rightJoints,
      if_pos hcombined, Nat.add_assoc]

/-- No text for a clause has fewer groups than the one that is printed for it, which is a text for
the same clause and has one group for each joint on the right, or a nesting that is less deep. -/
theorem print_fewest_groups {options : ParseOptions} {text : String}
    (h : parse v options text = .ok (some c)) :
    ∃ g, print v c = .ok g ∧ parse v options g = .ok (some c) ∧
      (Token.ofText g).count .openGroup ≤ (Token.ofText text).count .openGroup ∧
      Token.nesting 0 (Token.ofText g) ≤ Token.nesting 0 (Token.ofText text) ∧
      (Token.ofText g).count .openGroup = c.rightJoints := by
  obtain ⟨hbody, -⟩ := parse_eq_ok_some_iff.mp h
  obtain ⟨g, hg, hagain⟩ := exists_print_of_parse h
  have hwritten := ofText_written hg
  refine ⟨g, hg, hagain, ?_, ?_, hwritten.count_openGroup⟩
  · rw [hwritten.count_openGroup]
    exact hbody.rightJoints_le
  · have hprinted := hwritten.nesting_le 0
    have hread := hbody.grouping_le 0
    omega

theorem print_fewest_groups_redundant :
    let text := "((a eq 1)) and (b eq 2) and ((c eq 3 or d eq 4))"
    let c : Clause := .combined
      (.combined (.condition "a" .isEqualTo (.text "1")) .and
        (.condition "b" .isEqualTo (.text "2")))
      .and
      (.combined (.condition "c" .isEqualTo (.text "3")) .or
        (.condition "d" .isEqualTo (.text "4")))
    parse .preset {} text = .ok (some c) ∧ ∃ g, print .preset c = .ok g ∧
      parse .preset {} g = .ok (some c) ∧ (Token.ofText g).count .openGroup = 1 ∧
      (Token.ofText text).count .openGroup = 5 ∧ Token.nesting 0 (Token.ofText g) ≤ 2 := by
  intro text c
  have hparse : parse .preset {} text = .ok (some c) := by decide +kernel
  have htext : Token.nesting 0 (Token.ofText text) = 2 := by decide +kernel
  obtain ⟨g, hg, hagain, -, hnesting, hcount⟩ := print_fewest_groups hparse
  exact ⟨hparse, g, hg, hagain, hcount, by decide +kernel, htext ▸ hnesting⟩

end Filter

end RowQuery
