import RowQuery.Filter.Document
import RowQuery.Proofs.Json.RoundTrip

/-! A filter is read from its own document wherever its depth is allowed, and a document never holds
a filter of greater depth than is allowed. -/

namespace RowQuery.Clause

variable {depth : Nat} {nested : Bool} {c left right : Clause} {connective : Connective}

/-! What `toJson` writes is an object for each clause in the tree. -/

theorem depth_toJson (c : Clause) : c.toJson.depth = c.depth := by
  induction c with
  | leaf c =>
    obtain ⟨field, operator, value⟩ := c
    cases value <;> rfl
  | combined left connective right ihl ihr =>
    have hmembers : (combined left connective right).toJson.depth =
        max 0 (max 0 (max left.toJson.depth (max right.toJson.depth 0))) + 1 := rfl
    rw [hmembers, ihl, ihr, Clause.depth]
    omega

theorem isPlain_toJson (c : Clause) : c.toJson.isPlain = true := by
  induction c with
  | leaf c =>
    obtain ⟨field, operator, value⟩ := c
    cases value <;> rfl
  | combined left connective right ihl ihr =>
    have hmembers : (combined left connective right).toJson.isPlain =
        (true && (true && (left.toJson.isPlain && (right.toJson.isPlain && true)))) := rfl
    rw [hmembers, ihl, ihr]
    rfl

theorem ofJsonWithin?_toJson_leaf (c : Condition) :
    ofJsonWithin? (depth + 1) nested (leaf c).toJson = some (leaf c) := by
  have hshape : shapeOf? nested (leaf c).toJson = some .leaf := rfl
  have hparts : (leaf c).toJson.parts? Shape.leaf.keys =
      some [.ofString Shape.leaf.name, .ofString c.field, .ofCode c.operator,
        c.value.toJson] := rfl
  have hfield : (Json.ofString c.field).string? = some c.field := rfl
  simp only [ofJsonWithin?, hshape, hparts, hfield, Json.code?_ofCode, Value.ofJson?_toJson,
    Option.bind_eq_bind, Option.bind_some]

theorem ofJsonWithin?_toJson_combined :
    ofJsonWithin? (depth + 1) nested (combined left connective right).toJson =
      (ofJsonWithin? depth true left.toJson).bind fun l =>
        (ofJsonWithin? depth true right.toJson).map (combined l connective) := by
  have hshape : shapeOf? nested (combined left connective right).toJson = some .combined := rfl
  have hparts : (combined left connective right).toJson.parts? Shape.combined.keys =
      some [.ofString Shape.combined.name, .ofCode connective, left.toJson,
        right.toJson] := rfl
  simp only [ofJsonWithin?, hshape, hparts, Json.code?_ofCode, Option.bind_eq_bind,
    Option.bind_some, Option.map_eq_bind, Function.comp_def]

/-- Every level of the clause takes one of the levels that are allowed. -/
theorem ofJsonWithin?_toJson (h : c.depth ≤ depth) :
    ofJsonWithin? depth nested c.toJson = some c := by
  induction depth generalizing c nested with
  | zero => exact absurd h (Nat.not_le_of_lt c.depth_pos)
  | succ depth ih =>
    cases c with
    | leaf c => exact ofJsonWithin?_toJson_leaf c
    | combined left connective right =>
      rw [Clause.depth] at h
      rw [ofJsonWithin?_toJson_combined, ih (by omega), ih (by omega)]
      rfl

theorem depth_le_of_ofJsonWithin? {j : Json} (h : ofJsonWithin? depth nested j = some c) :
    c.depth ≤ depth := by
  induction depth generalizing nested j c with
  | zero => cases h
  | succ depth ih =>
    simp only [ofJsonWithin?, Option.bind_eq_bind, Option.bind_eq_some_iff] at h
    obtain ⟨shape, _, parts, _, h⟩ := h
    split at h
    · simp only [Option.bind_eq_some_iff, Option.some.injEq] at h
      obtain ⟨_, _, _, _, _, _, rfl⟩ := h
      exact Nat.le_add_left 1 depth
    · simp only [Option.bind_eq_some_iff, Option.some.injEq] at h
      obtain ⟨left, hleft, _, _, right, hright, rfl⟩ := h
      have := ih hleft
      have := ih hright
      rw [Clause.depth]
      omega
    · cases h

theorem ofJson?_toJson (c : Clause) : ofJson? c.toJson = some c :=
  ofJsonWithin?_toJson (Nat.le_of_eq (depth_toJson c).symm)

/-- The document that holds a filter may nest deeper than the filter, but never less deep. -/
theorem depth_le_of_ofJson? {j : Json} (h : ofJson? j = some c) : c.depth ≤ j.depth :=
  depth_le_of_ofJsonWithin? h

theorem depth_le_of_read {text : String} (h : read text = some c) : c.depth ≤ Json.maxDepth := by
  obtain ⟨j, hj, hc⟩ := Option.bind_eq_some_iff.1 h
  obtain ⟨_, hlimits⟩ := Option.filter_eq_some_iff.1 hj
  rw [Bool.and_eq_true, decide_eq_true_eq] at hlimits
  exact Nat.le_trans (depth_le_of_ofJson? hc) hlimits.1

theorem read_eq_ite {text : String} (h : Json.readLoose text = some c.toJson) :
    read text = if c.depth ≤ Json.maxDepth then some c else none := by
  rw [read, Json.read_eq_ite (isPlain_toJson c) h, depth_toJson]
  split
  · exact ofJson?_toJson c
  · rfl

end RowQuery.Clause
