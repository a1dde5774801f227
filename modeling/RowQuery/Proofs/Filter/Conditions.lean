import RowQuery.Proofs.Filter.Acceptance
import RowQuery.Proofs.Print.Success

/-! Where the conditions of a filter stand in its text. Groups and the fold give a tree its shape;
the order of the conditions is that of their tokens, which come in fours but for the last: field,
operator, value, connective. -/

namespace RowQuery

def Token.bare (ts : List Token) : List Token :=
  ts.filter fun t => t.text?.isSome

theorem Token.bare_append (ts us : List Token) : bare (ts ++ us) = bare ts ++ bare us :=
  List.filter_append ts us

theorem Token.bare_joint (ts : List Token) (w : String) (us : List Token) :
    bare (ts ++ word w :: us) = bare ts ++ word w :: bare us :=
  bare_append ts (word w :: us)

theorem Token.bare_group (ts : List Token) : bare (openGroup :: ts ++ [closeGroup]) = bare ts := by
  simp [bare, text?]

namespace Filter

variable {v : Vocabulary} {nullMarker : Bool} {ts us : List Token} {cs ds : List Condition}

structure Denotes (v : Vocabulary) (nullMarker : Bool) (field keyword value : Token)
    (d : Condition) : Prop where
  field : field = .word d.field
  operator : ∃ w, keyword = .word w ∧ v.operator? w = some d.operator
  value : IsValue nullMarker value d.value

theorem Denotes.bare_append {field keyword value : Token} {d : Condition}
    (h : Denotes v nullMarker field keyword value d) (after : List Token) :
    Token.bare (field :: keyword :: value :: after) =
      [field, keyword, value] ++ Token.bare after := by
  obtain ⟨hfield, ⟨w, hkeyword, -⟩, hvalue⟩ := h
  rw [hfield, hkeyword]
  generalize d.value = meant at hvalue
  cases hvalue <;> rfl

/-- The conditions stand in this order, each as three tokens that stand together. Besides them
there is a word between any two, and both parentheses of every group. -/
structure Arranged (v : Vocabulary) (nullMarker : Bool) (ts : List Token) (cs : List Condition) :
    Prop where
  length : ts.length + 1 = 4 * cs.length + 2 * ts.count .openGroup
  bare_length : (Token.bare ts).length + 1 = 4 * cs.length
  denotes : ∀ i d, cs[i]? = some d → ∃ before field keyword value after,
    ts = before ++ field :: keyword :: value :: after ∧ (Token.bare before).length = 4 * i ∧
      Denotes v nullMarker field keyword value d

theorem Arranged.append (hts : Arranged v nullMarker ts cs) (hus : Arranged v nullMarker us ds)
    (w : String) : Arranged v nullMarker (ts ++ .word w :: us) (cs ++ ds) where
  length := by
    have hleft := hts.length
    have hright := hus.length
    rw [Token.count_openGroup_joint, List.length_append, List.length_append, List.length_cons]
    omega
  bare_length := by
    have hleft := hts.bare_length
    have hright := hus.bare_length
    rw [Token.bare_joint, List.length_append, List.length_append, List.length_cons]
    omega
  denotes := by
    intro i d hd
    by_cases hi : i < cs.length
    · rw [List.getElem?_append_left hi] at hd
      obtain ⟨before, field, keyword, value, after, rfl, hplace, hdenotes⟩ := hts.denotes i d hd
      exact ⟨before, field, keyword, value, after ++ .word w :: us, by simp, hplace, hdenotes⟩
    · rw [List.getElem?_append_right (by omega)] at hd
      obtain ⟨before, field, keyword, value, after, rfl, hplace, hdenotes⟩ :=
        hus.denotes (i - cs.length) d hd
      refine ⟨ts ++ .word w :: before, field, keyword, value, after, by simp, ?_, hdenotes⟩
      -- The joint makes up for the connective that the left stretch ends without.
      have hleft := hts.bare_length
      rw [Token.bare_joint, List.length_append, List.length_cons]
      omega

theorem Arranged.group (h : Arranged v nullMarker ts cs) :
    Arranged v nullMarker (.openGroup :: ts ++ [.closeGroup]) cs where
  length := by
    have hlength := h.length
    rw [Token.count_openGroup_group, List.length_append, List.length_cons, List.length_singleton]
    omega
  bare_length := by
    rw [Token.bare_group]
    exact h.bare_length
  denotes := by
    intro i d hd
    obtain ⟨before, field, keyword, value, after, rfl, hplace, hdenotes⟩ := h.denotes i d hd
    exact ⟨.openGroup :: before, field, keyword, value, after ++ [.closeGroup], by simp, hplace,
      hdenotes⟩

private theorem closed_arranged (v : Vocabulary) (nullMarker : Bool) :
    Closed v nullMarker (fun ts c => Arranged v nullMarker ts c.conditions)
      (fun ts c => Arranged v nullMarker ts c.conditions) where
  condition := by
    intro field w o t value ho hvalue
    refine ⟨?_, ?_, fun i d hd => ?_⟩
    · cases hvalue <;> rfl
    · cases hvalue <;> rfl
    · cases i with
      | zero =>
        cases hd
        exact ⟨[], _, _, _, [], rfl, rfl, rfl, ⟨w, rfl, ho⟩, hvalue⟩
      | succ i => cases hd
  group := by
    intro ts c hbody
    exact hbody.group
  one := by
    intro ts c hclause
    exact hclause
  snoc := by
    intro ts us b c w k hbody _ hclause
    exact hbody.append hclause w

theorem IsBody.arranged {c : Clause} (h : IsBody v nullMarker ts c) :
    Arranged v nullMarker ts c.conditions :=
  h.induct (closed_arranged v nullMarker)

/-- Each condition is denoted by the first three of its four tokens. -/
structure Placed (v : Vocabulary) (nullMarker : Bool) (us : List Token) (cs : List Condition) :
    Prop where
  length : us.length + 1 = 4 * cs.length
  denotes : ∀ i d, cs[i]? = some d →
    ∃ field keyword value, [field, keyword, value] <+: us.drop (4 * i) ∧
      Denotes v nullMarker field keyword value d

theorem Arranged.placed (h : Arranged v nullMarker ts cs) :
    Placed v nullMarker (Token.bare ts) cs where
  length := h.bare_length
  denotes := by
    intro i d hd
    obtain ⟨before, field, keyword, value, after, rfl, hplace, hdenotes⟩ := h.denotes i d hd
    refine ⟨field, keyword, value, ?_, hdenotes⟩
    rw [Token.bare_append, ← hplace, List.drop_left, hdenotes.bare_append after]
    exact List.prefix_append [field, keyword, value] (Token.bare after)

theorem arranged_of_parse {options : ParseOptions} {text : String} {c : Clause}
    (h : parse v options text = .ok (some c)) :
    Arranged v options.nullMarker (Token.ofText text) c.leaves := by
  rw [Clause.leaves_eq_conditions]
  exact (parse_eq_ok_some_iff.mp h).1.arranged

/-- A walk with a stack meets the conditions of a tree from left to right, one more than there are
joints. In a tree that was read they are the conditions of the text in their order: before the
first token of each stand four times as many tokens as conditions, parentheses not counted. -/
theorem leaves_in_text_order :
    (∀ c : Clause, c.leaves = c.conditions ∧ c.leaves.length = c.joints + 1) ∧
    ∀ (v : Vocabulary) (options : ParseOptions) (text : String) (c : Clause),
      parse v options text = .ok (some c) →
      (Token.ofText text).length =
        4 * c.leaves.length - 1 + 2 * (Token.ofText text).count .openGroup ∧
      (Token.bare (Token.ofText text)).length = 4 * c.leaves.length - 1 ∧
      ∀ i d, c.leaves[i]? = some d → ∃ before field keyword value after,
        Token.ofText text = before ++ field :: keyword :: value :: after ∧
          (Token.bare before).length = 4 * i ∧
          Denotes v options.nullMarker field keyword value d := by
  have hleaves : ∀ c : Clause, c.leaves.length = c.joints + 1 := by
    intro c
    rw [Clause.leaves_eq_conditions, Clause.length_conditions]
  refine ⟨fun c => ⟨c.leaves_eq_conditions, hleaves c⟩, fun v options text c hparse => ?_⟩
  have harranged := arranged_of_parse hparse
  have hlength := harranged.length
  have hbare := harranged.bare_length
  have hpos := hleaves c
  exact ⟨by omega, by omega, harranged.denotes⟩

/-- The second of three conditions stands behind four tokens and three parentheses. -/
theorem leaves_in_text_order_grouped :
    let text := "((a eq 1) and (b ne null or c gt 2))"
    let c : Clause := .combined (.condition "a" .isEqualTo (.text "1")) .and
      (.combined (.condition "b" .isNotEqualTo .null) .or
        (.condition "c" .isGreaterThan (.text "2")))
    parse .preset ⟨true, none⟩ text = .ok (some c) ∧
      c.leaves = [⟨"a", .isEqualTo, .text "1"⟩, ⟨"b", .isNotEqualTo, .null⟩,
        ⟨"c", .isGreaterThan, .text "2"⟩] ∧
      (Token.ofText text).length = 17 ∧
      ∃ before field keyword value after,
        Token.ofText text = before ++ field :: keyword :: value :: after ∧
          (Token.bare before).length = 4 ∧
          Denotes .preset true field keyword value ⟨"b", .isNotEqualTo, .null⟩ := by
  intro text c
  obtain ⟨hwalk, hread⟩ := leaves_in_text_order
  have hparse : parse .preset ⟨true, none⟩ text = .ok (some c) := by decide +kernel
  have hgroups : (Token.ofText text).count .openGroup = 3 := by decide +kernel
  obtain ⟨hlength, -, hdenotes⟩ := hread .preset ⟨true, none⟩ text c hparse
  have hleaves : c.leaves = _ := (hwalk c).1
  rw [hgroups, hleaves] at hlength
  exact ⟨hparse, hleaves, hlength, hdenotes 1 _ (by rw [hleaves]; rfl)⟩

end Filter

end RowQuery
