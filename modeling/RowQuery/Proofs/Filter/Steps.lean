import RowQuery.Filter.Parse
import RowQuery.Proofs.Filter.Grammar
import RowQuery.Proofs.Parse.Reads
import RowQuery.Proofs.Token.Nesting

/-! Everything a reader of filters can do with a token, and how the groups it has opened bound what
it takes in. -/

namespace RowQuery

namespace Filter

theorem valueOf?_eq_some_iff {nullMarker : Bool} {t : Token} {value : Value} :
    valueOf? nullMarker t = some value ↔ IsValue nullMarker t value := by
  apply Iff.intro
  · intro h
    cases t with
    | word w =>
      by_cases hw : nullMarker = true ∧ w = "null"
      · obtain ⟨hnull, rfl⟩ := hw
        have hvalue : value = .null := by simpa [valueOf?, hnull] using h.symm
        rw [hvalue]
        exact .null hnull
      · have hvalue : value = .text w := by
          rw [valueOf?, Option.some.injEq, if_neg (by simpa using hw)] at h
          exact h.symm
        rw [hvalue]
        exact .word hw
    | number n =>
      cases h
      exact .number n
    | string s =>
      cases h
      exact .string s
    | openGroup => cases h
    | closeGroup => cases h
  · intro h
    cases h with
    | null hnull => simp [valueOf?, hnull]
    | word hw => rw [valueOf?, if_neg (by simpa using hw)]
    | number => rfl
    | string => rfl

/-- One constructor for each way to go on; whatever fits none is an error. -/
inductive Move (v : Vocabulary) (options : ParseOptions) : State → Token → State → Prop
  | openGroup {outer : List Pending} {p : Pending} (h : atLimit options outer = none) :
      Move v options ⟨outer, .clause p⟩ .openGroup ⟨p :: outer, .clause none⟩
  | field {outer : List Pending} {p : Pending} (w : String) :
      Move v options ⟨outer, .clause p⟩ (.word w) ⟨outer, .operator p w⟩
  | operator {outer : List Pending} {p : Pending} {field w : String} {o : Operator}
      (h : v.operator? w = some o) :
      Move v options ⟨outer, .operator p field⟩ (.word w) ⟨outer, .value p field o⟩
  | value {outer : List Pending} {p : Pending} {field : String} {o : Operator} {t : Token}
      {value : Value} (h : IsValue options.nullMarker t value) :
      Move v options ⟨outer, .value p field o⟩ t ⟨outer, .joint (p.join (.condition field o value))⟩
  | closeGroup {outer : List Pending} {p : Pending} (body : Clause) :
      Move v options ⟨p :: outer, .joint body⟩ .closeGroup ⟨outer, .joint (p.join body)⟩
  | connective {outer : List Pending} {body : Clause} {w : String} {k : Connective}
      (h : v.connective? w = some k) :
      Move v options ⟨outer, .joint body⟩ (.word w) ⟨outer, .clause (some (body, k))⟩

variable {v : Vocabulary} {options : ParseOptions} {s t : State} {tok : Token}

private theorem step_of_move (h : Move v options s tok t) : step v options s tok = .take t := by
  cases h with
  | openGroup h => simp only [step, h]
  | field => rfl
  | operator h => simp only [step, h]
  | value h => simp only [step, valueOf?_eq_some_iff.mpr h]
  | closeGroup => rfl
  | connective h => simp only [step, h]

private theorem move_of_step (h : step v options s tok = .take t) : Move v options s tok t := by
  obtain ⟨outer, phase⟩ := s
  cases phase with
  | clause p =>
    cases tok with
    | openGroup =>
      simp only [step] at h
      split at h
      · cases h
      · rename_i hlimit
        cases h
        exact .openGroup hlimit
    | word w =>
      cases h
      exact .field w
    | _ => cases h
  | operator p field =>
    cases tok with
    | word w =>
      simp only [step] at h
      split at h
      · rename_i o ho
        cases h
        exact .operator ho
      · cases h
    | _ => cases h
  | value p field o =>
    simp only [step] at h
    split at h
    · rename_i value hvalue
      cases h
      exact .value (valueOf?_eq_some_iff.mp hvalue)
    · cases h
  | joint body =>
    cases tok with
    | closeGroup =>
      cases outer with
      | nil => cases h
      | cons p outer =>
        cases h
        exact .closeGroup body
    | word w =>
      simp only [step] at h
      split at h
      · rename_i k hk
        cases h
        exact .connective hk
      · cases h
    | _ => cases h

theorem machine_movesBy (v : Vocabulary) (options : ParseOptions) :
    (machine v options).MovesBy (Move v options) :=
  fun _ _ _ => ⟨move_of_step, step_of_move⟩

theorem Move.reads (h : Move v options s tok t) : (machine v options).Reads s [tok] t :=
  (machine_movesBy v options).reads h

theorem exists_move {ts : List Token} (h : (machine v options).Reads s (tok :: ts) t) :
    ∃ next, Move v options s tok next ∧ (machine v options).Reads next ts t :=
  (machine_movesBy v options).exists_move h

/-! A limit only ever forbids to open a group. -/

def unlimited (options : ParseOptions) : ParseOptions :=
  { options with maxDepth := none }

theorem atLimit_eq_none_iff {outer : List Pending} :
    atLimit options outer = none ↔ ∀ limit ∈ options.maxDepth, outer.length < limit := by
  simp [atLimit, Option.filter_eq_none_iff]

private theorem move_iff_unlimited (hs : ∀ limit ∈ options.maxDepth, s.outer.length ≤ limit) :
    Move v options s tok t ↔
      Move v (unlimited options) s tok t ∧ ∀ limit ∈ options.maxDepth, t.outer.length ≤ limit := by
  apply Iff.intro
  · intro h
    cases h with
    | openGroup h => exact ⟨.openGroup rfl, atLimit_eq_none_iff.mp h⟩
    | field => exact ⟨.field _, hs⟩
    | operator h => exact ⟨.operator h, hs⟩
    | value h => exact ⟨.value h, hs⟩
    | closeGroup body =>
      refine ⟨.closeGroup body, fun limit hl => ?_⟩
      have hlength := hs limit hl
      rw [List.length_cons] at hlength
      dsimp only
      omega
    | connective h => exact ⟨.connective h, hs⟩
  · intro ⟨h, ht⟩
    cases h with
    | openGroup => exact .openGroup (atLimit_eq_none_iff.mpr ht)
    | field => exact .field _
    | operator h => exact .operator h
    | value h => exact .value h
    | closeGroup => exact .closeGroup _
    | connective h => exact .connective h

private theorem Move.nesting_le_iff (h : Move v options s tok t) {limit : Nat}
    (hs : s.outer.length ≤ limit) (ts : List Token) :
    Token.nesting s.outer.length (tok :: ts) ≤ limit ↔ Token.nesting t.outer.length ts ≤ limit := by
  cases h with
  | value h => cases h <;> rfl
  | closeGroup =>
    rw [List.length_cons] at hs
    simp only [Token.nesting, Nat.max_le, List.length_cons, Nat.add_sub_cancel]
    omega
  | _ => rfl

theorem reads_iff_unlimited {ts : List Token}
    (hs : ∀ limit ∈ options.maxDepth, s.outer.length ≤ limit) :
    (machine v options).Reads s ts t ↔
      (machine v (unlimited options)).Reads s ts t ∧
        ∀ limit ∈ options.maxDepth, Token.nesting s.outer.length ts ≤ limit := by
  induction ts generalizing s with
  | nil =>
    apply Iff.intro
    · intro h
      cases h
      exact ⟨.nil _, hs⟩
    · intro ⟨h, _⟩
      cases h
      exact .nil _
  | cons tok ts ih =>
    apply Iff.intro
    · intro h
      obtain ⟨next, hmove, more⟩ := exists_move h
      obtain ⟨hfree, hnext⟩ := (move_iff_unlimited hs).1 hmove
      obtain ⟨hrest, hnesting⟩ := (ih hnext).1 more
      refine ⟨hfree.reads.trans hrest, fun limit hl => ?_⟩
      exact (hmove.nesting_le_iff (hs limit hl) ts).2 (hnesting limit hl)
    · intro ⟨h, hnesting⟩
      obtain ⟨next, hfree, more⟩ := exists_move h
      have hrest : ∀ limit ∈ options.maxDepth, Token.nesting next.outer.length ts ≤ limit :=
        fun limit hl => (hfree.nesting_le_iff (hs limit hl) ts).1 (hnesting limit hl)
      have hnext : ∀ limit ∈ options.maxDepth, next.outer.length ≤ limit :=
        fun limit hl => Nat.le_trans (Token.le_nesting _ ts) (hrest limit hl)
      exact ((move_iff_unlimited hs).2 ⟨hfree, hnext⟩).reads.trans ((ih hnext).2 ⟨more, hrest⟩)

end Filter

end RowQuery
