import RowQuery.Proofs.Filter.RoundTrip

/-! Whatever has been read can be written again, and what is written reads the same under the same
options: it has no more null markers and nests no deeper than the text that was read. -/

namespace RowQuery

def Clause.grouping : Clause → Nat
  | .leaf _ => 0
  | .combined left _ right =>
    max left.grouping (if right.isCombined then right.grouping + 1 else 0)

namespace Filter

variable {v : Vocabulary} {nullMarker : Bool} {ts : List Token} {c : Clause}

/-! Nesting. Derived tokens close every group they open. -/

theorem IsValue.nesting_cons {t : Token} {value : Value} (h : IsValue nullMarker t value)
    (opened : Nat) (ts : List Token) :
    Token.nesting opened (t :: ts) = Token.nesting opened ts ∧
      Token.openAfter opened (t :: ts) = Token.openAfter opened ts := by
  cases h <;> exact ⟨rfl, rfl⟩

private theorem closed_nesting (v : Vocabulary) (nullMarker : Bool) :
    Closed v nullMarker
      (fun ts c => ∀ opened, Token.openAfter opened ts = opened ∧
        opened + (if c.isCombined then c.grouping + 1 else 0) ≤ Token.nesting opened ts)
      (fun ts c => ∀ opened, Token.openAfter opened ts = opened ∧
        opened + c.grouping ≤ Token.nesting opened ts) where
  condition := by
    intro field w o t value _ hvalue opened
    have hlast := hvalue.nesting_cons opened []
    simp [Token.nesting, Token.openAfter, hlast, Clause.condition, Clause.isCombined]
  group := by
    intro ts c hbody opened
    have hinner := hbody (opened + 1)
    simp only [List.cons_append, Token.openAfter, Token.nesting, Token.openAfter_append,
      Token.nesting_append, hinner.1]
    apply And.intro
    · omega
    · split <;> omega
  one := by
    intro ts c hclause opened
    refine ⟨(hclause opened).1, ?_⟩
    have hle := (hclause opened).2
    cases c with
    | leaf => exact hle
    | combined =>
      rw [Clause.isCombined, if_pos rfl] at hle
      omega
  snoc := by
    intro ts us b c w k hbody _ hclause opened
    have hb := hbody opened
    have hc := hclause opened
    simp only [Token.openAfter_append, Token.nesting_append, hb.1, Token.openAfter, Token.nesting,
      Clause.grouping]
    refine ⟨hc.1, ?_⟩
    omega

theorem IsBody.openAfter_eq (h : IsBody v nullMarker ts c) (opened : Nat) :
    Token.openAfter opened ts = opened :=
  (h.induct (closed_nesting v nullMarker) opened).1

theorem IsBody.grouping_le (h : IsBody v nullMarker ts c) (opened : Nat) :
    opened + c.grouping ≤ Token.nesting opened ts :=
  (h.induct (closed_nesting v nullMarker) opened).2

theorem Written.openAfter_eq (h : Written v ts c) (opened : Nat) :
    Token.openAfter opened ts = opened := by
  have hbody : IsBody v true ts c := h.isBody (.inl rfl)
  exact hbody.openAfter_eq opened

theorem Written.nesting_le (h : Written v ts c) (opened : Nat) :
    Token.nesting opened ts ≤ opened + c.grouping := by
  induction h generalizing opened with
  | leaf =>
    rename_i c _ _ _
    have hvalue : IsValue true (valueToken c.value) c.value := isValue_valueToken (.inl rfl)
    simp [Token.nesting, (hvalue.nesting_cons opened []).1]
  | bare _ hleft _ ihl ihr =>
    have hl := ihl opened
    have hr := ihr opened
    simp only [Token.nesting_append, hleft.openAfter_eq, Token.nesting, Clause.grouping] at hr ⊢
    omega
  | grouped _ hleft hright hcombined ihl ihr =>
    have hl := ihl opened
    have hr := ihr (opened + 1)
    simp only [Token.nesting_append, hleft.openAfter_eq, Token.nesting, List.cons_append,
      hright.openAfter_eq, Clause.grouping, hcombined, if_pos]
    omega

/-! What was read from words has a word for everything. -/

private theorem closed_exists_print (v : Vocabulary) (nullMarker : Bool) :
    Closed v nullMarker
      (fun ts c => (∀ w, .word w ∈ ts → isSingleWord w = true) → ∃ text, print v c = .ok text)
      (fun ts c => (∀ w, .word w ∈ ts → isSingleWord w = true) → ∃ text, print v c = .ok text) where
  condition := by
    intro field w o t value ho _ hwords
    obtain ⟨k, hk⟩ := Vocabulary.exists_operatorKeyword? ho (hwords w (by simp))
    exact ⟨_, printCondition_eq_ok_iff.mpr ⟨k, hk, hwords field (by simp), rfl⟩⟩
  group := by
    intro ts c hbody hwords
    apply hbody
    intro w hw
    exact hwords w (by simp [hw])
  one := by
    intro ts c hclause
    exact hclause
  snoc := by
    intro ts us b c w k hbody hk hclause hwords
    obtain ⟨l, hl⟩ := hbody fun w hw => hwords w (by simp [hw])
    obtain ⟨r, hr⟩ := hclause fun w hw => hwords w (by simp [hw])
    obtain ⟨keyword, hkeyword⟩ := Vocabulary.exists_connectiveKeyword? hk (hwords w (by simp))
    exact ⟨_, print_combined_eq_ok_iff.mpr ⟨keyword, l, r, hkeyword, hl, hr, rfl⟩⟩

private theorem closed_no_null (v : Vocabulary) :
    Closed v false (fun _ c => ∀ d ∈ c.conditions, d.value ≠ .null)
      (fun _ c => ∀ d ∈ c.conditions, d.value ≠ .null) where
  condition := by
    intro field w o t value _ hvalue d hd
    rw [Clause.condition, Clause.conditions, List.mem_singleton] at hd
    subst hd
    cases hvalue with
    | null h => cases h
    | _ => simp
  group := by
    intro ts c hbody
    exact hbody
  one := by
    intro ts c hclause
    exact hclause
  snoc := by
    intro ts us b c w k hbody _ hclause
    rw [Clause.conditions, List.forall_mem_append]
    exact ⟨hbody, hclause⟩

/-- A clause that was read has a text of its own, which reads the same. -/
theorem exists_print_of_parse {options : ParseOptions} {text : String}
    (h : parse v options text = .ok (some c)) :
    ∃ g, print v c = .ok g ∧ parse v options g = .ok (some c) := by
  obtain ⟨hbody, hdepth⟩ := parse_eq_ok_some_iff.mp h
  obtain ⟨g, hg⟩ := hbody.induct (closed_exists_print v _) fun w hw =>
    Token.isSingleWord_of_mem_ofText hw
  have hnull : options.nullMarker = true ∨ ∀ d ∈ c.conditions, d.value ≠ .null := by
    cases hflag : options.nullMarker with
    | true => exact .inl rfl
    | false =>
      rw [hflag] at hbody
      exact .inr (hbody.induct (closed_no_null v))
  have hwritten := ofText_written hg
  refine ⟨g, hg, parse_eq_ok_some_iff.mpr ⟨hwritten.isBody hnull, fun limit hlimit => ?_⟩⟩
  have hprinted := hwritten.nesting_le 0
  have hread := hbody.grouping_le 0
  have hallowed := hdepth limit hlimit
  omega

end Filter

end RowQuery
