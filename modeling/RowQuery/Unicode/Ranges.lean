/-! Sets of code points, written as ascending inclusive ranges. -/

namespace RowQuery.Unicode

abbrev Ranges := List (Nat × Nat)

/-- The ranges ascend, so the search may end at the first one that starts beyond `n`. -/
def Ranges.has : Ranges → Nat → Bool
  | [], _ => false
  | (low, high) :: rest, n => low ≤ n && (n ≤ high || Ranges.has rest n)

@[simp] theorem Ranges.has_nil (n : Nat) : Ranges.has [] n = false := rfl

@[simp] theorem Ranges.has_cons (low high n : Nat) (rest : Ranges) :
    Ranges.has ((low, high) :: rest) n = (low ≤ n && (n ≤ high || Ranges.has rest n)) := rfl

theorem Ranges.exists_of_has {ranges : Ranges} {n : Nat} (h : ranges.has n = true) :
    ∃ r ∈ ranges, r.1 ≤ n ∧ n ≤ r.2 := by
  induction ranges with
  | nil => simp at h
  | cons r rest ih =>
    obtain ⟨low, high⟩ := r
    simp only [Ranges.has_cons, Bool.and_eq_true, Bool.or_eq_true, decide_eq_true_eq] at h
    rcases h with ⟨hlow, hhigh | hrest⟩
    · exact ⟨(low, high), by simp, hlow, hhigh⟩
    · obtain ⟨s, hs, hle⟩ := ih hrest
      exact ⟨s, by simp [hs], hle⟩

end RowQuery.Unicode
