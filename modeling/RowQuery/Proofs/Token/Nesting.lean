import RowQuery.Token

/-! How deep groups nest in a sequence of tokens, whether or not it is a filter. -/

namespace RowQuery

namespace Token

/-- How many groups are open behind these tokens, if `opened` were before them. -/
def openAfter (opened : Nat) : List Token → Nat
  | [] => opened
  | .openGroup :: ts => openAfter (opened + 1) ts
  | .closeGroup :: ts => openAfter (opened - 1) ts
  | .word _ :: ts | .number _ :: ts | .string _ :: ts => openAfter opened ts

/-- The most groups that are open at once in these tokens, `opened` of them from before. -/
def nesting (opened : Nat) : List Token → Nat
  | [] => opened
  | .openGroup :: ts => nesting (opened + 1) ts
  | .closeGroup :: ts => max opened (nesting (opened - 1) ts)
  | .word _ :: ts | .number _ :: ts | .string _ :: ts => nesting opened ts

theorem le_nesting (opened : Nat) (ts : List Token) : opened ≤ nesting opened ts := by
  fun_induction nesting opened ts <;> omega

theorem openAfter_append (opened : Nat) (ts us : List Token) :
    openAfter opened (ts ++ us) = openAfter (openAfter opened ts) us := by
  induction ts generalizing opened with
  | nil => rfl
  | cons t ts ih => cases t <;> simp [openAfter, ih]

theorem nesting_append (opened : Nat) (ts us : List Token) :
    nesting opened (ts ++ us) = max (nesting opened ts) (nesting (openAfter opened ts) us) := by
  induction ts generalizing opened with
  | nil => simp [nesting, openAfter, Nat.max_eq_right (le_nesting opened us)]
  | cons t ts ih => cases t <;> simp [nesting, openAfter, ih, Nat.max_assoc]

/-! How many groups there are, however deep. -/

theorem count_openGroup_group (ts : List Token) :
    (openGroup :: ts ++ [closeGroup]).count openGroup = ts.count openGroup + 1 := by
  simp

theorem count_openGroup_joint (ts : List Token) (w : String) (us : List Token) :
    (ts ++ word w :: us).count openGroup = ts.count openGroup + us.count openGroup := by
  simp

end Token

end RowQuery
