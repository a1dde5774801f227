import RowQuery.Order.Print

/-! What has been found when something could be written. -/

namespace RowQuery

instance decidableEqExcept {ε α : Type} [DecidableEq ε] [DecidableEq α] :
    DecidableEq (Except ε α)
  | .error e, .error e' => decidable_of_iff (e = e') (by simp)
  | .ok a, .ok a' => decidable_of_iff (a = a') (by simp)
  | .error _, .ok _ => isFalse nofun
  | .ok _, .error _ => isFalse nofun

theorem bind_eq_ok_iff {ε α β : Type} {x : Except ε α} {f : α → Except ε β} {b : β} :
    (x >>= f) = .ok b ↔ ∃ a, x = .ok a ∧ f a = .ok b := by
  cases x with
  | error e => simp [bind, Except.bind]
  | ok a => simp [bind, Except.bind]

theorem elim_eq_ok_iff {ε α : Type} {o : Option α} {e : ε} {a : α} :
    o.elim (.error e) Except.ok = .ok a ↔ o = some a := by
  cases o <;> simp

variable {v : Vocabulary} {text : String}

theorem Filter.printCondition_eq_ok_iff {c : Condition} :
    printCondition v c = .ok text ↔ ∃ w, v.operatorKeyword? c.operator = some w ∧
      isSingleWord c.field = true ∧ text = c.field ++ " " ++ w ++ " " ++ printValue c.value := by
  unfold printCondition
  simp only [bind_eq_ok_iff, elim_eq_ok_iff, printField_eq_ok_iff, Except.ok.injEq]
  apply Iff.intro
  · intro ⟨w, hw, field, ⟨hfield, heq⟩, htext⟩
    subst heq
    exact ⟨w, hw, hfield, htext.symm⟩
  · intro ⟨w, hw, hfield, htext⟩
    exact ⟨w, hw, c.field, ⟨hfield, rfl⟩, htext.symm⟩

theorem Filter.print_combined_eq_ok_iff {left right : Clause} {k : Connective} :
    print v (.combined left k right) = .ok text ↔ ∃ w l r, v.connectiveKeyword? k = some w ∧
      print v left = .ok l ∧ print v right = .ok r ∧
      text = l ++ " " ++ w ++ " " ++ if right.isCombined then "(" ++ r ++ ")" else r := by
  rw [print]
  simp only [bind_eq_ok_iff, elim_eq_ok_iff, Except.ok.injEq]
  apply Iff.intro
  · intro ⟨w, hw, l, hl, r, hr, htext⟩
    exact ⟨w, l, r, hw, hl, hr, htext.symm⟩
  · intro ⟨w, l, r, hw, hl, hr, htext⟩
    exact ⟨w, hw, l, hl, r, hr, htext.symm⟩

def Order.lastWord? (v : Vocabulary) (e : OrderEntry) : Option String :=
  if e.descending then v.directionKeyword? .descending else some e.field

theorem Order.printEntry_eq_ok_iff {e : OrderEntry} :
    printEntry v e = .ok text ↔ ∃ w, lastWord? v e = some w ∧ isSingleWord e.field = true ∧
      text = if e.descending then e.field ++ " " ++ w else w := by
  unfold printEntry lastWord?
  simp only [bind_eq_ok_iff, printField_eq_ok_iff]
  cases e.descending with
  | false =>
    apply Iff.intro
    · intro ⟨field, ⟨hfield, heq⟩, htext⟩
      cases htext
      exact ⟨e.field, rfl, hfield, heq⟩
    · intro ⟨w, hw, hfield, htext⟩
      cases hw
      exact ⟨e.field, ⟨hfield, rfl⟩, congrArg Except.ok htext.symm⟩
  | true =>
    simp only [if_true, bind_eq_ok_iff, elim_eq_ok_iff, Except.ok.injEq]
    apply Iff.intro
    · intro ⟨field, ⟨hfield, heq⟩, w, hw, htext⟩
      subst heq
      exact ⟨w, hw, hfield, htext.symm⟩
    · intro ⟨w, hw, hfield, htext⟩
      exact ⟨e.field, ⟨hfield, rfl⟩, w, hw, htext.symm⟩

theorem Order.printRest_cons_eq_ok_iff {previous : String} {e : OrderEntry}
    {es : List OrderEntry} :
    printRest v previous (e :: es) = .ok text ↔ ∃ d entry more, v.delimiterKeyword? = some d ∧
      printEntry v e = .ok entry ∧ printRest v entry es = .ok more ∧
      text = separator previous d ++ entry ++ more := by
  rw [printRest]
  simp only [bind_eq_ok_iff, elim_eq_ok_iff, Except.ok.injEq]
  apply Iff.intro
  · intro ⟨d, hd, entry, hentry, more, hmore, htext⟩
    exact ⟨d, entry, more, hd, hentry, hmore, htext.symm⟩
  · intro ⟨d, entry, more, hd, hentry, hmore, htext⟩
    exact ⟨d, hd, entry, hentry, more, hmore, htext.symm⟩

theorem Order.print_cons_eq_ok_iff {e : OrderEntry} {es : List OrderEntry} :
    print v (e :: es) = .ok text ↔ ∃ entry more, printEntry v e = .ok entry ∧
      printRest v entry es = .ok more ∧ text = entry ++ more := by
  rw [print]
  simp only [bind_eq_ok_iff, Except.ok.injEq]
  apply Iff.intro
  · intro ⟨entry, hentry, more, hmore, htext⟩
    exact ⟨entry, more, hentry, hmore, htext.symm⟩
  · intro ⟨entry, more, hentry, hmore, htext⟩
    exact ⟨entry, hentry, more, hmore, htext.symm⟩

end RowQuery
