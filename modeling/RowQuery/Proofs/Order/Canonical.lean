import RowQuery.Proofs.Order.Acceptance
import RowQuery.Proofs.Print.Success
import RowQuery.Proofs.Vocabulary.Reverse

/-! Order lists are read by their grammar alone, and whatever list has been read can be written
again: the words it was read from say all that has to be said. -/

namespace RowQuery.Order

variable {v : Vocabulary} {ts : List Token} {e : OrderEntry} {es : List OrderEntry}

theorem IsEntry.exists_print (h : IsEntry v ts e)
    (hwords : ∀ w, .word w ∈ ts → isSingleWord w = true) :
    ∃ text, printEntry v e = .ok text := by
  cases h with
  | bare field =>
    exact ⟨field, printEntry_eq_ok_iff.mpr ⟨field, rfl, hwords field (by simp), rfl⟩⟩
  | @directed field w d hd =>
    have hfield := hwords field (by simp)
    cases d with
    | ascending => exact ⟨field, printEntry_eq_ok_iff.mpr ⟨field, rfl, hfield, rfl⟩⟩
    | descending =>
      obtain ⟨k, hk⟩ := Vocabulary.exists_directionKeyword? hd (hwords w (by simp))
      exact ⟨_, printEntry_eq_ok_iff.mpr ⟨k, hk, hfield, rfl⟩⟩

theorem IsList.exists_print (h : IsList v ts es)
    (hwords : ∀ w, .word w ∈ ts → isSingleWord w = true) : ∃ text, print v es = .ok text := by
  induction h with
  | one h =>
    obtain ⟨entry, hentry⟩ := h.exists_print hwords
    exact ⟨_, print_cons_eq_ok_iff.mpr ⟨entry, "", hentry, rfl, rfl⟩⟩
  | @cons ts us e es w h hw _ more ih =>
    obtain ⟨entry, hentry⟩ := h.exists_print fun w hw => hwords w (by simp [hw])
    obtain ⟨d, hd⟩ := Vocabulary.exists_delimiterKeyword? hw (hwords w (by simp))
    obtain ⟨rest, hrest⟩ := ih fun w hw => hwords w (by simp [hw])
    cases es with
    | nil => exact absurd rfl more.ne_nil
    | cons e' es =>
      obtain ⟨entry', more', hentry', hmore', -⟩ := print_cons_eq_ok_iff.mp hrest
      have hbehind : printRest v entry (e' :: es) = .ok (separator entry d ++ entry' ++ more') :=
        printRest_cons_eq_ok_iff.mpr ⟨d, entry', more', hd, hentry', hmore', rfl⟩
      exact ⟨_, print_cons_eq_ok_iff.mpr ⟨entry, _, hentry, hbehind, rfl⟩⟩

theorem exists_print_of_parse {text : String} (h : parse v text = .ok es) :
    ∃ printed, print v es = .ok printed := by
  rcases parse_eq_ok_iff.mp h with ⟨-, rfl⟩ | hlist
  · exact ⟨"", rfl⟩
  · exact hlist.exists_print fun w hw => Token.isSingleWord_of_mem_ofText hw

/-- A text is an order list exactly if it has no tokens, or if its tokens are entries joined by
delimiters, and then it is that list. Every list that can be read can be written. -/
theorem parse_ok_iff_list (v : Vocabulary) (text : String) (l : List OrderEntry) :
    (parse v text = .ok l ↔
      Token.ofText text = [] ∧ l = [] ∨ IsList v (Token.ofText text) l) ∧
    (parse v text = .ok l → ∃ printed, print v l = .ok printed) :=
  ⟨parse_eq_ok_iff, exists_print_of_parse⟩

/-- Directly behind a field the word is a direction; behind that, or behind a direction, it is a
delimiter. -/
theorem parse_ok_of_list_with_two_roles :
    let v := (Vocabulary.empty false).withDirection "asc" .ascending
      |>.withDirection "desc" .descending |>.withDelimiter "asc"
    let l : List OrderEntry := [⟨"a", false⟩, ⟨"asc", true⟩, ⟨"b", false⟩]
    parse v "a asc asc asc desc asc b" = .ok l ∧ ∃ printed, print v l = .ok printed := by
  intro v l
  have htokens : Token.ofText "a asc asc asc desc asc b" =
      [.word "a", .word "asc"] ++ .word "asc" ::
        ([.word "asc", .word "desc"] ++ .word "asc" :: [.word "b"]) := by decide +kernel
  have hdelimiter : v.isDelimiter "asc" = true := by decide +kernel
  have hasc : v.direction? "asc" = some .ascending := by decide +kernel
  have hdesc : v.direction? "desc" = some .descending := by decide +kernel
  have hlist : IsList v (Token.ofText "a asc asc asc desc asc b") l := by
    rw [htokens]
    refine .cons (.directed "a" hasc) hdelimiter nofun ?_
    exact .cons (.directed "asc" hdesc) hdelimiter nofun (.one (.bare "b"))
  have hparse := (parse_ok_iff_list v _ l).1.2 (.inr hlist)
  exact ⟨hparse, (parse_ok_iff_list v _ l).2 hparse⟩

end RowQuery.Order
