import RowQuery.Proofs.Token.Word

/-! Every sequence of tokens that could come from a text does come from one: each token is spelled
out, with a space behind it. -/

namespace RowQuery.Token

def spelled : Token → List Char
  | openGroup => ['(']
  | closeGroup => [')']
  | word w => w.toList
  | number n => n.toList
  | string s => Literal.quote s.toList

theorem ofChars_spelled {t : Token} (h : t.Legible) (rest : List Char) :
    ofChars (t.spelled ++ ' ' :: rest) = t :: ofChars rest := by
  have hspace : Breaks (' ' :: rest) := breaks_cons.2 (.inl (by decide))
  cases t with
  | openGroup => rw [spelled, List.singleton_append, ofChars_openGroup, ofChars_space]
  | closeGroup => rw [spelled, List.singleton_append, ofChars_closeGroup, ofChars_space]
  | word w => rw [spelled, ofChars_word h hspace, ofChars_space, String.ofList_toList]
  | number n =>
    rw [spelled, ofChars_number h hspace.stops_isNumberChar, ofChars_space, String.ofList_toList]
  | string s => rw [spelled, ofChars_quote, ofChars_space, String.ofList_toList]

theorem exists_ofText_eq {ts : List Token} (h : ∀ t ∈ ts, t.Legible) :
    ∃ text, ofText text = ts := by
  induction ts with
  | nil => exact ⟨"", ofChars_nil⟩
  | cons t ts ih =>
    rw [List.forall_mem_cons] at h
    obtain ⟨text, htext⟩ := ih h.2
    refine ⟨String.ofList (t.spelled ++ ' ' :: text.toList), ?_⟩
    rw [ofText_eq_ofChars, String.toList_ofList, ofChars_spelled h.1, ← ofText_eq_ofChars, htext]

end RowQuery.Token
