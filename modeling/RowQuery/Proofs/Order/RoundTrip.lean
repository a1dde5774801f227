import RowQuery.Proofs.Order.Acceptance
import RowQuery.Proofs.Order.Separator
import RowQuery.Proofs.Print.Success
import RowQuery.Proofs.Vocabulary.Reverse

/-! Which order lists read back as themselves. A writer leaves out every direction it can, so that a
list is written with no token to spare: it is read back only if each of its delimiters is. -/

namespace RowQuery.Order

/-- Behind the entry `e`, the delimiter `d` is a word of its own and is read as nothing else. -/
structure Separates (v : Vocabulary) (d : String) (e : OrderEntry) : Prop where
  apart : ∀ w ∈ lastWord? v e, Apart w d
  unread : e.descending = true ∨ v.direction? d = none

def lead (e : OrderEntry) : List Token :=
  if e.descending then [.word e.field] else []

/-- The fewest tokens that a list can have, if a delimiter stood behind its last entry too. -/
def weight : List OrderEntry → Nat
  | [] => 0
  | e :: es => (lead e).length + 2 + weight es

variable {v : Vocabulary} {e : OrderEntry} {es : List OrderEntry} {ts us : List Token}

theorem IsEntry.length_le (h : IsEntry v ts e) : (lead e).length + 1 ≤ ts.length := by
  cases h with
  | bare field => simp [lead]
  | directed field =>
    unfold lead
    split <;> simp

theorem IsList.weight_le (h : IsList v ts es) : weight es ≤ ts.length + 1 := by
  induction h with
  | one h =>
    have hentry := h.length_le
    simp only [weight]
    omega
  | cons h _ _ _ ih =>
    have hentry := h.length_le
    simp only [weight, List.length_append, List.length_cons]
    omega

/-- An entry as it is written: the tokens in front of its last word, and that word, which alone
meets what is written behind. -/
structure WrittenAs (v : Vocabulary) (e : OrderEntry) (text w : String) : Prop where
  last : lastWord? v e = some w
  word : isSingleWord w = true
  entry : IsEntry v (lead e ++ [.word w]) e
  tokens : ∀ rest, Token.ofChars (text.toList ++ rest) =
    lead e ++ Token.ofChars (w.toList ++ rest)
  ending : ∀ d, separator text d = separator w d

theorem exists_writtenAs {text : String} (h : printEntry v e = .ok text) :
    ∃ w, WrittenAs v e text w := by
  obtain ⟨w, hlast, hfield, rfl⟩ := printEntry_eq_ok_iff.mp h
  obtain ⟨field, descending⟩ := e
  refine ⟨w, ?_⟩
  cases descending with
  | false =>
    cases hlast
    exact ⟨rfl, hfield, .bare field, fun _ => rfl, fun _ => rfl⟩
  | true =>
    have hw := Vocabulary.direction?_of_directionKeyword? hlast
    refine ⟨hlast, hw.2, .directed field hw.1, ?_, fun d => separator_append _ hw.2⟩
    intro rest
    have htext : (field ++ " " ++ w).toList ++ rest =
        field.toList ++ ' ' :: (w.toList ++ rest) := by simp
    rw [if_pos rfl, htext, Token.ofChars_word_space hfield]
    rfl

theorem WrittenAs.ofChars_text {text w : String} (h : WrittenAs v e text w) :
    Token.ofChars text.toList = lead e ++ [.word w] := by
  have htokens := h.tokens []
  rw [Token.ofChars_word (isSingleWord_iff.mp h.word) breaks_nil] at htokens
  simpa using htokens

theorem WrittenAs.ofChars_of_apart {text w d : String} (h : WrittenAs v e text w)
    (hd : isSingleWord d = true) (hapart : Apart w d) (rest : List Char) :
    Token.ofChars (text.toList ++ ((separator text d).toList ++ rest)) =
      lead e ++ [.word w] ++ .word d :: Token.ofChars rest := by
  rw [h.tokens, h.ending, Order.ofChars_of_apart h.word hd hapart, List.append_assoc]
  rfl

theorem WrittenAs.ofChars_of_not_apart {text w d : String} (h : WrittenAs v e text w)
    (hapart : ¬ Apart w d) (rest : List Char) :
    Token.ofChars (text.toList ++ ((separator text d).toList ++ rest)) =
      lead e ++ .word (w ++ d) :: Token.ofChars rest := by
  rw [h.tokens, h.ending, Order.ofChars_of_not_apart h.word hapart]

theorem WrittenAs.separates_iff {text w d : String} (h : WrittenAs v e text w) :
    Separates v d e ↔ Apart w d ∧ (e.descending = true ∨ v.direction? d = none) := by
  apply Iff.intro
  · intro hsep
    exact ⟨hsep.apart w h.last, hsep.unread⟩
  · intro ⟨hapart, hunread⟩
    refine ⟨?_, hunread⟩
    intro w' hw'
    rw [h.last] at hw'
    cases hw'
    exact hapart

theorem length_ofChars_le {previous more : String} (h : printEntry v e = .ok previous)
    (hmore : printRest v previous es = .ok more) :
    (Token.ofChars (previous.toList ++ more.toList)).length + 1 ≤ weight (e :: es) := by
  induction es generalizing e previous more with
  | nil =>
    obtain ⟨w, hw⟩ := exists_writtenAs h
    cases hmore
    simp [weight, hw.ofChars_text]
  | cons e' es ih =>
    obtain ⟨w, hw⟩ := exists_writtenAs h
    obtain ⟨d, entry, rest, hd, hentry, hrest, rfl⟩ := printRest_cons_eq_ok_iff.mp hmore
    have hword := (Vocabulary.isDelimiter_of_delimiterKeyword? hd).2
    have hlength := ih hentry hrest
    rw [weight, String.toList_append, String.toList_append, List.append_assoc]
    by_cases hapart : Apart w d
    · rw [hw.ofChars_of_apart hword hapart]
      simp only [List.length_append, List.length_cons, List.length_nil]
      omega
    · rw [hw.ofChars_of_not_apart hapart]
      simp only [List.length_append, List.length_cons]
      omega

/-- As there is no token to spare, every entry is read from the tokens it was written as. -/
theorem isList_append_iff {w d : String} {e' : OrderEntry}
    (hentry : IsEntry v (lead e ++ [.word w]) e) (hd : v.isDelimiter d = true)
    (hus : us.length + 1 ≤ weight (e' :: es)) :
    IsList v (lead e ++ [.word w] ++ .word d :: us) (e :: e' :: es) ↔
      (e.descending = true ∨ v.direction? d = none) ∧ IsList v us (e' :: es) := by
  apply Iff.intro
  · intro h
    generalize hts : lead e ++ [.word w] ++ .word d :: us = ts at h
    cases h with
    | cons h _ hbare more =>
      have hlength := congrArg List.length hts
      have hfirst := h.length_le
      have hrest := more.weight_le
      simp only [List.length_append, List.length_cons, List.length_nil] at hlength
      obtain ⟨hsame, htail⟩ := List.append_inj hts (by simp; omega)
      cases htail
      refine ⟨?_, more⟩
      subst hsame
      cases hdescending : e.descending with
      | true => exact .inl rfl
      | false => exact .inr (hbare (by simp [lead, hdescending]))
  · intro ⟨hunread, more⟩
    refine .cons hentry hd ?_ more
    intro hbare
    apply hunread.resolve_left
    intro hdescending
    simp [lead, hdescending] at hbare

theorem isList_iff {previous more : String} (h : printEntry v e = .ok previous)
    (hmore : printRest v previous es = .ok more) :
    IsList v (Token.ofChars (previous.toList ++ more.toList)) (e :: es) ↔
      ∀ d ∈ v.delimiterKeyword?, ∀ x ∈ (e :: es).dropLast, Separates v d x := by
  induction es generalizing e previous more with
  | nil =>
    obtain ⟨w, hw⟩ := exists_writtenAs h
    cases hmore
    have htokens : Token.ofChars (previous.toList ++ "".toList) = lead e ++ [.word w] := by
      simp [hw.ofChars_text]
    rw [htokens]
    simp [IsList.one hw.entry]
  | cons e' es ih =>
    obtain ⟨w, hw⟩ := exists_writtenAs h
    obtain ⟨d, entry, rest, hd, hentry, hrest, rfl⟩ := printRest_cons_eq_ok_iff.mp hmore
    have hdelimiter := Vocabulary.isDelimiter_of_delimiterKeyword? hd
    have hlength := length_ofChars_le hentry hrest
    have hsplit : (∀ d ∈ v.delimiterKeyword?, ∀ x ∈ (e :: e' :: es).dropLast, Separates v d x) ↔
        Separates v d e ∧
          ∀ d ∈ v.delimiterKeyword?, ∀ x ∈ (e' :: es).dropLast, Separates v d x := by
      simp [hd]
    rw [hsplit, ← ih hentry hrest, hw.separates_iff, String.toList_append, String.toList_append,
      List.append_assoc]
    by_cases hapart : Apart w d
    · rw [hw.ofChars_of_apart hdelimiter.2 hapart,
        isList_append_iff hw.entry hdelimiter.1 hlength]
      simp [hapart]
    · rw [hw.ofChars_of_not_apart hapart]
      -- the delimiter that was lost is missing in the count
      have hshort : ¬ IsList v (lead e ++ .word (w ++ d) ::
          Token.ofChars (entry.toList ++ rest.toList)) (e :: e' :: es) := by
        intro hlist
        have hweight := hlist.weight_le
        rw [weight, List.length_append, List.length_cons] at hweight
        omega
      simp [hapart, hshort]

theorem parse_print_eq_ok_iff {l : List OrderEntry} {text : String} (h : print v l = .ok text) :
    parse v text = .ok l ↔ ∀ d ∈ v.delimiterKeyword?, ∀ e ∈ l.dropLast, Separates v d e := by
  cases l with
  | nil =>
    cases h
    simp [parse_eq_ok_iff, Token.ofText_eq_ofChars]
  | cons e es =>
    obtain ⟨entry, more, hentry, hmore, rfl⟩ := print_cons_eq_ok_iff.mp h
    rw [← isList_iff hentry hmore, parse_eq_ok_iff, Token.ofText_eq_ofChars, String.toList_append]
    simp

private theorem exists_print_pair {d : String} (hd : v.delimiterKeyword? = some d) :
    ∃ text, print v [⟨"a", false⟩, ⟨"a", false⟩] = .ok text := by
  have hentry : printEntry v ⟨"a", false⟩ = .ok "a" :=
    printEntry_eq_ok_iff.mpr ⟨"a", rfl, by decide +kernel, rfl⟩
  have hrest : printRest v "a" [⟨"a", false⟩] = .ok (separator "a" d ++ "a" ++ "") :=
    printRest_cons_eq_ok_iff.mpr ⟨d, "a", "", hd, hentry, rfl, rfl⟩
  exact ⟨_, print_cons_eq_ok_iff.mpr ⟨"a", _, hentry, hrest, rfl⟩⟩

/-- A list that could be written is read back exactly if the delimiter separates all its entries.
So every list is read back exactly if the delimiter is no direction, and has another character than
the two that count as letters without being any. -/
theorem parse_print_iff (v : Vocabulary) :
    (∀ l text, print v l = .ok text → (parse v text = .ok l ↔
      ∀ d ∈ v.delimiterKeyword?, ∀ e ∈ l.dropLast, Separates v d e)) ∧
    ((∀ l text, print v l = .ok text → parse v text = .ok l) ↔
      ∀ d ∈ v.delimiterKeyword?, v.direction? d = none ∧ ∃ c ∈ d.toList, c ≠ '@' ∧ c ≠ '_') := by
  refine ⟨fun l text => parse_print_eq_ok_iff, ?_⟩
  apply Iff.intro
  · intro h d hd
    obtain ⟨text, hprint⟩ := exists_print_pair hd
    have hsep := (parse_print_eq_ok_iff hprint).1 (h _ _ hprint) d hd ⟨"a", false⟩ (by simp)
    refine ⟨hsep.unread.resolve_left nofun, (hsep.apart "a" rfl).resolve_left ?_⟩
    intro ⟨c, hc, hsymbol⟩
    have hfield : c = 'a' := by simpa using hc
    subst hfield
    exact absurd hsymbol (by decide +kernel)
  · intro h l text hprint
    apply (parse_print_eq_ok_iff hprint).2
    intro d hd e _
    obtain ⟨hdirection, hletter⟩ := h d hd
    exact ⟨fun w _ => .inr hletter, .inr hdirection⟩

theorem parse_print_preset :
    let entries : List OrderEntry := [⟨"Date", true⟩, ⟨"!", false⟩, ⟨"Price", false⟩]
    print .preset entries = .ok "Date desc, ! , Price" ∧
      parse .preset "Date desc, ! , Price" = .ok entries := by
  intro entries
  have hprint : print .preset entries = .ok "Date desc, ! , Price" := by decide +kernel
  have hcomma : Vocabulary.preset.delimiterKeyword? = some "," := by decide +kernel
  refine ⟨hprint, (parse_print_iff .preset).2.2 ?_ _ _ hprint⟩
  intro d hd
  rw [hcomma] at hd
  cases hd
  exact ⟨by decide +kernel, ',', by decide, by decide⟩

/-- The underscore is taken for a symbol by the writer and for a letter by the reader. A word that
is a direction and the delimiter is read as a direction. -/
theorem parse_print_lost_delimiter :
    let entries : List OrderEntry := [⟨"A", false⟩, ⟨"B", false⟩]
    let merged := (Vocabulary.empty false).withDelimiter "_"
    let shared := (Vocabulary.empty false).withDirection "asc" .ascending |>.withDelimiter "asc"
    (print merged entries = .ok "A_ B" ∧
      parse merged "A_ B" = .error (.unresolvedKeyword .orderDelimiter "B" 3)) ∧
    (print shared entries = .ok "A asc B" ∧
      parse shared "A asc B" = .error (.unresolvedKeyword .orderDelimiter "B" 6)) := by
  decide +kernel

end RowQuery.Order
