import RowQuery.Proofs.Order.RoundTrip

/-! What keeps a written list from being read back, entry by entry: a delimiter that is a direction
behind an entry without one, and a delimiter of nothing but `@` and `_` behind an entry that does
not end in a symbol. -/

namespace RowQuery.Order

variable {v : Vocabulary} {e : OrderEntry} {l : List OrderEntry} {d w text : String}

/-- As it is written, the entry has a last character, and that is no symbol. -/
def EndsPlain (v : Vocabulary) (e : OrderEntry) : Prop :=
  ∃ text c, printEntry v e = .ok text ∧ text.toList.getLast? = some c ∧ isSymbolChar c = false

private theorem isSymbolChar_getLast?_iff (hw : isSingleWord w = true) :
    (∃ c, w.toList.getLast? = some c ∧ isSymbolChar c = false) ↔
      ∀ c ∈ w.toList, isSymbolChar c = false := by
  apply Iff.intro
  · intro ⟨c, hlast, hplain⟩
    rcases (isSingleWord_iff.mp hw).letters_or_symbols with hletters | hsymbols
    · intro d hd
      exact isSymbolChar_eq_false_of_isWordChar (hletters d hd)
    · rw [hsymbols c (List.mem_of_getLast? hlast)] at hplain
      cases hplain
  · intro h
    have hne := (isSingleWord_iff.mp hw).ne_nil
    exact ⟨_, List.getLast?_eq_some_getLast hne, h _ (List.getLast_mem hne)⟩

private theorem getLast?_printEntry (h : printEntry v e = .ok text) (hs : WrittenAs v e text w) :
    text.toList.getLast? = w.toList.getLast? := by
  obtain ⟨w', hlast, -, rfl⟩ := printEntry_eq_ok_iff.mp h
  rw [hs.last] at hlast
  cases hlast
  have hlastChar := List.getLast?_eq_some_getLast (isSingleWord_iff.mp hs.word).ne_nil
  cases e.descending with
  | false => rfl
  | true => simp only [if_true, String.toList_append, List.getLast?_append, hlastChar, Option.some_or]

theorem endsPlain_iff (h : printEntry v e = .ok text) (hs : WrittenAs v e text w) :
    EndsPlain v e ↔ ∀ c ∈ w.toList, isSymbolChar c = false := by
  rw [← isSymbolChar_getLast?_iff hs.word, ← getLast?_printEntry h hs]
  simp [EndsPlain, h]

theorem separates_iff_unobstructed (h : printEntry v e = .ok text) :
    Separates v d e ↔
      ¬ ((v.direction? d).isSome = true ∧ e.descending = false) ∧
      ¬ ((∀ c ∈ d.toList, c = '@' ∨ c = '_') ∧ EndsPlain v e) := by
  obtain ⟨w, hs⟩ := exists_writtenAs h
  have hapart : Apart w d ↔ ¬ ((∀ c ∈ d.toList, c = '@' ∨ c = '_') ∧ EndsPlain v e) := by
    rw [endsPlain_iff h hs, and_comm, ← not_apart_iff, Classical.not_not]
  rw [hs.separates_iff, hapart, and_comm]
  apply and_congr_left'
  cases e.descending <;> simp

private theorem exists_printEntry_of_printRest {previous more : String}
    (h : printRest v previous l = .ok more) : ∀ e ∈ l, ∃ text, printEntry v e = .ok text := by
  induction l generalizing previous more with
  | nil => simp
  | cons e l ih =>
    obtain ⟨d, entry, rest, -, hentry, hrest, -⟩ := printRest_cons_eq_ok_iff.mp h
    exact List.forall_mem_cons.2 ⟨⟨entry, hentry⟩, ih hrest⟩

theorem exists_printEntry_of_print (h : print v l = .ok text) :
    ∀ e ∈ l, ∃ text, printEntry v e = .ok text := by
  cases l with
  | nil => simp
  | cons e l =>
    obtain ⟨entry, more, hentry, hmore, -⟩ := print_cons_eq_ok_iff.mp h
    exact List.forall_mem_cons.2 ⟨⟨entry, hentry⟩, exists_printEntry_of_printRest hmore⟩

theorem forall_separates_iff (h : print v l = .ok text) (d : String) :
    (∀ e ∈ l.dropLast, Separates v d e) ↔
      ¬ ((v.direction? d).isSome = true ∧ ∃ e ∈ l.dropLast, e.descending = false) ∧
      ¬ ((∀ c ∈ d.toList, c = '@' ∨ c = '_') ∧ ∃ e ∈ l.dropLast, EndsPlain v e) := by
  have hentry : ∀ e ∈ l.dropLast, (Separates v d e ↔
      ¬ ((v.direction? d).isSome = true ∧ e.descending = false) ∧
      ¬ ((∀ c ∈ d.toList, c = '@' ∨ c = '_') ∧ EndsPlain v e)) := by
    intro e he
    obtain ⟨entry, hprinted⟩ := exists_printEntry_of_print h e (List.dropLast_subset l he)
    exact separates_iff_unobstructed hprinted
  rw [forall₂_congr hentry]
  apply Iff.intro
  · intro hall
    refine ⟨?_, ?_⟩
    · intro ⟨hdirection, e, he, hbare⟩
      exact (hall e he).1 ⟨hdirection, hbare⟩
    · intro ⟨hsigns, e, he, hplain⟩
      exact (hall e he).2 ⟨hsigns, hplain⟩
  · intro ⟨hunread, hapart⟩ e he
    refine ⟨?_, ?_⟩
    · intro ⟨hdirection, hbare⟩
      exact hunread ⟨hdirection, e, he, hbare⟩
    · intro ⟨hsigns, hplain⟩
      exact hapart ⟨hsigns, e, he, hplain⟩

/-- A written list is read back exactly if neither obstacle stands behind an entry but the last. One
entry alone has nothing behind it. -/
theorem parse_print_iff_unobstructed (h : print v l = .ok text) :
    (parse v text = .ok l ↔ ∀ d ∈ v.delimiterKeyword?,
      ¬ ((v.direction? d).isSome = true ∧ ∃ e ∈ l.dropLast, e.descending = false) ∧
      ¬ ((∀ c ∈ d.toList, c = '@' ∨ c = '_') ∧ ∃ e ∈ l.dropLast, EndsPlain v e)) ∧
    (l.length ≤ 1 → parse v text = .ok l) := by
  have hread := parse_print_eq_ok_iff h
  refine ⟨?_, fun hshort => ?_⟩
  · rw [hread]
    exact forall₂_congr fun d _ => forall_separates_iff h d
  · have hlone : l.dropLast = [] := by
      rw [← List.length_eq_zero_iff, List.length_dropLast]
      omega
    rw [hread, hlone]
    simp

/-- Behind a direction even a word that is one too is read as the delimiter, and behind a symbol an
underscore is. Behind a bare field of letters both obstacles are met. -/
theorem parse_print_behind_symbolic_direction :
    let v := (Vocabulary.empty false).withDirection ">" .descending
      |>.withDirection "_" .ascending |>.withDelimiter "_"
    let read : List OrderEntry := [⟨"A", true⟩, ⟨"B", false⟩]
    let lost : List OrderEntry := [⟨"A", false⟩, ⟨"B", false⟩]
    (print v read = .ok "A > _ B" ∧ parse v "A > _ B" = .ok read) ∧
      print v lost = .ok "A_ B" ∧ parse v "A_ B" ≠ .ok lost ∧
      parse v "A" = .ok [⟨"A", false⟩] := by
  intro v read lost
  have hread : print v read = .ok "A > _ B" := by decide +kernel
  have hlost : print v lost = .ok "A_ B" := by decide +kernel
  have hlone : print v [⟨"A", false⟩] = .ok "A" := by decide +kernel
  have hd : v.delimiterKeyword? = some "_" := by decide +kernel
  refine ⟨⟨hread, (parse_print_iff_unobstructed hread).1.2 fun d hchosen => ?_⟩, hlost, fun h => ?_,
    (parse_print_iff_unobstructed hlone).2 (by simp)⟩
  · rw [hd] at hchosen
    cases hchosen
    refine ⟨by simp [read], ?_⟩
    rintro ⟨-, e, he, text, c, htext, hlast, hplain⟩
    have he : e = ⟨"A", true⟩ := by simpa [read] using he
    have hentry : printEntry v ⟨"A", true⟩ = .ok "A >" := by decide +kernel
    rw [he, hentry] at htext
    cases htext
    have hc : c = '>' := by simpa using hlast.symm
    rw [hc] at hplain
    exact absurd hplain (by decide +kernel)
  · apply ((parse_print_iff_unobstructed hlost).1.1 h "_" hd).1
    exact ⟨by decide +kernel, ⟨"A", false⟩, by simp [lost], rfl⟩

end RowQuery.Order
