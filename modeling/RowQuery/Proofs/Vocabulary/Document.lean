import RowQuery.Proofs.Vocabulary.History
import RowQuery.Vocabulary.Document

/-! Vocabularies from documents. A document is refused for the first of its words that is no single
word. Otherwise the greatest of the keys that match a word tells its meaning, in whatever order the
document has them. -/

namespace RowQuery

namespace Vocabulary

def wordsOf (v : Vocabulary) : Part → List String
  | .connectives => v.connectives.words
  | .operators => v.operators.words
  | .directions => v.directions.words
  | .delimiters => v.delimiters.words

theorem wordsOf_call_of_ne (v : Vocabulary) {call : Call} {part : Part} (h : call.part ≠ part) :
    (v.call call).wordsOf part = v.wordsOf part := by
  cases call <;> cases part <;> first | rfl | exact absurd rfl h

theorem mem_wordsOf_call {v : Vocabulary} {call : Call} {part : Part} {w : String}
    (h : w ∈ (v.call call).wordsOf part) :
    w = spell v.caseSensitive call.word ∨ w ∈ v.wordsOf part := by
  by_cases hpart : call.part = part
  · subst hpart
    cases call <;> exact Keywords.mem_words_insert h
  · rw [wordsOf_call_of_ne v hpart] at h
    exact .inr h

theorem mem_wordsOf_ofCalls {caseSensitive : Bool} {calls : List Call} {part : Part} {w : String}
    (h : w ∈ (ofCalls caseSensitive calls).wordsOf part) :
    ∃ call ∈ calls, w = spell caseSensitive call.word := by
  induction calls using List.reverseRecOn with
  | nil => cases part <;> cases h
  | append_singleton calls last ih =>
    rw [ofCalls_append_singleton] at h
    rcases mem_wordsOf_call h with hw | h
    · rw [caseSensitive_ofCalls] at hw
      exact ⟨last, by simp, hw⟩
    · obtain ⟨call, hcall, hw⟩ := ih h
      exact ⟨call, by simp [hcall], hw⟩

/-- The meaning under the greatest key that matches a word, if any key does. -/
def GreatestMatch {α : Type} (caseSensitive : Bool) (keywords : Keywords α) (w : String) :
    Option α → Prop
  | some meaning => ∃ k, (k, meaning) ∈ keywords.entries ∧ SameWord caseSensitive k w ∧
      ∀ k' ∈ keywords.words, SameWord caseSensitive k' w → k' ≤ k
  | none => ∀ k ∈ keywords.words, ¬ SameWord caseSensitive k w

theorem GreatestMatch.unique {α : Type} {caseSensitive : Bool} {keywords : Keywords α} {w : String}
    {x y : Option α} (hx : GreatestMatch caseSensitive keywords w x)
    (hy : GreatestMatch caseSensitive keywords w y) : x = y := by
  have hmem : ∀ {k : String} {meaning : α}, (k, meaning) ∈ keywords.entries → k ∈ keywords.words :=
    fun h => List.mem_map_of_mem h
  cases x with
  | none =>
    cases y with
    | none => rfl
    | some meaning =>
      obtain ⟨k, hk, hsame, -⟩ := hy
      exact absurd hsame (hx k (hmem hk))
  | some meaning =>
    obtain ⟨k, hk, hsame, hgreatest⟩ := hx
    cases y with
    | none => exact absurd hsame (hy k (hmem hk))
    | some meaning' =>
      obtain ⟨k', hk', hsame', hgreatest'⟩ := hy
      have heq : k = k' := String.le_antisymm (hgreatest' k (hmem hk) hsame)
        (hgreatest k' (hmem hk') hsame')
      rw [← Keywords.get?_eq_some_iff] at hk hk'
      rw [← hk, ← hk', heq]

namespace Source

def calls (s : Source) : List Call :=
  s.connectives.entries.map (fun e => .connective e.1 e.2) ++
    s.operators.entries.map (fun e => .operator e.1 e.2) ++
    s.directions.entries.map (fun e => .direction e.1 e.2) ++ s.delimiters.map .delimiter

variable {s : Source} {k w : String}

theorem map_word_calls (s : Source) : s.calls.map Call.word = s.words := by
  have hdelimiters : Call.word ∘ Call.delimiter = id := rfl
  simp only [calls, words, Keywords.words, List.map_append, List.map_map, hdelimiters, List.map_id]
  rfl

theorem ascending_calls (s : Source) :
    s.calls.Pairwise fun a b => a.part = b.part → a.part ≠ .delimiters → a.word < b.word := by
  simp only [calls, List.pairwise_append, List.pairwise_map, List.mem_append, List.mem_map]
  -- Calls for different tables have nothing to do with each other.
  refine ⟨⟨⟨?_, ?_, ?_⟩, ?_, ?_⟩, ?_, ?_⟩
  · exact s.connectives.ascending.imp fun h _ _ => h
  · exact s.operators.ascending.imp fun h _ _ => h
  · rintro _ ⟨_, _, rfl⟩ _ ⟨_, _, rfl⟩ hpart
    cases hpart
  · exact s.directions.ascending.imp fun h _ _ => h
  · rintro _ (⟨_, _, rfl⟩ | ⟨_, _, rfl⟩) _ ⟨_, _, rfl⟩ hpart <;> cases hpart
  · exact List.pairwise_of_forall fun _ _ _ hnot => absurd rfl hnot
  · rintro _ ((⟨_, _, rfl⟩ | ⟨_, _, rfl⟩) | ⟨_, _, rfl⟩) _ ⟨_, _, rfl⟩ hpart <;> cases hpart

theorem ofSource_eq (s : Source) : ofSource s =
    match s.words.find? fun w => !isSingleWord w with
    | some keyword => .error (.invalidKeyword keyword)
    | none => .ok (ofCalls s.caseSensitive s.calls) := by
  have hcalls : ofCalls s.caseSensitive s.calls = (empty s.caseSensitive
      |>.withConnectives s.connectives.entries
      |>.withOperators s.operators.entries
      |>.withDirections s.directions.entries
      |>.withDelimiters s.delimiters) := by
    simp only [ofCalls, calls, List.foldl_append, List.foldl_map]
    rfl
  rw [hcalls]
  rfl

/-- Of the calls that match a word the last is the one for the greatest key. -/
theorem greatestMatch_ofCalls {α : Type} {make : String → α → Call}
    {lookup : Vocabulary → String → Option α} (h : Answers make lookup) {part : Part}
    (hpart : ∀ k meaning, (make k meaning).part = part) (hne : part ≠ .delimiters)
    {keywords : Keywords α}
    (hmem : ∀ k meaning, make k meaning ∈ s.calls ↔ (k, meaning) ∈ keywords.entries) (w : String) :
    GreatestMatch s.caseSensitive keywords w (lookup (ofCalls s.caseSensitive s.calls) w) := by
  have hlast := h.lastGiven s.caseSensitive s.calls w
  cases hlookup : lookup (ofCalls s.caseSensitive s.calls) w with
  | none =>
    rw [hlookup] at hlast
    intro k hk
    obtain ⟨⟨k, meaning⟩, hentry, rfl⟩ := List.mem_map.1 hk
    exact hlast k meaning ((hmem k meaning).2 hentry)
  | some meaning =>
    rw [hlookup] at hlast
    obtain ⟨before, k, after, hcalls, hsame, hafter⟩ := hlast
    have hascending := s.ascending_calls
    rw [hcalls] at hascending
    refine ⟨k, (hmem k meaning).1 (by simp [hcalls]), hsame, fun k' hk' hsame' => ?_⟩
    obtain ⟨⟨k', meaning'⟩, hentry, rfl⟩ := List.mem_map.1 hk'
    have hcall := (hmem k' meaning').2 hentry
    rw [hcalls, List.mem_append, List.mem_cons] at hcall
    rcases hcall with hcall | hcall | hcall
    · have hlt := (List.pairwise_append.1 hascending).2.2 _ hcall _ List.mem_cons_self
        (by rw [hpart, hpart]) (by rwa [hpart])
      rw [h.word, h.word] at hlt
      exact String.not_lt.1 fun hgt => String.lt_irrefl k (String.lt_trans hgt hlt)
    · have hword : k' = k := by rw [← h.word k' meaning', hcall, h.word]
      exact hword ▸ String.le_refl k'
    · exact absurd hsame' (hafter k' meaning' hcall)

structure LeastFaulty {α : Type} (keywords : Keywords α) (k : String) : Prop where
  mem : k ∈ keywords.words
  faulty : Token.ofText k ≠ [.word k]
  least : ∀ w ∈ keywords.words, Token.ofText w ≠ [.word w] → k ≤ w

/-- The word that a document is refused for. A table is looked through in ascending order and the
delimiters as they are listed, each only if there is no fault before it. -/
inductive RefusedFor (s : Source) (k : String) : Prop
  | connective (h : LeastFaulty s.connectives k)
  | operator (hconnectives : ∀ w ∈ s.connectives.words, Token.ofText w = [.word w])
      (h : LeastFaulty s.operators k)
  | direction (hconnectives : ∀ w ∈ s.connectives.words, Token.ofText w = [.word w])
      (hoperators : ∀ w ∈ s.operators.words, Token.ofText w = [.word w])
      (h : LeastFaulty s.directions k)
  | delimiter (hconnectives : ∀ w ∈ s.connectives.words, Token.ofText w = [.word w])
      (hoperators : ∀ w ∈ s.operators.words, Token.ofText w = [.word w])
      (hdirections : ∀ w ∈ s.directions.words, Token.ofText w = [.word w])
      {front back : List String} (hlisted : s.delimiters = front ++ k :: back)
      (hfront : ∀ w ∈ front, Token.ofText w = [.word w]) (hfaulty : Token.ofText k ≠ [.word k])

theorem not_isSingleWord_iff : (!isSingleWord w) = true ↔ Token.ofText w ≠ [.word w] := by
  rw [Bool.not_eq_true', ← Bool.not_eq_true, isSingleWord_iff_ofText]

theorem find?_faulty_eq_none_iff {ws : List String} :
    (ws.find? fun w => !isSingleWord w) = none ↔ ∀ w ∈ ws, Token.ofText w = [.word w] := by
  simp only [List.find?_eq_none, not_isSingleWord_iff, not_not]

theorem find?_faulty_eq_some_iff (ws : List String) :
    (ws.find? fun w => !isSingleWord w) = some k ↔ Token.ofText k ≠ [.word k] ∧
      ∃ front back, ws = front ++ k :: back ∧ ∀ w ∈ front, Token.ofText w = [.word w] := by
  rw [List.find?_eq_some_iff_append, not_isSingleWord_iff]
  simp only [Bool.not_not, isSingleWord_iff_ofText]

theorem find?_keys_eq_some_iff {α : Type} (keywords : Keywords α) :
    (keywords.words.find? fun w => !isSingleWord w) = some k ↔ LeastFaulty keywords k := by
  have hascending := keywords.ascending_words
  rw [find?_faulty_eq_some_iff]
  apply Iff.intro
  · rintro ⟨hfaulty, front, back, hwords, hfront⟩
    refine ⟨by simp [hwords], hfaulty, fun w hw hfaulty' => ?_⟩
    rw [hwords] at hw hascending
    rcases List.mem_append.1 hw with hw | hw
    · exact absurd (hfront w hw) hfaulty'
    · exact String.not_lt.1
        (Keywords.not_lt_of_ascending (List.pairwise_append.1 hascending).2.1 w hw)
  · intro h
    obtain ⟨front, back, hwords⟩ := List.append_of_mem h.mem
    refine ⟨h.faulty, front, back, hwords, fun w hw => ?_⟩
    rw [hwords] at hascending
    have hlt := (List.pairwise_append.1 hascending).2.2 w hw k List.mem_cons_self
    apply Decidable.byContradiction
    intro hfaulty
    have hle := h.least w (by simp [hwords, hw]) hfaulty
    exact String.not_lt.2 hle hlt

theorem find?_words_eq_some_iff :
    (s.words.find? fun w => !isSingleWord w) = some k ↔ s.RefusedFor k := by
  simp only [words, List.find?_append, Option.or_eq_some_iff, Option.or_eq_none_iff,
    find?_faulty_eq_none_iff, find?_keys_eq_some_iff, find?_faulty_eq_some_iff s.delimiters]
  apply Iff.intro
  · rintro (((h | ⟨hc, h⟩) | ⟨⟨hc, ho⟩, h⟩) | ⟨⟨⟨hc, ho⟩, hd⟩, hfaulty, _, _, hlisted, hfront⟩)
    · exact .connective h
    · exact .operator hc h
    · exact .direction hc ho h
    · exact .delimiter hc ho hd hlisted hfront hfaulty
  · intro h
    cases h with
    | connective h => exact .inl (.inl (.inl h))
    | operator hc h => exact .inl (.inl (.inr ⟨hc, h⟩))
    | direction hc ho h => exact .inl (.inr ⟨⟨hc, ho⟩, h⟩)
    | delimiter hc ho hd hlisted hfront hfaulty =>
      exact .inr ⟨⟨⟨hc, ho⟩, hd⟩, hfaulty, _, _, hlisted, hfront⟩

structure Gives (s : Source) (v : Vocabulary) : Prop where
  caseSensitive : v.caseSensitive = s.caseSensitive
  connective : ∀ w, GreatestMatch s.caseSensitive s.connectives w (v.connective? w)
  operator : ∀ w, GreatestMatch s.caseSensitive s.operators w (v.operator? w)
  direction : ∀ w, GreatestMatch s.caseSensitive s.directions w (v.direction? w)
  delimiter : ∀ w, v.isDelimiter w = true ↔ ∃ d ∈ s.delimiters, SameWord s.caseSensitive d w
  reads : ∀ part, ∀ w ∈ v.wordsOf part, Token.ofText w = [.word w]

theorem gives_ofCalls (h : ∀ w ∈ s.words, Token.ofText w = [.word w]) :
    s.Gives (ofCalls s.caseSensitive s.calls) where
  caseSensitive := caseSensitive_ofCalls ..
  connective :=
    greatestMatch_ofCalls answers_connective (fun _ _ => rfl) (by decide) (by simp [calls])
  operator :=
    greatestMatch_ofCalls answers_operator (fun _ _ => rfl) (by decide) (by simp [calls])
  direction :=
    greatestMatch_ofCalls answers_direction (fun _ _ => rfl) (by decide) (by simp [calls])
  delimiter := by
    intro w
    rw [isDelimiter_ofCalls_iff]
    simp [calls]
  reads := by
    intro part w hw
    obtain ⟨call, hcall, rfl⟩ := mem_wordsOf_ofCalls hw
    have hword : call.word ∈ s.words := by
      rw [← map_word_calls]
      exact List.mem_map_of_mem hcall
    have hsingle := isSingleWord_iff_ofText.mpr (h _ hword)
    rwa [← isSingleWord_spell s.caseSensitive, isSingleWord_iff_ofText] at hsingle

end Source

/-- A document is refused for the first of its words that does not read as a single word, and is
otherwise a vocabulary, in which a word means what the greatest of the keys that match it says. -/
theorem read_document {text : String} {s : Source}
    (h : (Json.read text).bind Source.ofJson? = some s) :
    ((∃ k, read text = .error (.invalidKeyword k)) ↔ ∃ w ∈ s.words, Token.ofText w ≠ [.word w]) ∧
    (∀ k, read text = .error (.invalidKeyword k) ↔ s.RefusedFor k) ∧
    ((∀ w ∈ s.words, Token.ofText w = [.word w]) → ∃ v, read text = .ok v ∧ s.Gives v) := by
  have hread : read text = ofSource s := by
    rw [read, h]
  have hrefused : ∀ k, read text = .error (.invalidKeyword k) ↔
      (s.words.find? fun w => !isSingleWord w) = some k := by
    intro k
    rw [hread, s.ofSource_eq]
    cases s.words.find? fun w => !isSingleWord w <;> simp
  refine ⟨?_, fun k => (hrefused k).trans Source.find?_words_eq_some_iff, fun hwords => ?_⟩
  · simp only [hrefused, ← Option.isSome_iff_exists, List.find?_isSome,
      Source.not_isSingleWord_iff]
  · refine ⟨_, ?_, Source.gives_ofCalls hwords⟩
    rw [hread, s.ofSource_eq, Source.find?_faulty_eq_none_iff.mpr hwords]

/-- Of two keys that match a word the one in small letters is the greater. -/
theorem read_document_of_folded_keys :
    let text := "\x7b\"operators\":\x7b\"eq\":\"is_equal_to\",\"EQ\":\"is_not_equal_to\"\x7d\x7d"
    let faulty := "\x7b\"operators\":\x7b\"is like\":\"contains\",\"1\":\"is_equal_to\"\x7d," ++
      "\"order_delimiters\":[\"(\"]\x7d"
    (∃ s v, (Json.read text).bind Source.ofJson? = some s ∧ read text = .ok v ∧ s.Gives v ∧
      v.operator? "eq" = some .isEqualTo) ∧
    read faulty = .error (.invalidKeyword "1") := by
  intro text faulty
  have hdecoded : ((Json.read text).bind Source.ofJson?).map
      (fun s => (s.words, s.operators.entries)) =
      some (["EQ", "eq"], [("EQ", .isNotEqualTo), ("eq", .isEqualTo)]) := by decide +kernel
  have hfaulty : ((Json.read faulty).bind Source.ofJson?).map
      (fun s => (s.connectives.words, s.operators.words)) = some ([], ["1", "is like"]) := by
    decide +kernel
  obtain ⟨s, hs, hparts⟩ := Option.map_eq_some_iff.mp hdecoded
  obtain ⟨s', hs', hparts'⟩ := Option.map_eq_some_iff.mp hfaulty
  simp only [Prod.mk.injEq] at hparts hparts'
  obtain ⟨hwords, hentries⟩ := hparts
  obtain ⟨hconnectives, hoperators⟩ := hparts'
  have hsingle : ∀ w ∈ s.words, Token.ofText w = [.word w] := by
    rw [hwords]
    decide +kernel
  obtain ⟨v, hv, hgives⟩ := (read_document hs).2.2 hsingle
  refine ⟨⟨s, v, hs, hv, hgives, ?_⟩, ?_⟩
  · apply (hgives.operator "eq").unique
    have hkeys : ∀ k ∈ s.operators.words, k ≤ "eq" := by
      rw [Keywords.words, hentries]
      decide
    exact ⟨"eq", by simp [hentries], sameWord_iff.2 rfl, fun k hk _ => hkeys k hk⟩
  · apply ((read_document hs').2.1 "1").2
    apply Source.RefusedFor.operator
    · simp [hconnectives]
    · refine ⟨by simp [hoperators], by decide +kernel, ?_⟩
      rw [hoperators]
      decide +kernel

end Vocabulary

end RowQuery
