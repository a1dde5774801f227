import Mathlib.Data.List.Induction
import Mathlib.Data.List.Sort
import RowQuery.Proofs.Vocabulary.Reverse

/-! Vocabularies by what was said to them. A word means what the last call for it said, in whichever
spelling the vocabulary takes for the same, and nothing else is left of the calls. -/

namespace RowQuery

namespace Keywords

variable {α : Type} {keywords others : Keywords α} {caseSensitive : Bool}

theorem eq_of_mem_iff {es fs : List (String × α)} (hes : es.Pairwise fun a b => a.1 < b.1)
    (hfs : fs.Pairwise fun a b => a.1 < b.1) (h : ∀ e, e ∈ es ↔ e ∈ fs) : es = fs := by
  have hirrefl : Std.Irrefl fun a b : String × α => a.1 < b.1 := ⟨fun a => String.lt_irrefl a.1⟩
  have hantisymm : Std.Antisymm fun a b : String × α => a.1 < b.1 :=
    ⟨fun a _ hab hba => absurd (String.lt_trans hab hba) (String.lt_irrefl a.1)⟩
  exact hes.eq_of_mem_iff hfs h

@[ext] theorem ext (h : ∀ w, keywords.get? w = others.get? w) : keywords = others := by
  have hentries : keywords.entries = others.entries := by
    apply eq_of_mem_iff keywords.ascending others.ascending
    rintro ⟨w, meaning⟩
    rw [← get?_eq_some_iff, ← get?_eq_some_iff, h]
  cases keywords
  cases others
  cases hentries
  rfl

theorem insert_comm (keywords : Keywords α) {a b : String} (h : a ≠ b) (x y : α) :
    (keywords.insert a x).insert b y = (keywords.insert b y).insert a x := by
  ext w : 1
  simp only [get?_insert]
  by_cases hb : w = b
  · rw [if_pos hb, if_neg fun ha => h (ha.symm.trans hb), if_pos hb]
  · rw [if_neg hb, if_neg hb]

theorem Spelled.get?_eq_none (hs : keywords.Spelled caseSensitive) {w : String}
    (hw : spell caseSensitive w ≠ w) : keywords.get? w = none := by
  cases h : keywords.get? w with
  | none => rfl
  | some meaning =>
    have hmem : w ∈ keywords.words :=
      List.mem_map.2 ⟨_, (get?_eq_some_iff keywords w meaning).1 h, rfl⟩
    exact absurd (hs w hmem) hw

/-- What is kept under no spelling cannot be looked up, so lookups show everything. -/
theorem Spelled.ext (hs : keywords.Spelled caseSensitive) (hs' : others.Spelled caseSensitive)
    (h : ∀ w, keywords.get? (spell caseSensitive w) = others.get? (spell caseSensitive w)) :
    keywords = others := by
  ext w : 1
  by_cases hw : spell caseSensitive w = w
  · rw [← hw]
    exact h w
  · rw [hs.get?_eq_none hw, hs'.get?_eq_none hw]

theorem contains_eq_iff {keywords others : Keywords Unit} {w : String} :
    keywords.contains w = others.contains w ↔ keywords.get? w = others.get? w := by
  rw [contains, contains]
  cases keywords.get? w <;> cases others.get? w <;> simp

end Keywords

namespace Vocabulary

inductive Part where
  | connectives
  | operators
  | directions
  | delimiters
  deriving DecidableEq, Repr

inductive Call where
  | connective (word : String) (meaning : Connective)
  | operator (word : String) (meaning : Operator)
  | direction (word : String) (meaning : Direction)
  | delimiter (word : String)
  deriving DecidableEq, Repr

def Call.part : Call → Part
  | connective _ _ => .connectives
  | operator _ _ => .operators
  | direction _ _ => .directions
  | delimiter _ => .delimiters

def Call.word : Call → String
  | connective word _ | operator word _ | direction word _ | delimiter word => word

def call (v : Vocabulary) : Call → Vocabulary
  | .connective word meaning => v.withConnective word meaning
  | .operator word meaning => v.withOperator word meaning
  | .direction word meaning => v.withDirection word meaning
  | .delimiter word => v.withDelimiter word

def ofCalls (caseSensitive : Bool) (calls : List Call) : Vocabulary :=
  calls.foldl call (empty caseSensitive)

/-- The words are equal, or would be in lower case if case is of no concern. -/
def SameWord (caseSensitive : Bool) (a b : String) : Prop :=
  if caseSensitive then a = b else foldCase a = foldCase b

theorem sameWord_iff {caseSensitive : Bool} {a b : String} :
    SameWord caseSensitive a b ↔ spell caseSensitive a = spell caseSensitive b := by
  cases caseSensitive <;> rfl

instance (caseSensitive : Bool) (a b : String) : Decidable (SameWord caseSensitive a b) :=
  decidable_of_iff _ sameWord_iff.symm

variable {α : Type} {caseSensitive : Bool} {calls : List Call} {make : String → α → Call}
  {w : String}

/-- The meaning that the last of these calls gave to a word, if any did. -/
def LastGiven (caseSensitive : Bool) (calls : List Call) (make : String → α → Call) (w : String) :
    Option α → Prop
  | some meaning => ∃ before word after, calls = before ++ make word meaning :: after ∧
      SameWord caseSensitive word w ∧
      ∀ word' meaning', make word' meaning' ∈ after → ¬ SameWord caseSensitive word' w
  | none => ∀ word meaning, make word meaning ∈ calls → ¬ SameWord caseSensitive word w

theorem LastGiven.given {word : String} (h : SameWord caseSensitive word w) (calls : List Call)
    (make : String → α → Call) (meaning : α) :
    LastGiven caseSensitive (calls ++ [make word meaning]) make w (some meaning) :=
  ⟨calls, word, [], rfl, h, by simp⟩

theorem LastGiven.passed {last : Call} {x : Option α} (h : LastGiven caseSensitive calls make w x)
    (hlast : ∀ word meaning, last = make word meaning → ¬ SameWord caseSensitive word w) :
    LastGiven caseSensitive (calls ++ [last]) make w x := by
  cases x with
  | some meaning =>
    obtain ⟨before, word, after, rfl, hword, hafter⟩ := h
    refine ⟨before, word, after ++ [last], by simp, hword, fun word' meaning' hmem => ?_⟩
    rcases List.mem_append.1 hmem with hmem | hmem
    · exact hafter word' meaning' hmem
    · exact hlast word' meaning' (List.mem_singleton.1 hmem).symm
  | none =>
    intro word meaning hmem
    rcases List.mem_append.1 hmem with hmem | hmem
    · exact h word meaning hmem
    · exact hlast word meaning (List.mem_singleton.1 hmem).symm

theorem LastGiven.isSome_iff {x : Option α} (h : LastGiven caseSensitive calls make w x) :
    x.isSome = true ↔ ∃ word meaning, make word meaning ∈ calls ∧ SameWord caseSensitive word w := by
  cases x with
  | some meaning =>
    obtain ⟨before, word, after, rfl, hword, -⟩ := h
    simp only [Option.isSome_some, true_iff]
    exact ⟨word, meaning, by simp, hword⟩
  | none =>
    simp only [Option.isSome_none, Bool.false_eq_true, false_iff, not_exists, not_and]
    exact h

/-- A lookup that the calls of one kind answer and no others touch. -/
structure Answers (make : String → α → Call) (lookup : Vocabulary → String → Option α) : Prop where
  word : ∀ word meaning, (make word meaning).word = word
  empty : ∀ caseSensitive w, lookup (.empty caseSensitive) w = none
  given : ∀ (v : Vocabulary) word meaning w, lookup (v.call (make word meaning)) w =
    if spell v.caseSensitive w = spell v.caseSensitive word then some meaning else lookup v w
  other : ∀ (v : Vocabulary) (call : Call), (∀ word meaning, call ≠ make word meaning) →
    lookup (v.call call) = lookup v

@[simp] theorem caseSensitive_call (v : Vocabulary) (call : Call) :
    (v.call call).caseSensitive = v.caseSensitive := by
  cases call <;> rfl

theorem ofCalls_append_singleton (caseSensitive : Bool) (calls : List Call) (last : Call) :
    ofCalls caseSensitive (calls ++ [last]) = (ofCalls caseSensitive calls).call last :=
  List.foldl_append ..

@[simp] theorem caseSensitive_ofCalls (caseSensitive : Bool) (calls : List Call) :
    (ofCalls caseSensitive calls).caseSensitive = caseSensitive := by
  induction calls using List.reverseRecOn with
  | nil => rfl
  | append_singleton calls last ih => rw [ofCalls_append_singleton, caseSensitive_call, ih]

theorem Answers.lastGiven_call {lookup : Vocabulary → String → Option α} (h : Answers make lookup)
    {v : Vocabulary} (hv : v.caseSensitive = caseSensitive)
    (hcalls : LastGiven caseSensitive calls make w (lookup v w)) (last : Call) :
    LastGiven caseSensitive (calls ++ [last]) make w (lookup (v.call last) w) := by
  by_cases hmake : ∃ word meaning, last = make word meaning
  · obtain ⟨word, meaning, rfl⟩ := hmake
    rw [h.given, hv]
    by_cases hw : spell caseSensitive w = spell caseSensitive word
    · rw [if_pos hw]
      exact LastGiven.given (sameWord_iff.2 hw.symm) calls make meaning
    · rw [if_neg hw]
      apply hcalls.passed
      intro word' meaning' hlast hsame
      have hword : word = word' := by rw [← h.word word meaning, hlast, h.word]
      exact hw (sameWord_iff.1 (hword ▸ hsame)).symm
  · have hother : ∀ word meaning, last ≠ make word meaning :=
      fun word meaning hlast => hmake ⟨word, meaning, hlast⟩
    rw [h.other v last hother]
    apply hcalls.passed
    intro word meaning hlast
    exact absurd hlast (hother word meaning)

theorem Answers.lastGiven {lookup : Vocabulary → String → Option α} (h : Answers make lookup)
    (caseSensitive : Bool) (calls : List Call) (w : String) :
    LastGiven caseSensitive calls make w (lookup (ofCalls caseSensitive calls) w) := by
  -- A later call overrides, so the calls are taken away from the end.
  induction calls using List.reverseRecOn with
  | nil =>
    rw [ofCalls, List.foldl_nil, h.empty]
    intro word meaning hmem
    cases hmem
  | append_singleton calls last ih =>
    rw [ofCalls_append_singleton]
    exact h.lastGiven_call (caseSensitive_ofCalls caseSensitive calls) ih last

def delimiter? (v : Vocabulary) (word : String) : Option Unit :=
  v.delimiters.get? (spell v.caseSensitive word)

theorem isDelimiter_eq (v : Vocabulary) (word : String) :
    v.isDelimiter word = (v.delimiter? word).isSome := rfl

theorem answers_connective : Answers .connective connective? where
  word _ _ := rfl
  empty _ _ := rfl
  given := connective?_withConnective
  other v call h := by
    cases call with
    | connective word meaning => exact absurd rfl (h word meaning)
    | operator | direction | delimiter => rfl

theorem answers_operator : Answers .operator operator? where
  word _ _ := rfl
  empty _ _ := rfl
  given := operator?_withOperator
  other v call h := by
    cases call with
    | operator word meaning => exact absurd rfl (h word meaning)
    | connective | direction | delimiter => rfl

theorem answers_direction : Answers .direction direction? where
  word _ _ := rfl
  empty _ _ := rfl
  given := direction?_withDirection
  other v call h := by
    cases call with
    | direction word meaning => exact absurd rfl (h word meaning)
    | connective | operator | delimiter => rfl

theorem answers_delimiter : Answers (fun word (_ : Unit) => .delimiter word) delimiter? where
  word _ _ := rfl
  empty _ _ := rfl
  given _ _ _ _ := Keywords.get?_insert ..
  other v call h := by
    cases call with
    | delimiter word => exact absurd rfl (h word ())
    | connective | operator | direction => rfl

theorem isDelimiter_ofCalls_iff :
    (ofCalls caseSensitive calls).isDelimiter w = true ↔
      ∃ word, .delimiter word ∈ calls ∧ SameWord caseSensitive word w := by
  rw [isDelimiter_eq, (answers_delimiter.lastGiven caseSensitive calls w).isSome_iff]
  simp

attribute [ext] Vocabulary

theorem ext_lookups {v v' : Vocabulary} (hcase : v.caseSensitive = v'.caseSensitive)
    (h : ∀ w, v.connective? w = v'.connective? w ∧ v.operator? w = v'.operator? w ∧
      v.direction? w = v'.direction? w ∧ v.isDelimiter w = v'.isDelimiter w) : v = v' := by
  -- With equal flags, both keep their words in one spelling.
  have hcs : ∀ {α : Type} {keywords : Keywords α}, keywords.Spelled v'.caseSensitive →
      keywords.Spelled v.caseSensitive := fun hs => hcase ▸ hs
  apply Vocabulary.ext hcase
  · apply v.connectives_spelled.ext (hcs v'.connectives_spelled)
    intro w
    exact (h w).1.trans (by rw [connective?, hcase])
  · apply v.operators_spelled.ext (hcs v'.operators_spelled)
    intro w
    exact (h w).2.1.trans (by rw [operator?, hcase])
  · apply v.directions_spelled.ext (hcs v'.directions_spelled)
    intro w
    exact (h w).2.2.1.trans (by rw [direction?, hcase])
  · apply v.delimiters_spelled.ext (hcs v'.delimiters_spelled)
    intro w
    apply Keywords.contains_eq_iff.1
    exact (h w).2.2.2.trans (by rw [isDelimiter, hcase])

/-- Neither call undoes the other unless both are for one word of one table. -/
theorem call_comm (v : Vocabulary) {a b : Call}
    (h : a.part ≠ b.part ∨ ¬ SameWord v.caseSensitive a.word b.word) :
    (v.call a).call b = (v.call b).call a := by
  have hword : a.part = b.part → spell v.caseSensitive a.word ≠ spell v.caseSensitive b.word :=
    fun hpart => fun hw => h.elim (absurd hpart) (absurd (sameWord_iff.2 hw))
  -- Calls for different tables write different fields; two for one table meet in it.
  cases a with
  | connective word meaning =>
    cases b with
    | connective => exact Vocabulary.ext rfl (Keywords.insert_comm _ (hword rfl) ..) rfl rfl rfl
    | operator | direction | delimiter => rfl
  | operator word meaning =>
    cases b with
    | operator => exact Vocabulary.ext rfl rfl (Keywords.insert_comm _ (hword rfl) ..) rfl rfl
    | connective | direction | delimiter => rfl
  | direction word meaning =>
    cases b with
    | direction => exact Vocabulary.ext rfl rfl rfl (Keywords.insert_comm _ (hword rfl) ..) rfl
    | connective | operator | delimiter => rfl
  | delimiter word =>
    cases b with
    | delimiter => exact Vocabulary.ext rfl rfl rfl rfl (Keywords.insert_comm _ (hword rfl) ..)
    | connective | operator | direction => rfl

/-- A lookup tells the last call for the word; vocabularies with the same lookups are equal, and so
the order of calls matters only between calls for one word of one table. -/
theorem lookups_reflect_calls :
    (∀ caseSensitive calls w,
      LastGiven caseSensitive calls .connective w ((ofCalls caseSensitive calls).connective? w) ∧
      LastGiven caseSensitive calls .operator w ((ofCalls caseSensitive calls).operator? w) ∧
      LastGiven caseSensitive calls .direction w ((ofCalls caseSensitive calls).direction? w) ∧
      ((ofCalls caseSensitive calls).isDelimiter w = true ↔
        ∃ word, .delimiter word ∈ calls ∧ SameWord caseSensitive word w)) ∧
    (∀ (v : Vocabulary) (call : Call),
      (call.part ≠ .connectives → (v.call call).connective? = v.connective?) ∧
      (call.part ≠ .operators → (v.call call).operator? = v.operator?) ∧
      (call.part ≠ .directions → (v.call call).direction? = v.direction?) ∧
      (call.part ≠ .delimiters → (v.call call).isDelimiter = v.isDelimiter)) ∧
    (∀ v v' : Vocabulary, (v == v') = true ↔ v.caseSensitive = v'.caseSensitive ∧
      ∀ w, v.connective? w = v'.connective? w ∧ v.operator? w = v'.operator? w ∧
        v.direction? w = v'.direction? w ∧ v.isDelimiter w = v'.isDelimiter w) ∧
    (∀ (v : Vocabulary) (a b : Call),
      a.part ≠ b.part ∨ ¬ SameWord v.caseSensitive a.word b.word →
      (v.call a).call b = (v.call b).call a) := by
  refine ⟨?history, ?others, ?equality, fun v _ _ => call_comm v⟩
  case history =>
    intro caseSensitive calls w
    exact ⟨answers_connective.lastGiven .., answers_operator.lastGiven ..,
      answers_direction.lastGiven .., isDelimiter_ofCalls_iff⟩
  case others =>
    intro v call
    refine ⟨fun h => ?_, fun h => ?_, fun h => ?_, fun h => ?_⟩
    · exact answers_connective.other v call fun _ _ hcall => h (hcall ▸ rfl)
    · exact answers_operator.other v call fun _ _ hcall => h (hcall ▸ rfl)
    · exact answers_direction.other v call fun _ _ hcall => h (hcall ▸ rfl)
    · funext w
      rw [isDelimiter_eq, isDelimiter_eq,
        answers_delimiter.other v call fun _ _ hcall => h (hcall ▸ rfl)]
  case equality =>
    intro v v'
    rw [beq_iff_eq]
    apply Iff.intro
    · rintro rfl
      exact ⟨rfl, fun _ => ⟨rfl, rfl, rfl, rfl⟩⟩
    · rintro ⟨hcase, h⟩
      exact ext_lookups hcase h

/-- The second operator overrides the first, across a connective of the same spelling. -/
theorem lookups_reflect_calls_overridden :
    let calls : List Call :=
      [.operator "is" .isEqualTo, .connective "is" .and, .operator "IS" .isNotEqualTo]
    LastGiven false calls .operator "is" ((ofCalls false calls).operator? "is") ∧
    (ofCalls false calls).operator? "is" = some .isNotEqualTo ∧
    (preset.call (.operator "and" .isEqualTo)).connective? = preset.connective? ∧
    (preset.call (.operator "is" .isEqualTo)).call (.connective "is" .and) =
      (preset.call (.connective "is" .and)).call (.operator "is" .isEqualTo) ∧
    (preset.call (.delimiter "then")).call (.delimiter ";") =
      (preset.call (.delimiter ";")).call (.delimiter "then") := by
  intro calls
  obtain ⟨history, others, -, comm⟩ := lookups_reflect_calls
  refine ⟨(history false calls "is").2.1, ?_, (others preset _).1 (by decide), ?_, ?_⟩
  · have hword : spell false "is" = spell false "IS" := by
      apply String.toList_inj.1
      simp [spell, foldCase]
    exact (operator?_withOperator ..).trans (if_pos hword)
  · exact comm preset _ _ (.inl (by decide))
  · exact comm preset _ _ (.inr (by decide +kernel))

end Vocabulary

end RowQuery
