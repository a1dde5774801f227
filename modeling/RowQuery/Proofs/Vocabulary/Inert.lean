import RowQuery.Order.Print
import RowQuery.Proofs.Filter.Relabel
import RowQuery.Proofs.Order.Relabel
import RowQuery.Proofs.Vocabulary.History

/-! Keywords that no text can hold. Readers only ever look single words up and writers choose among
them, so both come to the same with any two vocabularies that agree on the single words. -/

namespace RowQuery

theorem isSingleWord_ne {a b : String} (ha : isSingleWord a = true) (hb : isSingleWord b = false) :
    a ≠ b := by
  rintro rfl
  rw [ha] at hb
  cases hb

namespace Keywords

variable {α : Type} {keywords others : Keywords α}

def AgreeOnWords (keywords others : Keywords α) : Prop :=
  ∀ w, isSingleWord w = true → keywords.get? w = others.get? w

theorem AgreeOnWords.refl (keywords : Keywords α) : keywords.AgreeOnWords keywords :=
  fun _ _ => rfl

theorem agreeOnWords_insert (keywords : Keywords α) {word : String}
    (h : isSingleWord word = false) (meaning : α) :
    (keywords.insert word meaning).AgreeOnWords keywords := by
  intro w hw
  rw [get?_insert, if_neg (isSingleWord_ne hw h)]

/-- A choice is among single words, in an order that the table has no say in. -/
theorem AgreeOnWords.choose?_eq [BEq α] [LawfulBEq α] (h : keywords.AgreeOnWords others)
    (preferred : String → Bool) (meaning : α) :
    keywords.choose? preferred meaning = others.choose? preferred meaning := by
  -- The candidates are sorted on both sides, so it is enough that they are the same.
  have hchosen : keywords.entries.filter (fun e => e.2 == meaning && isSingleWord e.1) =
      others.entries.filter (fun e => e.2 == meaning && isSingleWord e.1) := by
    apply eq_of_mem_iff (keywords.ascending.filter _) (others.ascending.filter _)
    rintro ⟨w, m⟩
    rw [List.mem_filter, List.mem_filter, and_congr_left_iff, Bool.and_eq_true]
    rintro ⟨-, hw⟩
    rw [← get?_eq_some_iff, ← get?_eq_some_iff, h w hw]
  rw [choose?, hchosen, choose?]

end Keywords

namespace Vocabulary

structure AgreeOnWords (v v' : Vocabulary) : Prop where
  caseSensitive : v.caseSensitive = v'.caseSensitive
  connectives : v.connectives.AgreeOnWords v'.connectives
  operators : v.operators.AgreeOnWords v'.operators
  directions : v.directions.AgreeOnWords v'.directions
  delimiters : v.delimiters.AgreeOnWords v'.delimiters

variable {v v' : Vocabulary} {w : String}

theorem agreeOnWords_call (v : Vocabulary) (call : Call) (h : isSingleWord call.word = false) :
    (v.call call).AgreeOnWords v := by
  -- Folding must not turn the keyword into a word, or it could replace a live one.
  have hspelled : isSingleWord (spell v.caseSensitive call.word) = false := by
    rwa [isSingleWord_spell]
  cases call with
  | connective word meaning =>
    exact ⟨rfl, v.connectives.agreeOnWords_insert hspelled meaning, .refl _, .refl _, .refl _⟩
  | operator word meaning =>
    exact ⟨rfl, .refl _, v.operators.agreeOnWords_insert hspelled meaning, .refl _, .refl _⟩
  | direction word meaning =>
    exact ⟨rfl, .refl _, .refl _, v.directions.agreeOnWords_insert hspelled meaning, .refl _⟩
  | delimiter word =>
    exact ⟨rfl, .refl _, .refl _, .refl _, v.delimiters.agreeOnWords_insert hspelled ()⟩

theorem AgreeOnWords.get?_spell {α : Type} {keywords others : Keywords α}
    (h : v.AgreeOnWords v') (hkeywords : keywords.AgreeOnWords others)
    (hw : isSingleWord w = true) :
    keywords.get? (spell v.caseSensitive w) = others.get? (spell v'.caseSensitive w) := by
  rw [← h.caseSensitive]
  apply hkeywords
  rwa [isSingleWord_spell]

theorem AgreeOnWords.filter_relabels (h : v.AgreeOnWords v') (options : ParseOptions) :
    Filter.Relabels v' v options options id id where
  operator := fun _ hw => h.get?_spell h.operators hw
  connective := fun _ hw => h.get?_spell h.connectives hw
  value := by
    intro t
    rw [Token.mapText_id, Option.map_id]
    rfl
  maxDepth := rfl

theorem AgreeOnWords.order_relabels (h : v.AgreeOnWords v') : Order.Relabels v' v id where
  direction := fun _ hw => h.get?_spell h.directions hw
  delimiter := fun _ hw => congrArg Option.isSome (h.get?_spell h.delimiters hw)

theorem AgreeOnWords.filter_parse_eq (h : v.AgreeOnWords v') (options : ParseOptions)
    (text : String) : Filter.parse v options text = Filter.parse v' options text := by
  rw [(h.filter_relabels options).parse_same, Condition.relabel_id, Clause.mapConditions_id,
    Option.map_id, Except.map_id, id_eq]

theorem AgreeOnWords.order_parse_eq (h : v.AgreeOnWords v') (text : String) :
    Order.parse v text = Order.parse v' text :=
  h.order_relabels.parse_same text

theorem AgreeOnWords.operatorKeyword?_eq (h : v.AgreeOnWords v') :
    v.operatorKeyword? = v'.operatorKeyword? := by
  funext o
  exact h.operators.choose?_eq ..

theorem AgreeOnWords.connectiveKeyword?_eq (h : v.AgreeOnWords v') :
    v.connectiveKeyword? = v'.connectiveKeyword? := by
  funext k
  exact h.connectives.choose?_eq ..

theorem AgreeOnWords.directionKeyword?_eq (h : v.AgreeOnWords v') :
    v.directionKeyword? = v'.directionKeyword? := by
  funext d
  exact h.directions.choose?_eq ..

theorem AgreeOnWords.delimiterKeyword?_eq (h : v.AgreeOnWords v') :
    v.delimiterKeyword? = v'.delimiterKeyword? :=
  h.delimiters.choose?_eq ..

theorem AgreeOnWords.filter_print_eq (h : v.AgreeOnWords v') (c : Clause) :
    Filter.print v c = Filter.print v' c := by
  induction c with
  | leaf c =>
    rw [Filter.print, Filter.print, Filter.printCondition, Filter.printCondition,
      h.operatorKeyword?_eq]
  | combined left connective right ihl ihr =>
    rw [Filter.print, Filter.print, h.connectiveKeyword?_eq, ihl, ihr]

theorem AgreeOnWords.printEntry_eq (h : v.AgreeOnWords v') :
    Order.printEntry v = Order.printEntry v' := by
  funext e
  rw [Order.printEntry, Order.printEntry, h.directionKeyword?_eq]

theorem AgreeOnWords.printRest_eq (h : v.AgreeOnWords v') (previous : String)
    (l : List OrderEntry) : Order.printRest v previous l = Order.printRest v' previous l := by
  induction l generalizing previous with
  | nil => rfl
  | cons e rest ih =>
    simp only [Order.printRest, h.delimiterKeyword?_eq, h.printEntry_eq, ih]

theorem AgreeOnWords.order_print_eq (h : v.AgreeOnWords v') (l : List OrderEntry) :
    Order.print v l = Order.print v' l := by
  cases l with
  | nil => rfl
  | cons e rest => simp only [Order.print, h.printEntry_eq, h.printRest_eq]

/-- No text is read, no tree and no list written in another way for a keyword that is no single
word. -/
theorem call_inert (v : Vocabulary) (call : Call) (h : isSingleWord call.word = false) :
    (∀ options text, Filter.parse (v.call call) options text = Filter.parse v options text) ∧
    (∀ text, Order.parse (v.call call) text = Order.parse v text) ∧
    (∀ c, Filter.print (v.call call) c = Filter.print v c) ∧
    ∀ l, Order.print (v.call call) l = Order.print v l := by
  have hagree := agreeOnWords_call v call h
  exact ⟨hagree.filter_parse_eq, hagree.order_parse_eq, hagree.filter_print_eq,
    hagree.order_print_eq⟩

/-- The keyword can be looked up all the same. -/
theorem call_inert_two_words :
    let v := empty false
    let call := Call.operator "is like" .contains
    (v.call call).operator? "is like" = some .contains ∧
      Filter.print (v.call call) (.condition "a" .contains .null) =
        .error (.noOperator .contains) ∧
      Filter.parse (v.call call) {} "a is like b" =
        .error (.unresolvedKeyword .operator "is" 2) := by
  intro v call
  obtain ⟨hparse, -, hprint, -⟩ := call_inert v call (by decide +kernel)
  refine ⟨?_, ?_, ?_⟩
  · exact (operator?_withOperator ..).trans (if_pos rfl)
  · rw [hprint]
    decide +kernel
  · rw [hparse]
    decide +kernel

end Vocabulary

end RowQuery
