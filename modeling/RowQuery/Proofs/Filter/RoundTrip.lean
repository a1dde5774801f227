import RowQuery.Proofs.Filter.Acceptance
import RowQuery.Proofs.Print.Success
import RowQuery.Proofs.Vocabulary.Reverse

/-! A filter that could be written reads back as itself. The text is left behind as soon as its
tokens are known: they derive the clause they were written for. -/

namespace RowQuery.Filter

def textToken (s : String) : Token :=
  if isBareValue s && s != "null" then if isSingleWord s then .word s else .number s
  else .string s

def valueToken : Value → Token
  | .null => .word "null"
  | .text s => textToken s

/-- The tokens a clause is written with. Only a combined clause on the right stands in a group. -/
inductive Written (v : Vocabulary) : List Token → Clause → Prop
  | leaf {c : Condition} {w : String} (ho : v.operatorKeyword? c.operator = some w)
      (hfield : isSingleWord c.field = true) :
      Written v [.word c.field, .word w, valueToken c.value] (.leaf c)
  | bare {ts us : List Token} {left : Clause} {k : Connective} {c : Condition} {w : String}
      (hk : v.connectiveKeyword? k = some w) (hleft : Written v ts left)
      (hright : Written v us (.leaf c)) :
      Written v (ts ++ .word w :: us) (.combined left k (.leaf c))
  | grouped {ts us : List Token} {left right : Clause} {k : Connective} {w : String}
      (hk : v.connectiveKeyword? k = some w) (hleft : Written v ts left)
      (hright : Written v us right) (hcombined : right.isCombined = true) :
      Written v (ts ++ .word w :: (.openGroup :: us ++ [.closeGroup])) (.combined left k right)

variable {v : Vocabulary} {nullMarker : Bool}

theorem isValue_textToken (nullMarker : Bool) (s : String) :
    IsValue nullMarker (textToken s) (.text s) := by
  unfold textToken
  split
  · rename_i hbare
    have hne : s ≠ "null" := by simpa using (Bool.and_eq_true_iff.mp hbare).2
    split
    · exact .word fun hw => hne hw.2
    · exact .number s
  · exact .string s

theorem isValue_valueToken {value : Value} (h : nullMarker = true ∨ value ≠ .null) :
    IsValue nullMarker (valueToken value) value := by
  cases value with
  | null =>
    cases h with
    | inl hnull => exact .null hnull
    | inr hvalue => exact absurd rfl hvalue
  | text s => exact isValue_textToken nullMarker s

theorem spans_printText (s : String) {rest : List Char} (hrest : Breaks rest) :
    Token.Spans (printText s).toList rest (textToken s) true := by
  unfold printText textToken
  split
  · rename_i hbare
    split
    · rename_i hword
      have hspans := Token.spans_word (isSingleWord_iff.mp hword) hrest
      rwa [String.ofList_toList] at hspans
    · rename_i hword
      have hnumber : IsNumber s.toList := by
        apply (isBareValue_iff.mp (Bool.and_eq_true_iff.mp hbare).1).resolve_left
        intro h
        exact hword (isSingleWord_iff.mpr h)
      have hspans := Token.Spans.number hnumber hrest.stops_isNumberChar
      rwa [String.ofList_toList] at hspans
  · have hspans := Token.spans_quote s.toList rest
    rwa [String.ofList_toList, ← String.toList_ofList (l := Literal.quote s.toList)] at hspans

theorem ofChars_printValue (value : Value) {rest : List Char} (hrest : Breaks rest) :
    Token.ofChars ((printValue value).toList ++ rest) = valueToken value :: Token.ofChars rest := by
  cases value with
  | null =>
    have hword : isSingleWord "null" = true := by decide +kernel
    have hnull := Token.ofChars_word (isSingleWord_iff.mp hword) hrest
    rwa [String.ofList_toList] at hnull
  | text s => exact (spans_printText s hrest).ofChars_append

private theorem exists_written_of_printCondition {c : Condition} {text : String}
    (h : printCondition v c = .ok text) :
    ∃ ts, Written v ts (.leaf c) ∧ ∀ rest, Breaks rest →
      Token.ofChars (text.toList ++ rest) = ts ++ Token.ofChars rest := by
  obtain ⟨w, ho, hfield, rfl⟩ := printCondition_eq_ok_iff.mp h
  refine ⟨_, .leaf ho hfield, fun rest hrest => ?_⟩
  have hw := (Vocabulary.operator?_of_operatorKeyword? ho).2
  have htext : (c.field ++ " " ++ w ++ " " ++ printValue c.value).toList ++ rest =
      c.field.toList ++ ' ' :: (w.toList ++ ' ' :: ((printValue c.value).toList ++ rest)) := by
    simp
  rw [htext, Token.ofChars_word_space hfield, Token.ofChars_word_space hw,
    ofChars_printValue _ hrest]
  rfl

theorem exists_written_of_print {c : Clause} {text : String} (h : print v c = .ok text) :
    ∃ ts, Written v ts c ∧ ∀ rest, Breaks rest →
      Token.ofChars (text.toList ++ rest) = ts ++ Token.ofChars rest := by
  induction c generalizing text with
  | leaf c => exact exists_written_of_printCondition h
  | combined left k right ihl ihr =>
    obtain ⟨w, l, r, hk, hl, hr, rfl⟩ := print_combined_eq_ok_iff.mp h
    obtain ⟨ts, hleft, hlexl⟩ := ihl hl
    obtain ⟨us, hright, hlexr⟩ := ihr hr
    have hw := (Vocabulary.connective?_of_connectiveKeyword? hk).2
    have hspace : ∀ rest, Breaks (' ' :: rest) := fun rest => breaks_cons.2 (.inl (by decide))
    cases right with
    | leaf c =>
      refine ⟨_, .bare hk hleft hright, fun rest hrest => ?_⟩
      have htext : (l ++ " " ++ w ++ " " ++ r).toList ++ rest =
          l.toList ++ ' ' :: (w.toList ++ ' ' :: (r.toList ++ rest)) := by simp
      rw [Clause.isCombined, if_neg (by decide), htext, hlexl _ (hspace _), Token.ofChars_space,
        Token.ofChars_word_space hw, hlexr rest hrest, List.append_assoc, List.cons_append]
    | combined left' k' right' =>
      refine ⟨_, .grouped hk hleft hright rfl, fun rest hrest => ?_⟩
      have htext : (l ++ " " ++ w ++ " " ++ ("(" ++ r ++ ")")).toList ++ rest =
          l.toList ++ ' ' :: (w.toList ++ ' ' :: '(' :: (r.toList ++ ')' :: rest)) := by simp
      rw [Clause.isCombined, if_pos rfl, htext, hlexl _ (hspace _), Token.ofChars_space,
        Token.ofChars_word_space hw, Token.ofChars_openGroup, hlexr _ (breaks_cons.2 (.inr rfl)),
        Token.ofChars_closeGroup]
      simp

theorem ofText_written {c : Clause} {text : String} (h : print v c = .ok text) :
    Written v (Token.ofText text) c := by
  obtain ⟨ts, hwritten, hlex⟩ := exists_written_of_print h
  have htext := hlex [] breaks_nil
  rw [List.append_nil, Token.ofChars_nil, List.append_nil] at htext
  rwa [Token.ofText_eq_ofChars, htext]

theorem Written.isClause {ts : List Token} {c : Condition} (h : Written v ts (.leaf c))
    (hnull : nullMarker = true ∨ c.value ≠ .null) : IsClause v nullMarker ts (.leaf c) := by
  cases h with
  | leaf ho _ =>
    exact .condition (Vocabulary.operator?_of_operatorKeyword? ho).1 (isValue_valueToken hnull)

theorem Written.isBody {ts : List Token} {c : Clause} (h : Written v ts c)
    (hnull : nullMarker = true ∨ ∀ d ∈ c.conditions, d.value ≠ .null) :
    IsBody v nullMarker ts c := by
  induction h with
  | @leaf d w ho hfield =>
    have hvalue := hnull.imp_right fun h => h d (by simp [Clause.conditions])
    exact (Written.isClause (.leaf ho hfield) hvalue).isBody
  | bare hk _ hright ihl _ =>
    simp only [Clause.conditions, List.forall_mem_append] at hnull
    have hleft := ihl (hnull.imp_right fun h => h.1)
    have hclause := hright.isClause (hnull.imp_right fun h => h.2 _ (by simp))
    exact hleft.snoc (Vocabulary.connective?_of_connectiveKeyword? hk).1 hclause
  | grouped hk _ _ _ ihl ihr =>
    simp only [Clause.conditions, List.forall_mem_append] at hnull
    have hleft := ihl (hnull.imp_right fun h => h.1)
    have hright := ihr (hnull.imp_right fun h => h.2)
    exact hleft.snoc (Vocabulary.connective?_of_connectiveKeyword? hk).1 (.group hright)

/-- Writing and then reading is the identity, for every vocabulary. A clause with a null marker
needs a reader that knows null markers, and its groups must be allowed. -/
theorem parse_print {c : Clause} {text : String} {options : ParseOptions}
    (hprint : print v c = .ok text)
    (hnull : options.nullMarker = true ∨ ∀ d ∈ c.conditions, d.value ≠ .null)
    (hdepth : ∀ limit ∈ options.maxDepth, Token.nesting 0 (Token.ofText text) ≤ limit) :
    parse v options text = .ok (some c) :=
  parse_eq_ok_some_iff.mpr ⟨(ofText_written hprint).isBody hnull, hdepth⟩

theorem parse_print_grouped :
    let v := Vocabulary.preset.withOperator "is like" .isEqualTo |>.withConnective "&" .and
    let c := Clause.combined (.condition "Größe" .isEqualTo (.text "a \"b\" (c")) .and
      (.combined (.condition ">=" .isLessThan (.text "-1.5")) .or (.condition "@x" .contains .null))
    let text := "Größe eq \"a \\\"b\\\" (c\" and (>= lt -1.5 or @x contains null)"
    print v c = .ok text ∧ parse v ⟨true, some 1⟩ text = .ok (some c) := by
  intro v c text
  have hprint : print v c = .ok text := by decide +kernel
  refine ⟨hprint, parse_print hprint (.inl rfl) fun limit hlimit => ?_⟩
  cases hlimit
  decide +kernel

end RowQuery.Filter
