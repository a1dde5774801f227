import RowQuery.Keyword
import RowQuery.Proofs.Token.Stream

/-! What the runs of a text are made of, and where they end. A text that reads as one word or as one
number keeps doing so in front of anything that cannot continue it. -/

namespace RowQuery

def Stops (accept : Char → Bool) (rest : List Char) : Prop :=
  ∀ c ∈ rest.head?, accept c = false

@[simp] theorem stops_nil (accept : Char → Bool) : Stops accept [] := by
  simp [Stops]

@[simp] theorem stops_cons {accept : Char → Bool} {c : Char} {rest : List Char} :
    Stops accept (c :: rest) ↔ accept c = false := by
  simp [Stops]

/-- Word characters, of which the first starts no number, or else symbols. -/
inductive IsWord : List Char → Prop
  | letters {c : Char} {cs : List Char} (hfirst : isNumberChar c = false)
      (h : ∀ d ∈ c :: cs, isWordChar d = true) : IsWord (c :: cs)
  | symbols {c : Char} {cs : List Char} (h : ∀ d ∈ c :: cs, isSymbolChar d = true) :
      IsWord (c :: cs)

theorem IsWord.ne_nil {w : List Char} (h : IsWord w) : w ≠ [] := by
  cases h <;> simp

theorem IsWord.letters_or_symbols {w : List Char} (h : IsWord w) :
    (∀ c ∈ w, isWordChar c = true) ∨ ∀ c ∈ w, isSymbolChar c = true := by
  cases h with
  | letters _ h => exact .inl h
  | symbols h => exact .inr h

theorem IsWord.append_letters {w more : List Char} (h : IsWord w)
    (hw : ∀ c ∈ w, isWordChar c = true) (hmore : ∀ c ∈ more, isWordChar c = true) :
    IsWord (w ++ more) := by
  cases h with
  | letters hn h => exact .letters hn (List.forall_mem_append.2 ⟨h, hmore⟩)
  | symbols h =>
    have hsymbol := h _ List.mem_cons_self
    simp [isSymbolChar, hw _ List.mem_cons_self] at hsymbol

def IsNumber (n : List Char) : Prop :=
  n ≠ [] ∧ ∀ c ∈ n, isNumberChar c = true

/-- Nothing follows, or what ends every run: a blank or the end of a group. -/
def Breaks (rest : List Char) : Prop :=
  ∀ c ∈ rest.head?, Unicode.isBlank c = true ∨ c = ')'

@[simp] theorem breaks_nil : Breaks [] := by
  simp [Breaks]

@[simp] theorem breaks_cons {c : Char} {rest : List Char} :
    Breaks (c :: rest) ↔ Unicode.isBlank c = true ∨ c = ')' := by
  simp [Breaks]

/-! Classes of characters exclude one another, the digits apart. -/

theorem isNumberChar_eq_false_of_isBlank {c : Char} (h : Unicode.isBlank c = true) :
    isNumberChar c = false := by
  have hword := isWordChar_eq_false_of_isBlank h
  cases hn : isNumberChar c with
  | false => rfl
  | true =>
    have hcases : c.isDigit = true ∨ c = '.' ∨ c = '-' := by
      simpa [isNumberChar, or_assoc] using hn
    rcases hcases with hdigit | rfl | rfl
    · rw [isWordChar_of_isDigit hdigit] at hword
      cases hword
    · exact absurd h (by decide)
    · exact absurd h (by decide)

theorem isBlank_eq_false_of_isWordChar {c : Char} (h : isWordChar c = true) :
    Unicode.isBlank c = false := by
  cases hb : Unicode.isBlank c with
  | false => rfl
  | true => simp [isWordChar_eq_false_of_isBlank hb] at h

theorem isBlank_eq_false_of_isNumberChar {c : Char} (h : isNumberChar c = true) :
    Unicode.isBlank c = false := by
  cases hb : Unicode.isBlank c with
  | false => rfl
  | true => simp [isNumberChar_eq_false_of_isBlank hb] at h

theorem isSymbolChar_iff {c : Char} :
    isSymbolChar c = true ↔ Unicode.isBlank c = false ∧ c ≠ '(' ∧ c ≠ ')' ∧ c ≠ '"' ∧
      isNumberChar c = false ∧ isWordChar c = false := by
  simp [isSymbolChar, and_assoc]

theorem isSymbolChar_eq_false_of_isWordChar {c : Char} (h : isWordChar c = true) :
    isSymbolChar c = false := by
  simp [isSymbolChar, h]

theorem Breaks.stops_isWordChar {rest : List Char} (h : Breaks rest) : Stops isWordChar rest := by
  intro c hc
  rcases h c hc with hb | rfl
  · exact isWordChar_eq_false_of_isBlank hb
  · decide +kernel

theorem Breaks.stops_isNumberChar {rest : List Char} (h : Breaks rest) :
    Stops isNumberChar rest := by
  intro c hc
  rcases h c hc with hb | rfl
  · exact isNumberChar_eq_false_of_isBlank hb
  · decide

theorem Breaks.stops_isSymbolChar {rest : List Char} (h : Breaks rest) :
    Stops isSymbolChar rest := by
  intro c hc
  rcases h c hc with hb | rfl <;> simp [isSymbolChar, *]

namespace Token

/-! One scan, by the class of the character it begins with. -/

theorem scan_of_isNumberChar {c : Char} (h : isNumberChar c = true) (cs : List Char) :
    scan c cs = .run .number isNumberChar c cs := by
  have hopen : c ≠ '(' := by rintro rfl; exact absurd h (by decide)
  have hclose : c ≠ ')' := by rintro rfl; exact absurd h (by decide)
  have hquote : c ≠ '"' := by rintro rfl; exact absurd h (by decide)
  rw [scan, if_neg hopen, if_neg hclose, if_neg hquote, if_pos h]

theorem scan_of_isWordChar {c : Char} (hn : isNumberChar c = false) (h : isWordChar c = true)
    (cs : List Char) : scan c cs = .run .word isWordChar c cs := by
  have hopen : c ≠ '(' := by rintro rfl; exact absurd h (by decide +kernel)
  have hclose : c ≠ ')' := by rintro rfl; exact absurd h (by decide +kernel)
  have hquote : c ≠ '"' := by rintro rfl; exact absurd h (by decide +kernel)
  rw [scan, if_neg hopen, if_neg hclose, if_neg hquote, if_neg (by simp [hn]), if_pos h]

theorem scan_of_isSymbolChar {c : Char} (h : isSymbolChar c = true) (cs : List Char) :
    scan c cs = .run .word isSymbolChar c cs := by
  obtain ⟨-, hopen, hclose, hquote, hn, hw⟩ := isSymbolChar_iff.mp h
  rw [scan, if_neg hopen, if_neg hclose, if_neg hquote, if_neg (by simp [hn]),
    if_neg (by simp [hw])]

theorem Scan.run_append (make : String → Token) {accept : Char → Bool} (c : Char)
    {cs rest : List Char} (hcs : ∀ d ∈ cs, accept d = true) (hrest : Stops accept rest) :
    run make accept c (cs ++ rest) =
      ⟨make (String.ofList (c :: cs)), true, cs.length + 1, rest⟩ := by
  have hstop : rest.takeWhile accept = [] ∧ rest.dropWhile accept = rest := by
    cases rest with
    | nil => simp
    | cons d rest => simp [stops_cons.1 hrest]
  simp only [run, List.takeWhile_append_of_pos hcs, List.dropWhile_append_of_pos hcs, hstop,
    List.append_nil]

theorem ofChars_letters {c : Char} {cs rest : List Char} (hn : isNumberChar c = false)
    (h : ∀ d ∈ c :: cs, isWordChar d = true) (hrest : Stops isWordChar rest) :
    ofChars (c :: cs ++ rest) = .word (String.ofList (c :: cs)) :: ofChars rest := by
  rw [List.forall_mem_cons] at h
  rw [List.cons_append, ofChars_cons (isBlank_eq_false_of_isWordChar h.1),
    scan_of_isWordChar hn h.1, Scan.run_append _ _ h.2 hrest]

theorem ofChars_symbols {c : Char} {cs rest : List Char}
    (h : ∀ d ∈ c :: cs, isSymbolChar d = true) (hrest : Stops isSymbolChar rest) :
    ofChars (c :: cs ++ rest) = .word (String.ofList (c :: cs)) :: ofChars rest := by
  rw [List.forall_mem_cons] at h
  rw [List.cons_append, ofChars_cons (isSymbolChar_iff.mp h.1).1, scan_of_isSymbolChar h.1,
    Scan.run_append _ _ h.2 hrest]

theorem ofChars_number {n rest : List Char} (h : IsNumber n) (hrest : Stops isNumberChar rest) :
    ofChars (n ++ rest) = .number (String.ofList n) :: ofChars rest := by
  cases n with
  | nil => exact absurd rfl h.1
  | cons c cs =>
    have hcs := List.forall_mem_cons.1 h.2
    rw [List.cons_append, ofChars_cons (isBlank_eq_false_of_isNumberChar hcs.1),
      scan_of_isNumberChar hcs.1, Scan.run_append _ _ hcs.2 hrest]

theorem ofChars_quote (text rest : List Char) :
    ofChars (Literal.quote text ++ rest) = .string (String.ofList text) :: ofChars rest := by
  have hquote : Literal.quote text ++ rest = '"' :: (Literal.escape text ++ '"' :: rest) := by
    simp [Literal.quote]
  have hscan : scan '"' (Literal.escape text ++ '"' :: rest) =
      ⟨.string (String.ofList text), true, (Literal.escape text).length + 1 + 1, rest⟩ := by
    rw [scan, if_neg (by decide), if_neg (by decide), if_pos rfl, Literal.read_escape]
  rw [hquote, ofChars_cons (by decide), hscan]

theorem ofChars_openGroup (rest : List Char) :
    ofChars ('(' :: rest) = .openGroup :: ofChars rest := by
  rw [ofChars_cons (by decide)]
  rfl

theorem ofChars_closeGroup (rest : List Char) :
    ofChars (')' :: rest) = .closeGroup :: ofChars rest := by
  rw [ofChars_cons (by decide)]
  rfl

@[simp] theorem ofChars_space (rest : List Char) : ofChars (' ' :: rest) = ofChars rest :=
  ofChars_cons_of_isBlank (by decide) rest

theorem ofChars_word_of_stops {w rest : List Char} (h : IsWord w)
    (hletters : (∀ c ∈ w, isWordChar c = true) → Stops isWordChar rest)
    (hsymbols : (∀ c ∈ w, isSymbolChar c = true) → Stops isSymbolChar rest) :
    ofChars (w ++ rest) = .word (String.ofList w) :: ofChars rest := by
  cases h with
  | letters hn h => exact ofChars_letters hn h (hletters h)
  | symbols h => exact ofChars_symbols h (hsymbols h)

theorem ofChars_word {w rest : List Char} (h : IsWord w) (hrest : Breaks rest) :
    ofChars (w ++ rest) = .word (String.ofList w) :: ofChars rest :=
  ofChars_word_of_stops h (fun _ => hrest.stops_isWordChar) fun _ => hrest.stops_isSymbolChar

/-- What a token of a text is made of: its runs are never empty and stay in their class. -/
def Legible : Token → Prop
  | word w => IsWord w.toList
  | number n => IsNumber n.toList
  | openGroup | closeGroup | string _ => True

theorem legible_scan {c : Char} (hb : Unicode.isBlank c = false) (cs : List Char) :
    (scan c cs).token.Legible := by
  unfold scan
  split
  · trivial
  · split
    · trivial
    · split
      · trivial
      · rename_i hopen hclose hquote
        split
        · rename_i hn
          simp [Scan.run, Legible, IsNumber, hn]
          exact fun d hd => List.all_eq_true.1 List.all_takeWhile d hd
        · split
          · rename_i hn hw
            simp only [Scan.run, Legible, String.toList_ofList]
            refine .letters (by simpa using hn) (List.forall_mem_cons.2 ⟨hw, ?_⟩)
            exact List.all_eq_true.1 List.all_takeWhile
          · rename_i hn hw
            simp only [Scan.run, Legible, String.toList_ofList]
            refine .symbols (List.forall_mem_cons.2 ⟨?_, ?_⟩)
            · exact isSymbolChar_iff.mpr
                ⟨hb, hopen, hclose, hquote, by simpa using hn, by simpa using hw⟩
            · exact List.all_eq_true.1 List.all_takeWhile

theorem legible_of_mem_ofChars {cs : List Char} : ∀ t ∈ ofChars cs, t.Legible := by
  induction cs using chars_induction with
  | nil => simp
  | blank c cs hc ih => rwa [ofChars_cons_of_isBlank hc]
  | token c cs hc ih =>
    rw [ofChars_cons hc]
    exact List.forall_mem_cons.2 ⟨legible_scan hc cs, ih⟩

end Token

private theorem exists_ofText_eq_singleton_iff (text : String) (test : Token → Prop) :
    (∃ t, Token.ofText text = [t] ∧ test t) ↔ ∃ l, Lexeme.ofText text = [l] ∧ test l.token := by
  apply Iff.intro
  · rintro ⟨t, ht, htest⟩
    obtain ⟨l, hl, rfl⟩ := List.map_eq_singleton_iff.mp ht
    exact ⟨l, hl, htest⟩
  · rintro ⟨l, hl, htest⟩
    exact ⟨l.token, by rw [Token.ofText, hl, List.map_singleton], htest⟩

theorem isSingleWord_iff_ofText {text : String} :
    isSingleWord text = true ↔ Token.ofText text = [.word text] := by
  have h := exists_ofText_eq_singleton_iff text (· = .word text)
  rw [exists_eq_right] at h
  rw [h]
  unfold isSingleWord
  split <;> simp_all

theorem isSingleWord_iff {text : String} : isSingleWord text = true ↔ IsWord text.toList := by
  rw [isSingleWord_iff_ofText, Token.ofText_eq_ofChars]
  apply Iff.intro
  · intro h
    have hmem : Token.word text ∈ Token.ofChars text.toList := by rw [h]; simp
    exact Token.legible_of_mem_ofChars _ hmem
  · intro h
    simpa using Token.ofChars_word h breaks_nil

theorem Token.isSingleWord_of_mem_ofText {text w : String} (h : .word w ∈ ofText text) :
    isSingleWord w = true :=
  isSingleWord_iff.mpr (legible_of_mem_ofChars _ h)

theorem Token.ofChars_word_space {w : String} (hw : isSingleWord w = true) (rest : List Char) :
    ofChars (w.toList ++ ' ' :: rest) = .word w :: ofChars rest := by
  rw [ofChars_word (isSingleWord_iff.mp hw) (breaks_cons.2 (.inl (by decide))), ofChars_space,
    String.ofList_toList]

theorem isBareValue_iff {text : String} :
    isBareValue text = true ↔ IsWord text.toList ∨ IsNumber text.toList := by
  have hone : isBareValue text = true ↔
      Token.ofText text = [.word text] ∨ Token.ofText text = [.number text] := by
    have h := exists_ofText_eq_singleton_iff text fun t => t = .word text ∨ t = .number text
    simp only [and_or_left, exists_or, exists_eq_right] at h
    rw [h]
    unfold isBareValue
    split <;> simp_all
  rw [hone, Token.ofText_eq_ofChars]
  apply Iff.intro
  · rintro (h | h)
    · have hmem : Token.word text ∈ Token.ofChars text.toList := by rw [h]; simp
      exact .inl (Token.legible_of_mem_ofChars _ hmem)
    · have hmem : Token.number text ∈ Token.ofChars text.toList := by rw [h]; simp
      exact .inr (Token.legible_of_mem_ofChars _ hmem)
  · rintro (h | h)
    · exact .inl (by simpa using Token.ofChars_word h breaks_nil)
    · exact .inr (by simpa using Token.ofChars_number h (stops_nil _))

end RowQuery
