import RowQuery.Proofs.Token.Span

/-! Folding the ASCII letters moves no character into another class, so a word stays a word, and a
text keeps its tokens where they are, each with its text folded. -/

namespace RowQuery

/-- Only capitals are folded, and there are few enough of them to look at each. -/
private theorem apply_toLower {α : Type} [DecidableEq α] (f : Char → α)
    (h : ∀ n ∈ List.range' 65 26, f (Char.ofNat n).toLower = f (Char.ofNat n)) (c : Char) :
    f c.toLower = f c := by
  by_cases hupper : c.val ≥ 'A'.val ∧ c.val ≤ 'Z'.val
  · have hlow : 65 ≤ c.toNat := UInt32.le_iff_toNat_le.1 hupper.1
    have hhigh : c.toNat ≤ 90 := UInt32.le_iff_toNat_le.1 hupper.2
    have hcapital := h c.toNat (by rw [List.mem_range'_1]; omega)
    rwa [Char.ofNat_toNat] at hcapital
  · rw [toLower_of_not_upper hupper]

@[simp] theorem isNumberChar_toLower (c : Char) : isNumberChar c.toLower = isNumberChar c :=
  apply_toLower isNumberChar (by decide +kernel) c

@[simp] theorem isWordChar_toLower (c : Char) : isWordChar c.toLower = isWordChar c :=
  apply_toLower isWordChar (by decide +kernel) c

@[simp] theorem isSymbolChar_toLower (c : Char) : isSymbolChar c.toLower = isSymbolChar c :=
  apply_toLower isSymbolChar (by decide +kernel) c

@[simp] theorem isBlank_toLower (c : Char) : Unicode.isBlank c.toLower = Unicode.isBlank c :=
  apply_toLower Unicode.isBlank (by decide +kernel) c

theorem toLower_eq_iff {c d : Char} (hd : d ∈ ['(', ')', '"', '\\']) : c.toLower = d ↔ c = d := by
  have hcapitals : ∀ n ∈ List.range' 65 26,
      decide ((Char.ofNat n).toLower = d) = decide (Char.ofNat n = d) := by
    simp only [List.mem_cons, List.not_mem_nil, or_false] at hd
    rcases hd with rfl | rfl | rfl | rfl <;> decide +kernel
  have hc := apply_toLower (fun c => decide (c = d)) hcapitals c
  simpa using hc

theorem isWord_map_toLower_iff {w : List Char} : IsWord (w.map Char.toLower) ↔ IsWord w := by
  cases w with
  | nil => rfl
  | cons c cs =>
    have hletters : (∀ d ∈ (c :: cs).map Char.toLower, isWordChar d = true) ↔
        ∀ d ∈ c :: cs, isWordChar d = true := by simp
    have hsymbols : (∀ d ∈ (c :: cs).map Char.toLower, isSymbolChar d = true) ↔
        ∀ d ∈ c :: cs, isSymbolChar d = true := by simp
    apply Iff.intro
    · intro h
      cases h with
      | letters hn h => exact .letters (by rwa [isNumberChar_toLower] at hn) (hletters.1 h)
      | symbols h => exact .symbols (hsymbols.1 h)
    · intro h
      cases h with
      | letters hn h => exact .letters (by rwa [isNumberChar_toLower]) (hletters.2 h)
      | symbols h => exact .symbols (hsymbols.2 h)

@[simp] theorem isSingleWord_foldCase (w : String) :
    isSingleWord (foldCase w) = isSingleWord w := by
  rw [Bool.eq_iff_iff, isSingleWord_iff, isSingleWord_iff, foldCase, String.toList_map]
  exact isWord_map_toLower_iff

theorem foldCase_ofList (cs : List Char) :
    foldCase (String.ofList cs) = String.ofList (cs.map Char.toLower) := by
  rw [← String.toList_inj, foldCase, String.toList_map, String.toList_ofList, String.toList_ofList]

/-! The same tokens with other texts. -/

def Token.mapText (f : String → String) : Token → Token
  | openGroup => openGroup
  | closeGroup => closeGroup
  | word w => word (f w)
  | number n => number (f n)
  | string s => string (f s)

@[simp] theorem Token.kind_mapText (f : String → String) (t : Token) :
    (t.mapText f).kind = t.kind := by
  cases t <;> rfl

@[simp] theorem Token.mapText_id : Token.mapText id = id := by
  funext t
  cases t <;> rfl

def Lexeme.mapText (f : String → String) (l : Lexeme) : Lexeme :=
  { l with token := l.token.mapText f }

@[simp] theorem Lexeme.kind_mapText (f : String → String) (l : Lexeme) :
    (l.mapText f).kind = l.kind :=
  l.token.kind_mapText f

@[simp] theorem Lexeme.mapText_id : Lexeme.mapText id = id := by
  funext l
  rw [mapText, Token.mapText_id]
  rfl

theorem Lexeme.map_mapText_id (ls : List Lexeme) : ls.map (mapText id) = ls := by
  rw [mapText_id, List.map_id]

/-! Reading in lower case. Escapes are decided by characters that have no case. -/

theorem Literal.read_map_toLower (cs : List Char) :
    read (cs.map Char.toLower) =
      { read cs with
        text := (read cs).text.map Char.toLower
        rest := (read cs).rest.map Char.toLower } := by
  fun_induction read cs with
  | case1 => rfl
  | case2 rest => rfl
  | case3 => rfl
  | case4 c rest ih =>
    rw [List.map_cons, List.map_cons, show '\\'.toLower = '\\' from rfl, read, ih]
    rfl
  | case5 c rest hquote hlone hpair ih =>
    have hplain : c.toLower ≠ '\\' := by
      rw [ne_eq, toLower_eq_iff (by simp)]
      exact ne_backslash hlone hpair
    rw [List.map_cons, read, ih]
    · rfl
    · rwa [toLower_eq_iff (by simp)]
    · exact fun hc => absurd hc hplain
    · exact fun d rest hc => absurd hc hplain

namespace Token

def Scan.fold (s : Scan) : Scan :=
  { s with token := s.token.mapText foldCase, rest := s.rest.map Char.toLower }

theorem Scan.run_map_toLower {make : String → Token}
    (hmake : ∀ w, (make w).mapText foldCase = make (foldCase w)) {accept : Char → Bool}
    (haccept : ∀ c, accept c.toLower = accept c) (c : Char) (cs : List Char) :
    run make accept c.toLower (cs.map Char.toLower) = (run make accept c cs).fold := by
  have hcomp : accept ∘ Char.toLower = accept := funext haccept
  simp only [run, fold, List.takeWhile_map, List.dropWhile_map, hcomp, List.length_map, hmake,
    foldCase_ofList, List.map_cons]

theorem scan_map_toLower (c : Char) (cs : List Char) :
    scan c.toLower (cs.map Char.toLower) = (scan c cs).fold := by
  have hopen : c.toLower = '(' ↔ c = '(' := toLower_eq_iff (by simp)
  have hclose : c.toLower = ')' ↔ c = ')' := toLower_eq_iff (by simp)
  have hquote : c.toLower = '"' ↔ c = '"' := toLower_eq_iff (by simp)
  simp only [scan, hopen, hclose, hquote, isNumberChar_toLower, isWordChar_toLower]
  split
  · rfl
  · split
    · rfl
    · split
      · rw [Literal.read_map_toLower]
        simp only [Scan.fold, mapText, foldCase_ofList]
      · split
        · exact Scan.run_map_toLower (fun _ => rfl) isNumberChar_toLower c cs
        · split
          · exact Scan.run_map_toLower (fun _ => rfl) isWordChar_toLower c cs
          · exact Scan.run_map_toLower (fun _ => rfl) isSymbolChar_toLower c cs

end Token

namespace Cursor

def fold (c : Cursor) : Cursor :=
  ⟨c.rest.map Char.toLower, c.position⟩

theorem skipBlanks_fold (c : Cursor) : c.fold.skipBlanks = c.skipBlanks.fold := by
  have hcomp : Unicode.isBlank ∘ Char.toLower = Unicode.isBlank := funext isBlank_toLower
  simp only [skipBlanks, fold, List.takeWhile_map, List.dropWhile_map, hcomp, List.length_map]

theorem next_fold (c : Cursor) :
    c.fold.next = (c.next.1.map (Lexeme.mapText foldCase), c.next.2.fold) := by
  unfold next
  rw [skipBlanks_fold]
  obtain ⟨rest, start⟩ := c.skipBlanks
  cases rest with
  | nil => rfl
  | cons first rest =>
    simp only [fold, List.map_cons, Token.scan_map_toLower]
    rfl

theorem lexemes_fold (c : Cursor) : c.fold.lexemes = c.lexemes.map (Lexeme.mapText foldCase) := by
  fun_induction lexemes c with
  | case1 c d h =>
    have hnext : c.fold.next = (none, d.fold) := by rw [next_fold, h]; rfl
    rw [lexemes_of_next_none hnext, List.map_nil]
  | case2 c l d h ih =>
    have hnext : c.fold.next = (some (l.mapText foldCase), d.fold) := by rw [next_fold, h]; rfl
    rw [lexemes_of_next_some hnext, ih, List.map_cons]

end Cursor

theorem Lexeme.ofText_foldCase (text : String) :
    ofText (foldCase text) = (ofText text).map (mapText foldCase) := by
  have hchars : Cursor.ofText (foldCase text) = (Cursor.ofText text).fold := by
    rw [Cursor.ofText, foldCase, String.toList_map]
    rfl
  rw [ofText, hchars, Cursor.lexemes_fold, ofText]

@[simp] theorem length_foldCase (text : String) : (foldCase text).length = text.length := by
  rw [foldCase, ← String.length_toList, String.toList_map, List.length_map, String.length_toList]

end RowQuery
