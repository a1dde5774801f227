import RowQuery.Proofs.Token.Reading
import RowQuery.Proofs.Token.Span

/-! Reading goes on across a seam. What begins with a blank, or with the end of a group, is read
behind a text as if it stood alone, unless that text ends within a literal. -/

namespace RowQuery

def isTerminated (text : String) : Bool :=
  (Lexeme.ofText text).getLast?.all Lexeme.closed

theorem Stops.takeWhile_append {accept : Char → Bool} {rest : List Char} (h : Stops accept rest)
    (cs : List Char) : (cs ++ rest).takeWhile accept = cs.takeWhile accept := by
  induction cs with
  | nil =>
    cases rest with
    | nil => rfl
    | cons c rest => simp [stops_cons.1 h]
  | cons c cs ih =>
    rw [List.cons_append, List.takeWhile_cons, List.takeWhile_cons, ih]

theorem Stops.dropWhile_append {accept : Char → Bool} {rest : List Char} (h : Stops accept rest)
    (cs : List Char) : (cs ++ rest).dropWhile accept = cs.dropWhile accept ++ rest := by
  induction cs with
  | nil =>
    cases rest with
    | nil => rfl
    | cons c rest => simp [stops_cons.1 h]
  | cons c cs ih =>
    rw [List.cons_append, List.dropWhile_cons, List.dropWhile_cons, ih]
    split <;> rfl

theorem Literal.read_append {cs : List Char} (h : (read cs).closed = true) (rest : List Char) :
    read (cs ++ rest) = { read cs with rest := (read cs).rest ++ rest } := by
  fun_induction read cs with
  | case1 => cases h
  | case2 => rfl
  | case3 => cases h
  | case4 c cs ih =>
    rw [List.cons_append, List.cons_append, read, ih h]
    rfl
  | case5 c cs hquote hlone hpair ih =>
    have hbackslash := ne_backslash hlone hpair
    rw [List.cons_append, read, ih h]
    · rfl
    · exact hquote
    · exact fun hc => absurd hc hbackslash
    · exact fun d rest hc => absurd hc hbackslash

namespace Token

variable {c : Char} {cs rest : List Char}

theorem Scan.run_append_of_stops (make : String → Token) {accept : Char → Bool} (c : Char)
    (cs : List Char) (h : Stops accept rest) :
    run make accept c (cs ++ rest) =
      { run make accept c cs with rest := (run make accept c cs).rest ++ rest } := by
  simp only [run, h.takeWhile_append, h.dropWhile_append]

/-- What breaks every run is not taken into the token before it. -/
theorem scan_append (hclosed : (scan c cs).closed = true) (hrest : Breaks rest) :
    scan c (cs ++ rest) = { scan c cs with rest := (scan c cs).rest ++ rest } := by
  unfold scan at hclosed ⊢
  split
  · rfl
  · split
    · rfl
    · split
      · rename_i hopen hclose hquote
        rw [if_neg hopen, if_neg hclose, if_pos hquote] at hclosed
        rw [Literal.read_append hclosed]
      · split
        · exact Scan.run_append_of_stops _ c cs hrest.stops_isNumberChar
        · split
          · exact Scan.run_append_of_stops _ c cs hrest.stops_isWordChar
          · exact Scan.run_append_of_stops _ c cs hrest.stops_isSymbolChar

end Token

namespace Cursor

def append (c : Cursor) (rest : List Char) : Cursor :=
  ⟨c.rest ++ rest, c.position⟩

variable {c d : Cursor} {l : Lexeme} {rest : List Char}

theorem skipBlanks_append_of_cons {first : Char} {tail : List Char} {start : Nat}
    (h : c.skipBlanks = ⟨first :: tail, start⟩) (rest : List Char) :
    (c.append rest).skipBlanks = ⟨first :: (tail ++ rest), start⟩ := by
  have hdrop : c.rest.dropWhile Unicode.isBlank = first :: tail := congrArg Cursor.rest h
  have hlength : (c.rest.takeWhile Unicode.isBlank).length ≠ c.rest.length := by
    have hall := congrArg List.length
      (List.takeWhile_append_dropWhile (p := Unicode.isBlank) (l := c.rest))
    rw [hdrop, List.length_append, List.length_cons] at hall
    omega
  have hstart := congrArg Cursor.position h
  simp only [skipBlanks] at hstart
  simp only [skipBlanks, append, List.dropWhile_append, List.takeWhile_append, hdrop,
    if_neg hlength, hstart]
  rfl

theorem skipBlanks_append_of_nil {start : Nat} (h : c.skipBlanks = ⟨[], start⟩)
    (rest : List Char) : (c.append rest).skipBlanks = skipBlanks ⟨rest, c.stop⟩ := by
  have hdrop : c.rest.dropWhile Unicode.isBlank = [] := congrArg Cursor.rest h
  have hall : c.rest.takeWhile Unicode.isBlank = c.rest := by
    have hsplit := List.takeWhile_append_dropWhile (p := Unicode.isBlank) (l := c.rest)
    rwa [hdrop, List.append_nil] at hsplit
  simp only [skipBlanks, append, List.dropWhile_append, List.takeWhile_append, hdrop, hall, stop,
    List.isEmpty_nil, if_true, List.length_append, Nat.add_assoc]

theorem next_congr (h : c.skipBlanks = d.skipBlanks) : c.next = d.next := by
  unfold next
  rw [h]

theorem lexemes_congr (h : c.next = d.next) : c.lexemes = d.lexemes := by
  obtain ⟨e, hnext⟩ | ⟨l, e, hnext⟩ := c.next_cases
  · rw [lexemes_of_next_none hnext, lexemes_of_next_none (h.symm.trans hnext)]
  · rw [lexemes_of_next_some hnext, lexemes_of_next_some (h.symm.trans hnext)]

theorem next_append_of_none (h : c.next = (none, d)) (rest : List Char) :
    (c.append rest).next = next ⟨rest, c.stop⟩ := by
  unfold next at h
  split at h
  · rename_i stop hskip
    exact next_congr (skipBlanks_append_of_nil hskip rest)
  · cases h

theorem next_append_of_some (h : c.next = (some l, d)) (hl : l.closed = true)
    (hrest : Breaks rest) : (c.append rest).next = (some l, d.append rest) := by
  unfold next at h
  split at h
  · cases h
  · rename_i first tail start hskip
    cases h
    unfold next
    rw [skipBlanks_append_of_cons hskip rest]
    dsimp only
    rw [Token.scan_append hl hrest]
    rfl

/-- Nothing follows a literal that is left open. -/
theorem lexemes_of_not_closed (h : c.next = (some l, d)) (hl : l.closed = false) :
    d.lexemes = [] := by
  apply lexemes_of_dropWhile_nil
  unfold next at h
  split at h
  · cases h
  · cases h
    rw [Token.rest_of_not_closed hl]
    rfl

theorem all_getLast?_cons (hl : l.closed = true) (ls : List Lexeme) :
    (l :: ls).getLast?.all Lexeme.closed = ls.getLast?.all Lexeme.closed := by
  rw [List.getLast?_cons]
  cases ls.getLast? with
  | none => exact hl
  | some m => rfl

/-- Behind complete tokens the rest of a text is read from where it begins. -/
theorem lexemes_append (hclosed : c.lexemes.getLast?.all Lexeme.closed = true)
    (hrest : Breaks rest) :
    (c.append rest).lexemes = c.lexemes ++ lexemes ⟨rest, c.stop⟩ := by
  fun_induction lexemes c with
  | case1 c d h => exact lexemes_congr (next_append_of_none h rest)
  | case2 c l d h ih =>
    -- only the last literal could be open, and the hypothesis speaks of that one
    cases hl : l.closed with
    | false =>
      rw [lexemes_of_not_closed h hl, List.getLast?_singleton, Option.all_some, hl] at hclosed
      cases hclosed
    | true =>
      rw [all_getLast?_cons hl] at hclosed
      rw [lexemes_of_next_some (next_append_of_some h hl hrest), ih hclosed, stop_of_next h,
        List.cons_append]

end Cursor

theorem Token.ofChars_append {text : String} (h : isTerminated text = true) {rest : List Char}
    (hrest : Breaks rest) : ofChars (text.toList ++ rest) = ofText text ++ ofChars rest := by
  have happend := Cursor.lexemes_append h hrest
  rw [ofText, Lexeme.ofText, ← map_token_lexemes ⟨rest, (Cursor.ofText text).stop⟩,
    ← List.map_append, ← happend]
  rfl

end RowQuery
