import RowQuery.Token.Cursor

/-! The tokens of a text without their places. Every later law about texts is stated for them, since
what a reader accepts does not depend on where a token stands. -/

namespace RowQuery

namespace Cursor

theorem lexemes_of_dropWhile_nil {c : Cursor} (h : c.rest.dropWhile Unicode.isBlank = []) :
    c.lexemes = [] := by
  apply lexemes_of_next_none (d := c.next.2)
  unfold next skipBlanks
  rw [h]

theorem next_of_dropWhile_cons {c : Cursor} {first : Char} {rest : List Char}
    (h : c.rest.dropWhile Unicode.isBlank = first :: rest) :
    ∃ l d, c.next = (some l, d) ∧ l.token = (Token.scan first rest).token ∧
      d.rest = (Token.scan first rest).rest := by
  unfold next skipBlanks
  rw [h]
  exact ⟨_, _, rfl, rfl, rfl⟩

end Cursor

namespace Token

def ofChars (cs : List Char) : List Token :=
  (Cursor.lexemes ⟨cs, 0⟩).map Lexeme.token

def ofText (text : String) : List Token :=
  (Lexeme.ofText text).map Lexeme.token

theorem ofText_eq_ofChars (text : String) : ofText text = ofChars text.toList := rfl

private theorem map_token_lexemes_congr {c d : Cursor} (h : c.rest = d.rest) :
    c.lexemes.map Lexeme.token = d.lexemes.map Lexeme.token := by
  induction hn : c.rest.length using Nat.strongRecOn generalizing c d with
  | ind n ih =>
    cases hskip : c.rest.dropWhile Unicode.isBlank with
    | nil =>
      rw [Cursor.lexemes_of_dropWhile_nil hskip, Cursor.lexemes_of_dropWhile_nil (h ▸ hskip)]
    | cons first rest =>
      obtain ⟨l, c', hc, hl, hc'⟩ := Cursor.next_of_dropWhile_cons hskip
      obtain ⟨m, d', hd, hm, hd'⟩ := Cursor.next_of_dropWhile_cons (h ▸ hskip)
      have hshorter := Cursor.length_lt_of_next hc
      rw [Cursor.lexemes_of_next_some hc, Cursor.lexemes_of_next_some hd, List.map_cons,
        List.map_cons, hl, hm]
      exact congrArg _ (ih c'.rest.length (hn ▸ hshorter) (hc'.trans hd'.symm) rfl)

theorem map_token_lexemes (c : Cursor) : c.lexemes.map Lexeme.token = ofChars c.rest :=
  map_token_lexemes_congr (d := ⟨c.rest, 0⟩) rfl

@[simp] theorem ofChars_nil : ofChars [] = [] := by
  rw [ofChars, Cursor.lexemes_of_dropWhile_nil rfl, List.map_nil]

private theorem ofChars_of_dropWhile_cons {cs rest : List Char} {first : Char}
    (h : cs.dropWhile Unicode.isBlank = first :: rest) :
    ofChars cs = (scan first rest).token :: ofChars (scan first rest).rest := by
  obtain ⟨l, d, hnext, hl, hd⟩ := Cursor.next_of_dropWhile_cons (c := ⟨cs, 0⟩) h
  rw [ofChars, Cursor.lexemes_of_next_some hnext, List.map_cons, map_token_lexemes, hl, hd]

theorem ofChars_cons_of_isBlank {c : Char} (h : Unicode.isBlank c = true) (cs : List Char) :
    ofChars (c :: cs) = ofChars cs := by
  have hskip : (c :: cs).dropWhile Unicode.isBlank = cs.dropWhile Unicode.isBlank :=
    List.dropWhile_cons_of_pos h
  cases hcs : cs.dropWhile Unicode.isBlank with
  | nil =>
    rw [ofChars, ofChars, Cursor.lexemes_of_dropWhile_nil (hskip.trans hcs),
      Cursor.lexemes_of_dropWhile_nil hcs]
  | cons first rest =>
    rw [ofChars_of_dropWhile_cons (hskip.trans hcs), ofChars_of_dropWhile_cons hcs]

theorem ofChars_cons {c : Char} (h : Unicode.isBlank c = false) (cs : List Char) :
    ofChars (c :: cs) = (scan c cs).token :: ofChars (scan c cs).rest := by
  apply ofChars_of_dropWhile_cons
  rw [List.dropWhile_cons_of_neg (by simp [h])]

/-- A text is read by dropping a blank or by taking a token, and in no other way. -/
theorem chars_induction {motive : List Char → Prop} (nil : motive [])
    (blank : ∀ c cs, Unicode.isBlank c = true → motive cs → motive (c :: cs))
    (token : ∀ c cs, Unicode.isBlank c = false → motive (scan c cs).rest → motive (c :: cs))
    (cs : List Char) : motive cs := by
  induction hn : cs.length using Nat.strongRecOn generalizing cs with
  | ind n ih =>
    cases cs with
    | nil => exact nil
    | cons c cs =>
      rw [List.length_cons] at hn
      cases hc : Unicode.isBlank c with
      | true => exact blank c cs hc (ih cs.length (by omega) cs rfl)
      | false =>
        have hlength := length_scan c cs
        have hpos := scan_width_pos c cs
        exact token c cs hc (ih (scan c cs).rest.length (by omega) _ rfl)

theorem ofChars_eq_nil_iff {cs : List Char} :
    ofChars cs = [] ↔ ∀ c ∈ cs, Unicode.isBlank c = true := by
  induction cs using chars_induction with
  | nil => simp
  | blank c cs hc ih => rw [ofChars_cons_of_isBlank hc, ih]; simp [hc]
  | token c cs hc => rw [ofChars_cons hc]; simp [hc]

end Token

end RowQuery
