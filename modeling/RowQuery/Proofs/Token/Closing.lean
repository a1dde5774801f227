import Mathlib.Data.List.Induction
import RowQuery.Proofs.Token.Spacing

/-! Literals that the end of the input cuts off. The end stands for the quote that is missing: with
a quote behind it the text keeps its tokens, once a backslash that had nothing left to escape is
gone. -/

namespace RowQuery

namespace Literal

/-- Whether the next character would be escaped, where these stand in a literal from its opening
quote on. A backslash that is escaped itself escapes nothing. -/
def escapesNext (cs : List Char) : Bool :=
  cs.foldl (fun escaping c => !escaping && c == '\\') false

theorem escapesNext_cons {c : Char} (h : c ≠ '\\') (cs : List Char) :
    escapesNext (c :: cs) = escapesNext cs := by
  rw [escapesNext, List.foldl_cons, beq_false_of_ne h, Bool.and_false, escapesNext]

theorem escapesNext_escaped (c : Char) (cs : List Char) :
    escapesNext ('\\' :: c :: cs) = escapesNext cs := rfl

theorem escapesNext_concat (cs : List Char) (c : Char) :
    escapesNext (cs ++ [c]) = (!escapesNext cs && c == '\\') := by
  rw [escapesNext, List.foldl_append]
  rfl

theorem ne_nil_of_escapesNext {cs : List Char} (h : escapesNext cs = true) : cs ≠ [] := by
  rintro rfl
  cases h

/-- Backslashes in a row escape one another in pairs. In front of the row there is another
character, be it the opening quote. -/
theorem escapesNext_iff_odd (front cs : List Char) : escapesNext cs = true ↔
    ((front ++ '"' :: cs).reverse.takeWhile (· == '\\')).length % 2 = 1 := by
  induction cs using List.reverseRecOn with
  | nil => simp [escapesNext]
  | append_singleton cs c ih =>
    rw [escapesNext_concat, ← List.cons_append, ← List.append_assoc, List.reverse_concat,
      List.takeWhile_cons]
    by_cases hc : c = '\\'
    · rw [hc, beq_self_eq_true, if_pos rfl, Bool.and_true, List.length_cons, Bool.not_eq_true',
        ← Bool.not_eq_true, ih]
      omega
    · simp [hc]

variable {span text : List Char}

theorem Spells.dropLast (h : Spells span text false) (hlone : escapesNext span = true) :
    Spells span.dropLast text false ∧ escapesNext span.dropLast = false := by
  -- a literal that is left open has left open all that follows its first character
  generalize hopen : false = closed at h
  induction h with
  | quote => cases hopen
  | cut => cases hlone
  | cutBackslash => exact ⟨.cut, rfl⟩
  | @plain c span text closed hquote hbackslash _ ih =>
    rw [escapesNext_cons hbackslash] at hlone
    obtain ⟨hspells, hnone⟩ := ih hlone hopen
    rw [List.dropLast_cons_of_ne_nil (ne_nil_of_escapesNext hlone)]
    exact ⟨.plain hquote hbackslash hspells, by rw [escapesNext_cons hbackslash, hnone]⟩
  | @escaped c span text closed _ ih =>
    rw [escapesNext_escaped] at hlone
    obtain ⟨hspells, hnone⟩ := ih hlone hopen
    rw [List.dropLast_cons_of_ne_nil (List.cons_ne_nil c span),
      List.dropLast_cons_of_ne_nil (ne_nil_of_escapesNext hlone)]
    exact ⟨.escaped c hspells, hnone⟩

/-- A quote closes what was left open, unless a backslash takes it along. -/
theorem Spells.append_quote (h : Spells span text false) :
    Spells (span ++ ['"']) (if escapesNext span then text ++ ['"'] else text)
      (!escapesNext span) := by
  generalize hopen : false = closed at h
  induction h with
  | quote => cases hopen
  | cut => exact .quote
  | cutBackslash => exact .escaped '"' .cut
  | plain hquote hbackslash _ ih =>
    rw [escapesNext_cons hbackslash, List.cons_append, List.cons_append, ← apply_ite]
    exact .plain hquote hbackslash (ih hopen)
  | escaped c _ ih =>
    rw [escapesNext_escaped, List.cons_append, List.cons_append, List.cons_append, ← apply_ite]
    exact .escaped c (ih hopen)

theorem Spells.close (h : Spells span text false) :
    Spells ((if escapesNext span then span.dropLast else span) ++ ['"']) text true := by
  split
  · rename_i hlone
    obtain ⟨hspells, hnone⟩ := h.dropLast hlone
    simpa [hnone] using hspells.append_quote
  · rename_i hnone
    simpa [hnone] using h.append_quote

end Literal

namespace Cursor

theorem exists_front_of_lexemes {c : Cursor} {ls more : List Lexeme} {l : Lexeme}
    (h : c.lexemes = ls ++ l :: more) :
    ∃ front span rest, c.rest = front ++ (span ++ rest) ∧ l.start = c.position + front.length ∧
      Token.Spans span rest l.token l.closed ∧
      ∀ tail, tail.head? = (span ++ rest).head? →
        lexemes ⟨front ++ tail, c.position⟩ = ls ++ lexemes ⟨tail, l.start⟩ := by
  fun_induction lexemes c generalizing ls with
  | case1 => simp at h
  | case2 c first d hnext ih =>
    obtain ⟨blanks, span, hrest, hblank, hspans, hstart, hstop⟩ := exists_append_of_next hnext
    cases ls with
    | nil =>
      obtain ⟨rfl, -⟩ := List.cons.inj h
      refine ⟨blanks, span, d.rest, hrest, hstart, hspans, fun tail _ => ?_⟩
      rw [lexemes_blanks_append hblank, ← hstart, List.nil_append]
    | cons first' ls =>
      obtain ⟨rfl, hls⟩ := List.cons.inj h
      obtain ⟨front, span', rest, hrest', hstart', hspans', hfront⟩ := ih hls
      have hposition : d.position = first.stop := (position_lt_of_next hnext).2.2
      have hclosed : first.closed ≠ false := by
        intro hopen
        rw [lexemes_of_not_closed hnext hopen] at hls
        simp at hls
      refine ⟨blanks ++ (span ++ front), span', rest, ?_, ?_, hspans', fun tail hhead => ?_⟩
      · rw [hrest, hrest', List.append_assoc, List.append_assoc]
      · rw [List.length_append, List.length_append]
        omega
      · -- the first token ends where it did, since the same character follows it
        have hhead' : (front ++ tail).head? = d.rest.head? := by
          rw [hrest', List.head?_append, List.head?_append, hhead]
        have hspans := hspans.of_head? (fun hopen => absurd hopen hclosed) (.inr hhead')
        have htail := hfront tail hhead
        rw [hposition] at htail
        rw [List.append_assoc, List.append_assoc, lexemes_blanks_append hblank,
          lexemes_of_spans hspans, ← hstart, ← hstop, htail, List.cons_append]

end Cursor

/-- A literal that is left open ends the text. In its place any other is read as what it spells. -/
theorem Lexeme.exists_open_literal {text s : String} {ls : List Lexeme} {start stop : Nat}
    (h : ofText text = ls ++ [⟨.string s, start, stop, false⟩]) :
    ∃ front span, text.toList = front ++ '"' :: span ∧ start = front.length ∧
      Literal.Spells span s.toList false ∧
      ∀ text' t span' closed, text'.toList = front ++ '"' :: span' →
        Literal.Spells span' t.toList closed →
          ofText text' = ls ++ [⟨.string t, start, text'.length, closed⟩] := by
  obtain ⟨front, span, rest, htext, hstart, hspans, hfront⟩ := Cursor.exists_front_of_lexemes h
  cases hspans with
  | @literal span chars _ _ hspells hrest =>
    rw [hrest rfl, List.append_nil] at htext hfront
    rw [Cursor.ofText, Nat.zero_add] at hstart
    refine ⟨front, span, htext, hstart, by rwa [String.toList_ofList], ?_⟩
    intro text' t span' closed htext' hspells'
    have hliteral : Token.Spans ('"' :: span') [] (.string (String.ofList t.toList)) closed :=
      .literal hspells' fun _ => rfl
    have hread := Cursor.lexemes_of_spans hliteral start
    rw [List.append_nil, Cursor.lexemes_of_dropWhile_nil (c := ⟨[], _⟩) rfl,
      String.ofList_toList] at hread
    rw [ofText, Cursor.ofText, ← String.length_toList, htext', List.length_append, ← hstart,
      ← hread]
    exact hfront _ rfl

/-- The text without the backslash at its end, where that one escapes nothing in the literal that
begins at `start`. -/
def withoutLoneEscape (text : String) (start : Nat) : String :=
  if Literal.escapesNext (text.toList.drop (start + 1)) then String.ofList text.toList.dropLast
  else text

theorem toList_withoutLoneEscape {text : String} {front span : List Char}
    (h : text.toList = front ++ '"' :: span) :
    (withoutLoneEscape text front.length).toList =
      front ++ '"' :: (if Literal.escapesNext span then span.dropLast else span) := by
  have hinside : text.toList.drop (front.length + 1) = span := by simp [h]
  rw [withoutLoneEscape, hinside]
  split
  · rename_i hlone
    rw [String.toList_ofList, h, List.dropLast_append_of_ne_nil (List.cons_ne_nil _ span),
      List.dropLast_cons_of_ne_nil (Literal.ne_nil_of_escapesNext hlone)]
  · exact h

/-- The end of the input stands for the quote that an open literal lacks. With a quote in its place
the tokens of the text are the same and begin where they did, and the literal is closed. Only a
backslash that escapes nothing has to go: it would take the quote into the literal, which stays
open. There is one if and only if the text ends in an odd number of backslashes. -/
theorem ofText_closed {text s : String} {ls : List Lexeme} {start stop : Nat}
    (h : Lexeme.ofText text = ls ++ [⟨.string s, start, stop, false⟩]) :
    let closed := withoutLoneEscape text start ++ "\""
    let escapes := Literal.escapesNext (text.toList.drop (start + 1))
    Lexeme.ofText closed = ls ++ [⟨.string s, start, closed.length, true⟩] ∧
      Lexeme.ofText (text ++ "\"") = ls ++
        [⟨.string (if escapes then s ++ "\"" else s), start, (text ++ "\"").length, !escapes⟩] ∧
      (escapes = true ↔ (text.toList.reverse.takeWhile (· == '\\')).length % 2 = 1) := by
  obtain ⟨front, span, htext, rfl, hspells, hread⟩ := Lexeme.exists_open_literal h
  have hinside : text.toList.drop (front.length + 1) = span := by simp [htext]
  rw [hinside]
  intro closed escapes
  refine ⟨?closed, ?quoted, ?odd⟩
  case closed =>
    have hclosed : closed.toList = front ++ '"' ::
        ((if Literal.escapesNext span then span.dropLast else span) ++ ['"']) := by
      rw [String.toList_append, toList_withoutLoneEscape htext, List.append_assoc, List.cons_append]
      rfl
    exact hread closed s _ true hclosed hspells.close
  case quoted =>
    have hquoted : (text ++ "\"").toList = front ++ '"' :: (span ++ ['"']) := by
      rw [String.toList_append, htext, List.append_assoc, List.cons_append]
      rfl
    have htaken : (if escapes then s ++ "\"" else s).toList =
        if escapes then s.toList ++ ['"'] else s.toList := by
      rw [apply_ite String.toList, String.toList_append]
      rfl
    exact hread _ _ _ _ hquoted (htaken ▸ hspells.append_quote)
  case odd =>
    rw [htext]
    exact Literal.escapesNext_iff_odd front span

/-- Of three backslashes at the end the last is left alone, behind an escaped quote as well; of two
none is. -/
theorem ofText_closed_behind_backslashes :
    let odd := "a>=\"\\\"\\\\\\"
    let even := "(\" )\\\\"
    withoutLoneEscape odd 3 = "a>=\"\\\"\\\\" ∧
      Lexeme.ofText (withoutLoneEscape odd 3 ++ "\"") =
        [⟨.word "a", 0, 1, true⟩, ⟨.word ">=", 1, 3, true⟩, ⟨.string "\"\\", 3, 9, true⟩] ∧
      Lexeme.ofText (odd ++ "\"") =
        [⟨.word "a", 0, 1, true⟩, ⟨.word ">=", 1, 3, true⟩, ⟨.string "\"\\\"", 3, 10, false⟩] ∧
      Lexeme.ofText (even ++ "\"") =
        [⟨.openGroup, 0, 1, true⟩, ⟨.string " )\\", 1, 7, true⟩] := by
  intro odd even
  have hodd : Lexeme.ofText odd =
      [⟨.word "a", 0, 1, true⟩, ⟨.word ">=", 1, 3, true⟩] ++ [⟨.string "\"\\", 3, 9, false⟩] := by
    decide +kernel
  have heven : Lexeme.ofText even =
      [⟨.openGroup, 0, 1, true⟩] ++ [⟨.string " )\\", 1, 6, false⟩] := by
    decide +kernel
  obtain ⟨hclosed, hquoted, -⟩ := ofText_closed hodd
  refine ⟨by decide +kernel, ?_, ?_, ?_⟩
  · rw [hclosed]
    decide +kernel
  · rw [hquoted]
    decide +kernel
  · rw [(ofText_closed heven).2.1]
    decide +kernel

end RowQuery
