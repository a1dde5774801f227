import RowQuery.Proofs.Token.Append
import RowQuery.Proofs.Token.Partition

/-! Blanks between the tokens of a text. They keep tokens apart and say nothing else: behind blanks
a text is read as if it stood alone, unless a literal was left open in front of them, and a text
keeps its tokens however much space is between them. -/

namespace RowQuery

def Lexeme.moveBy (n : Nat) (l : Lexeme) : Lexeme :=
  { l with start := l.start + n, stop := l.stop + n }

namespace Cursor

variable {c d : Cursor} {l : Lexeme}

def moveBy (n : Nat) (c : Cursor) : Cursor :=
  ⟨c.rest, c.position + n⟩

theorem moveBy_ofText (n : Nat) (text : String) :
    (ofText text).moveBy n = ⟨text.toList, n⟩ := by
  rw [moveBy, ofText, Nat.zero_add]

theorem next_moveBy (n : Nat) (c : Cursor) :
    (c.moveBy n).next = (c.next.1.map (.moveBy n), c.next.2.moveBy n) := by
  have hskip : (c.moveBy n).skipBlanks = c.skipBlanks.moveBy n := by
    simp only [skipBlanks, moveBy, Nat.add_right_comm]
  unfold next
  rw [hskip]
  obtain ⟨rest, start⟩ := c.skipBlanks
  cases rest with
  | nil => rfl
  | cons first rest =>
    simp only [moveBy, Option.map_some, Lexeme.moveBy, Nat.add_right_comm]

theorem lexemes_moveBy (n : Nat) (c : Cursor) :
    (c.moveBy n).lexemes = c.lexemes.map (.moveBy n) := by
  fun_induction lexemes c with
  | case1 c d h =>
    have hnext : (c.moveBy n).next = (none, d.moveBy n) := by rw [next_moveBy, h]; rfl
    rw [lexemes_of_next_none hnext, List.map_nil]
  | case2 c l d h ih =>
    have hnext : (c.moveBy n).next = (some (l.moveBy n), d.moveBy n) := by
      rw [next_moveBy, h]
      rfl
    rw [lexemes_of_next_some hnext, ih, List.map_cons]

theorem lexemes_blanks_append {blanks : List Char}
    (h : ∀ ch ∈ blanks, Unicode.isBlank ch = true) (rest : List Char) (position : Nat) :
    lexemes ⟨blanks ++ rest, position⟩ = lexemes ⟨rest, position + blanks.length⟩ := by
  apply lexemes_congr
  apply next_congr
  simp only [skipBlanks, List.dropWhile_append_of_pos h, List.takeWhile_append_of_pos h,
    List.length_append, Nat.add_assoc]

end Cursor

namespace Token

theorem ofChars_blanks_append {blanks : List Char}
    (h : ∀ ch ∈ blanks, Unicode.isBlank ch = true) (rest : List Char) :
    ofChars (blanks ++ rest) = ofChars rest := by
  rw [ofChars, Cursor.lexemes_blanks_append h, map_token_lexemes]

end Token

theorem Lexeme.ofText_append {a : String} (ha : isTerminated a = true) {b : String}
    (hb : Breaks b.toList) :
    ofText (a ++ b) = ofText a ++ (ofText b).map (moveBy a.length) := by
  have happend := Cursor.lexemes_append ha hb
  rw [Cursor.stop_ofText] at happend
  rw [ofText, ofText, ofText, ← Cursor.lexemes_moveBy, Cursor.moveBy_ofText, ← happend,
    Cursor.ofText, String.toList_append]
  rfl

theorem Lexeme.ofText_blanks_append {blanks : String}
    (h : ∀ ch ∈ blanks.toList, Unicode.isBlank ch = true) (text : String) :
    ofText (blanks ++ text) = (ofText text).map (moveBy blanks.length) := by
  rw [ofText, Cursor.ofText, String.toList_append, Cursor.lexemes_blanks_append h, Nat.zero_add,
    String.length_toList, ← Cursor.moveBy_ofText, Cursor.lexemes_moveBy, ofText]

/-! A literal that was left open goes on behind the blanks, and takes them in. -/

theorem Literal.length_text_lt {cs : List Char} (h : (read cs).closed = false) {c : Char}
    (hquote : c ≠ '"') (hbackslash : c ≠ '\\') (rest : List Char) :
    (read cs).text.length < (read (cs ++ c :: rest)).text.length := by
  fun_induction read cs with
  | case1 =>
    rw [List.nil_append, read]
    · exact Nat.zero_lt_succ _
    · exact hquote
    · exact fun hc => absurd hc hbackslash
    · exact fun _ _ hc => absurd hc hbackslash
  | case2 => cases h
  | case3 => exact Nat.zero_lt_succ _
  | case4 d cs ih => exact Nat.succ_lt_succ (ih h)
  | case5 d cs hd hlone hpair ih =>
    have hplain := ne_backslash hlone hpair
    rw [List.cons_append, read]
    · exact Nat.succ_lt_succ (ih h)
    · exact hd
    · exact fun hc => absurd hc hplain
    · exact fun _ _ hc => absurd hc hplain

theorem Token.scan_append_ne {c : Char} {cs : List Char} (h : (scan c cs).closed = false)
    {blank : Char} (hblank : Unicode.isBlank blank = true) (rest : List Char) :
    (scan c (cs ++ blank :: rest)).token ≠ (scan c cs).token := by
  cases eq_quote_of_not_closed h
  have hquote : blank ≠ '"' := by rintro rfl; exact absurd hblank (by decide)
  have hbackslash : blank ≠ '\\' := by rintro rfl; exact absurd hblank (by decide)
  rw [scan_quote] at h ⊢
  rw [scan_quote]
  have hlonger := Literal.length_text_lt h hquote hbackslash rest
  intro hsame
  rw [string.injEq, String.ofList_inj] at hsame
  rw [hsame] at hlonger
  exact Nat.lt_irrefl _ hlonger

namespace Cursor

variable {c d : Cursor} {l : Lexeme} {blank : Char}

theorem next_append_of_not_closed (h : c.next = (some l, d)) (hl : l.closed = false)
    (hblank : Unicode.isBlank blank = true) (rest : List Char) :
    ∃ l' d', (c.append (blank :: rest)).next = (some l', d') ∧ l'.token ≠ l.token := by
  unfold next at h
  split at h
  · cases h
  · rename_i first tail start hskip
    cases h
    unfold next
    rw [skipBlanks_append_of_cons hskip]
    exact ⟨_, _, rfl, Token.scan_append_ne hl hblank rest⟩

theorem lexemes_append_ne (h : c.lexemes.getLast?.all Lexeme.closed = false)
    (hblank : Unicode.isBlank blank = true) (rest : List Char) (more : List Token) :
    (c.append (blank :: rest)).lexemes.map Lexeme.token ≠
      c.lexemes.map Lexeme.token ++ more := by
  fun_induction lexemes c with
  | case1 => cases h
  | case2 c l d hnext ih =>
    intro hsame
    cases hl : l.closed with
    | false =>
      obtain ⟨l', d', hnext', hne⟩ := next_append_of_not_closed hnext hl hblank rest
      rw [lexemes_of_next_some hnext', List.map_cons, List.map_cons, List.cons_append] at hsame
      exact hne (List.cons.inj hsame).1
    | true =>
      have hbreaks : Breaks (blank :: rest) := breaks_cons.2 (.inl hblank)
      rw [all_getLast?_cons hl] at h
      rw [lexemes_of_next_some (next_append_of_some hnext hl hbreaks), List.map_cons,
        List.map_cons, List.cons_append] at hsame
      exact ih h (List.cons.inj hsame).2

end Cursor

/-! Other blanks between the same tokens. -/

/-- Blanks for the places in front of the tokens of a text, and behind the last one. Where there
were any between two tokens there still are, and an open literal is not drawn out. -/
structure Respacing (text : String) (blanks : Nat → List Char) : Prop where
  blank : ∀ n, ∀ ch ∈ blanks n, Unicode.isBlank ch = true
  apart : ∀ n, 0 < n → n < (Lexeme.ofText text).length → gap text n ≠ [] → blanks n ≠ []
  behind : isTerminated text = false → blanks (Lexeme.ofText text).length = []

/-- The next calls with these blanks in place of what they skip. -/
def respacedFrom (text : String) (blanks : Nat → List Char) (n calls : Nat) : List Char :=
  (List.range' n calls).flatMap fun i => blanks i ++ span text i

def respaced (text : String) (blanks : Nat → List Char) : String :=
  String.ofList (respacedFrom text blanks 0 ((Lexeme.ofText text).length + 1))

namespace Cursor

variable {text : String} {n : Nat}

theorem span_of_le (h : (Lexeme.ofText text).length ≤ n) : span text n = [] := by
  rw [span, start_of_next_none (next_behind_of_le h)]
  simp

theorem span_cases {l : Lexeme} (h : (Lexeme.ofText text)[n]? = some l) :
    Token.Spans (span text n) (behind text (n + 1)).rest l.token l.closed := by
  have hnext := exists_next_behind h
  have hstop := (position_lt_of_next hnext).2.2
  rw [(in_behind text (n + 1)).rest_eq, hstop, span, start_of_next_some hnext, hstop]
  exact ((in_behind text n).of_next_some hnext).2

private theorem extract_append_drop {α : Type} (l : List α) {start stop : Nat}
    (h : start ≤ stop) : l.extract start stop ++ l.drop stop = l.drop start := by
  rw [List.extract_eq_take_drop, ← Nat.add_sub_cancel' h, ← List.drop_drop, Nat.add_sub_cancel_left,
    List.take_append_drop]

theorem rest_behind (text : String) (n : Nat) :
    (behind text n).rest = gap text n ++ (span text n ++ (behind text (n + 1)).rest) := by
  have hbounds := (in_behind text n).bounds
  have hspan : (behind text n).start ≤ (behind text (n + 1)).position := hbounds.2.1
  rw [(in_behind text n).rest_eq, (in_behind text (n + 1)).rest_eq, gap, span,
    extract_append_drop _ hspan, extract_append_drop _ hbounds.1]

end Cursor

namespace Respacing

variable {text : String} {blanks : Nat → List Char} {n : Nat}

theorem respacedFrom_succ (text : String) (blanks : Nat → List Char) (n calls : Nat) :
    respacedFrom text blanks n (calls + 1) =
      blanks n ++ (span text n ++ respacedFrom text blanks (n + 1) calls) := by
  rw [respacedFrom, List.range'_succ, List.flatMap_cons, List.append_assoc, respacedFrom]

theorem respacedFrom_end (hn : (Lexeme.ofText text).length ≤ n) :
    respacedFrom text blanks n 1 = blanks n := by
  rw [respacedFrom_succ, Cursor.span_of_le hn]
  exact List.append_nil _

theorem respacedFrom_of_not_closed (h : Respacing text blanks) {l : Lexeme}
    (hl : (Lexeme.ofText text)[n]? = some l) (hopen : l.closed = false) {calls : Nat}
    (hcalls : n + 1 + calls = (Lexeme.ofText text).length) :
    respacedFrom text blanks (n + 1) (calls + 1) = [] := by
  have hrest := (Cursor.span_cases hl).rest_of_not_closed hopen
  have hlast : (Lexeme.ofText text).length ≤ n + 1 := by
    rw [← List.getElem?_eq_none_iff, ← Cursor.next_behind, Cursor.next, Cursor.skipBlanks, hrest]
    rfl
  have hlength : (Lexeme.ofText text).length = n + 1 := by omega
  have hterminated : isTerminated text = false := by
    rw [isTerminated, List.getLast?_eq_getElem?, hlength, Nat.add_sub_cancel, hl, Option.all_some,
      hopen]
  have hcalls : calls = 0 := by omega
  rw [hcalls, respacedFrom_end hlast, ← hlength, h.behind hterminated]

/-- A token is followed by blanks, or by what followed it before. -/
theorem head?_respacedFrom (h : Respacing text blanks) {calls : Nat}
    (hcalls : n + 1 + calls = (Lexeme.ofText text).length) :
    Breaks (respacedFrom text blanks (n + 1) (calls + 1)) ∨
      (respacedFrom text blanks (n + 1) (calls + 1)).head? =
        (Cursor.behind text (n + 1)).rest.head? := by
  rw [respacedFrom_succ]
  cases hblanks : blanks (n + 1) with
  | cons ch chs =>
    have hblank : Unicode.isBlank ch = true := h.blank (n + 1) ch (by simp [hblanks])
    exact .inl (breaks_cons.2 (.inl hblank))
  | nil =>
    cases calls with
    | zero =>
      rw [Cursor.span_of_le (by omega)]
      exact .inl breaks_nil
    | succ calls =>
      have hn : n + 1 < (Lexeme.ofText text).length := by omega
      have hgap : gap text (n + 1) = [] := by
        apply Decidable.byContradiction
        intro hgap
        exact h.apart (n + 1) (Nat.succ_pos n) hn hgap hblanks
      obtain ⟨c, cs, hspan, -⟩ := (Cursor.span_cases (List.getElem?_eq_getElem hn)).exists_cons
      rw [Cursor.rest_behind, hgap, hspan]
      exact .inr rfl

theorem ofChars_respacedFrom (h : Respacing text blanks) (calls : Nat)
    (hcalls : n + calls = (Lexeme.ofText text).length) :
    Token.ofChars (respacedFrom text blanks n (calls + 1)) = (Token.ofText text).drop n := by
  induction calls generalizing n with
  | zero =>
    have hnone : Token.ofChars (blanks n) = [] := Token.ofChars_eq_nil_iff.mpr (h.blank n)
    rw [respacedFrom_end (by omega), hnone, List.drop_of_length_le]
    rw [Token.ofText, List.length_map]
    omega
  | succ calls ih =>
    have hn : n < (Lexeme.ofText text).length := by omega
    have hcalls' : n + 1 + calls = (Lexeme.ofText text).length := by omega
    have hl := List.getElem?_eq_getElem hn
    have hspans := (Cursor.span_cases hl).of_head?
      (fun hopen => h.respacedFrom_of_not_closed hl hopen hcalls') (h.head?_respacedFrom hcalls')
    rw [respacedFrom_succ, Token.ofChars_blanks_append (h.blank n), hspans.ofChars_append,
      ih hcalls', Token.ofText, ← List.map_drop, ← List.map_drop, List.drop_eq_getElem_cons hn,
      List.map_cons]

theorem ofText_respaced (h : Respacing text blanks) :
    Token.ofText (respaced text blanks) = Token.ofText text := by
  have hwhole := h.ofChars_respacedFrom (n := 0) _ (Nat.zero_add _)
  rwa [List.drop_zero, ← String.toList_ofList (l := respacedFrom ..), ← Token.ofText_eq_ofChars]
    at hwhole

end Respacing

theorem Lexeme.moveBy_moveBy (m n : Nat) : moveBy m ∘ moveBy n = moveBy (m + n) := by
  funext l
  simp only [Function.comp_apply, moveBy, Nat.add_assoc, Nat.add_comm n m]

theorem exists_blank_cons {ws : String} (hne : ws ≠ "")
    (hws : ∀ ch ∈ ws.toList, Unicode.isBlank ch = true) :
    ∃ ch chs, ws.toList = ch :: chs ∧ Unicode.isBlank ch = true := by
  cases h : ws.toList with
  | nil => exact absurd (String.toList_inj.1 h) hne
  | cons ch chs => exact ⟨ch, chs, rfl, hws ch (by simp [h])⟩

section Spaced

variable {a ws : String} (hne : ws ≠ "") (hws : ∀ ch ∈ ws.toList, Unicode.isBlank ch = true)
  (b : String)

include hne hws

theorem Lexeme.ofText_spaced_of_terminated (ha : isTerminated a = true) :
    ofText (a ++ ws ++ b) = ofText a ++ (ofText b).map (moveBy (a.length + ws.length)) := by
  obtain ⟨ch, chs, hcons, hblank⟩ := exists_blank_cons hne hws
  have hbreaks : Breaks (ws ++ b).toList := by
    rw [String.toList_append, hcons]
    exact breaks_cons.2 (.inl hblank)
  rw [String.append_assoc, ofText_append ha hbreaks, ofText_blanks_append hws, List.map_map,
    moveBy_moveBy]

theorem Token.ofText_spaced_ne (ha : isTerminated a = false) :
    ofText (a ++ ws ++ b) ≠ ofText a ++ ofText b := by
  obtain ⟨ch, chs, hcons, hblank⟩ := exists_blank_cons hne hws
  have hopen := Cursor.lexemes_append_ne ha hblank (chs ++ b.toList) (ofText b)
  have htext : Cursor.ofText (a ++ ws ++ b) =
      (Cursor.ofText a).append (ch :: (chs ++ b.toList)) := by
    simp [Cursor.ofText, Cursor.append, hcons]
  rwa [← htext] at hopen

end Spaced

/-- Behind blanks a text is read as if it stood alone, only further on, unless a literal was left
open in front of them; an open literal never stays what it was. Other blanks between its tokens
leave a text the tokens that it has. -/
theorem ofText_spaced :
    (∀ a ws b : String, ws ≠ "" → (∀ ch ∈ ws.toList, Unicode.isBlank ch = true) →
      (isTerminated a = true → Lexeme.ofText (a ++ ws ++ b) =
        Lexeme.ofText a ++ (Lexeme.ofText b).map (.moveBy (a.length + ws.length))) ∧
      (isTerminated a = false →
        Token.ofText (a ++ ws ++ b) ≠ Token.ofText a ++ Token.ofText b)) ∧
    ∀ text blanks, Respacing text blanks →
      Token.ofText (respaced text blanks) = Token.ofText text := by
  refine ⟨fun a ws b hne hws => ⟨?_, ?_⟩, fun _ _ h => h.ofText_respaced⟩
  · exact Lexeme.ofText_spaced_of_terminated hne hws b
  · exact Token.ofText_spaced_ne hne hws b

/-- The first text ends in an escaped backslash and its closing quote, the second in a backslash
that would escape the blank. -/
theorem ofText_spaced_behind_backslash :
    let a := "x = \"q\\\\\""
    let cut := "x \"q\\"
    let ws := "\u2003\t"
    let text := "a>=(b \"c"
    let blanks := fun n => if n < 5 then ['\n', ' '] else []
    Lexeme.ofText (a ++ ws ++ ") 1") = Lexeme.ofText a ++
        [⟨.closeGroup, 11, 12, true⟩, ⟨.number "1", 13, 14, true⟩] ∧
      Token.ofText (cut ++ ws ++ "y") ≠ [.word "x", .string "q", .word "y"] ∧
      respaced text blanks = "\n a\n >=\n (\n b\n \"c" ∧
      Token.ofText (respaced text blanks) =
        [.word "a", .word ">=", .openGroup, .word "b", .string "c"] := by
  intro a cut ws text blanks
  have hne : ws ≠ "" := by decide
  have hws : ∀ ch ∈ ws.toList, Unicode.isBlank ch = true := List.all_eq_true.1 (by decide +kernel)
  have hlength : (Lexeme.ofText text).length = 5 := by decide +kernel
  have hblanks : Respacing text blanks := by
    refine ⟨fun n => ?_, fun n _ hn _ => ?_, fun _ => by rw [hlength]; rfl⟩
    · dsimp only [blanks]
      split
      · exact List.forall_mem_cons.2 ⟨by decide, List.forall_mem_singleton.2 (by decide)⟩
      · exact List.forall_mem_nil _
    · rw [hlength] at hn
      simp [blanks, hn]
  obtain ⟨hspaced, hrespaced⟩ := ofText_spaced
  refine ⟨?_, ?_, by decide +kernel, ?_⟩
  · rw [(hspaced a ws ") 1" hne hws).1 (by decide +kernel)]
    decide +kernel
  · have hcut := (hspaced cut ws "y" hne hws).2 (by decide +kernel)
    have htokens : Token.ofText cut ++ Token.ofText "y" = [.word "x", .string "q", .word "y"] := by
      decide +kernel
    rwa [htokens] at hcut
  · rw [hrespaced text blanks hblanks]
    decide +kernel

end RowQuery
