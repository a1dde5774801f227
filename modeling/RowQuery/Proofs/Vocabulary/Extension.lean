import RowQuery.Proofs.Filter.Acceptance
import RowQuery.Proofs.Order.Acceptance
import RowQuery.Proofs.Parse.Simulation
import RowQuery.Proofs.Print.Success
import RowQuery.Proofs.Token.Spelling

/-! Vocabularies that say more. A text that is read with one vocabulary is read the same with every
other that keeps the meanings it came upon. Among order lists there is one thing more to be kept: a
delimiter must not become a direction, since behind a field the direction would be read. -/

namespace RowQuery

/-- What the second lookup says of a word that a text can hold, the first says too. -/
def Keeps {α : Type} (lookup' lookup : String → Option α) : Prop :=
  ∀ w, isSingleWord w = true → ∀ meaning, lookup w = some meaning → lookup' w = some meaning

theorem Keywords.keeps_insert {α : Type} {keywords : Keywords α} {caseSensitive : Bool}
    {word : String} (h : keywords.get? (spell caseSensitive word) = none) (meaning : α) :
    Keeps (fun w => (keywords.insert (spell caseSensitive word) meaning).get?
      (spell caseSensitive w)) (fun w => keywords.get? (spell caseSensitive w)) := by
  intro w _ given hw
  dsimp only at hw ⊢
  have hne : spell caseSensitive w ≠ spell caseSensitive word := by
    intro hsame
    rw [hsame, h] at hw
    cases hw
  rw [get?_insert, if_neg hne, hw]

namespace Filter

structure KeepsMeanings (v' v : Vocabulary) : Prop where
  operators : Keeps v'.operator? v.operator?
  connectives : Keeps v'.connective? v.connective?

variable {v v' : Vocabulary} {options : ParseOptions} {s t : State} {tok : Token}

theorem KeepsMeanings.move (h : KeepsMeanings v' v) (htok : tok.Legible) (hmove : Move v options s tok t) :
    Move v' options s tok t := by
  cases hmove with
  | openGroup hlimit => exact .openGroup hlimit
  | field w => exact .field w
  | operator ho => exact .operator (h.operators _ (isSingleWord_iff.mpr htok) _ ho)
  | value hvalue => exact .value hvalue
  | closeGroup body => exact .closeGroup body
  | connective hk => exact .connective (h.connectives _ (isSingleWord_iff.mpr htok) _ hk)

theorem KeepsMeanings.machine (h : KeepsMeanings v' v) (options : ParseOptions) :
    (machine v' options).Includes (machine v options) where
  step := by
    intro s t tok htok hstep
    have hmove := (machine_movesBy v options s t tok).mp hstep
    exact (machine_movesBy v' options s t tok).mpr (h.move htok hmove)
  finish := fun _ _ hfinish => hfinish

theorem KeepsMeanings.parse (h : KeepsMeanings v' v) {text : String} {c? : Option Clause}
    (hparse : parse v options text = .ok c?) : Filter.parse v' options text = .ok c? := by
  by_cases htext : Token.ofText text = []
  · rwa [parse_of_ofText_nil htext] at hparse ⊢
  · rw [parse_of_ofText_ne_nil htext] at hparse ⊢
    cases hresult : ((Filter.machine v options).run text.length .start
        (Lexeme.ofText text)).result with
    | error e => simp [hresult, Except.map] at hparse
    | ok c =>
      rw [(h.machine options).result_of_ok hresult]
      rwa [hresult] at hparse

end Filter

namespace Order

/-- All that the second vocabulary says in order lists, the first says too, and what was nothing but
a delimiter has not become a direction. -/
structure KeepsRoles (v' v : Vocabulary) : Prop where
  directions : Keeps v'.direction? v.direction?
  delimiters : ∀ w, isSingleWord w = true → v.isDelimiter w = true → v'.isDelimiter w = true
  undirected : ∀ w, isSingleWord w = true → v.isDelimiter w = true → v.direction? w = none →
    v'.direction? w = none

variable {v v' : Vocabulary} {s t : State} {tok : Token}

theorem KeepsRoles.move (h : KeepsRoles v' v) (htok : tok.Legible) (hmove : Move v s tok t) :
    Move v' s tok t := by
  cases hmove with
  | field done w => exact .field done w
  | direction hd => exact .direction (h.directions _ (isSingleWord_iff.mpr htok) _ hd)
  | skip hd hw =>
    have hword := isSingleWord_iff.mpr htok
    exact .skip (h.undirected _ hword hw hd) (h.delimiters _ hword hw)
  | delimiter hw => exact .delimiter (h.delimiters _ (isSingleWord_iff.mpr htok) hw)

theorem KeepsRoles.machine (h : KeepsRoles v' v) : (machine v').Includes (machine v) where
  step := by
    intro s t tok htok hstep
    have hmove := (machine_movesBy v s t tok).mp hstep
    exact (machine_movesBy v' s t tok).mpr (h.move htok hmove)
  finish := fun _ _ hfinish => hfinish

theorem KeepsRoles.parse (h : KeepsRoles v' v) {text : String} {l : List OrderEntry}
    (hparse : parse v text = .ok l) : Order.parse v' text = .ok l := by
  by_cases htext : Token.ofText text = []
  · rwa [parse_of_ofText_nil htext] at hparse ⊢
  · rw [parse_of_ofText_ne_nil htext] at hparse ⊢
    exact h.machine.result_of_ok hparse

/-! Nothing less will do. Each word that counts in a list stands in a short one, from which its role
can be told. -/

def Conserves (v' v : Vocabulary) : Prop :=
  ∀ text l, parse v text = .ok l → parse v' text = .ok l

theorem Conserves.isList (h : Conserves v' v) {ts : List Token} {es : List OrderEntry}
    (hts : ∀ t ∈ ts, t.Legible) (hlist : IsList v ts es) : IsList v' ts es := by
  obtain ⟨text, rfl⟩ := Token.exists_ofText_eq hts
  have hread := h text es (parse_eq_ok_iff.mpr (.inr hlist))
  rcases parse_eq_ok_iff.mp hread with ⟨hnil, -⟩ | hlist'
  · exact absurd hnil hlist.tokens_ne_nil
  · exact hlist'

theorem IsList.direction?_of_pair {f w : String} {d : Direction}
    (h : IsList v [.word f, .word w] [⟨f, d == .descending⟩]) : v.direction? w = some d := by
  obtain ⟨t, hreads, hfinish⟩ := h.reads []
  obtain ⟨_, hfield, hreads⟩ := exists_move hreads
  cases hfield
  obtain ⟨_, hmove, hreads⟩ := exists_move hreads
  cases hreads
  cases hmove with
  | skip => cases hfinish
  | @direction _ _ _ d' hd =>
    have hsame : (d' == .descending) = (d == .descending) := by simpa [finish] using hfinish
    cases d <;> cases d' <;> simp_all

theorem IsList.delimiter_of_triple {f w g : String}
    (h : IsList v [.word f, .word w, .word g] [⟨f, false⟩, ⟨g, false⟩]) :
    v.isDelimiter w = true ∧ v.direction? w = none := by
  obtain ⟨t, hreads, hfinish⟩ := h.reads []
  obtain ⟨_, hfield, hreads⟩ := exists_move hreads
  cases hfield
  obtain ⟨_, hmove, hreads⟩ := exists_move hreads
  cases hmove with
  | skip hd hw => exact ⟨hw, hd⟩
  | direction =>
    -- The second field would be taken for a delimiter, behind which the list cannot end.
    obtain ⟨_, hdelimiter, hreads⟩ := exists_move hreads
    cases hdelimiter
    cases hreads
    cases hfinish

theorem IsList.isDelimiter_of_quadruple {f w g : String} {es : List OrderEntry}
    (h : IsList v [.word f, .word w, .word w, .word g] es) : v.isDelimiter w = true := by
  obtain ⟨t, hreads, -⟩ := h.reads []
  obtain ⟨_, hfield, hreads⟩ := exists_move hreads
  cases hfield
  obtain ⟨_, hmove, hreads⟩ := exists_move hreads
  cases hmove with
  | skip _ hw => exact hw
  | direction =>
    obtain ⟨_, hdelimiter, -⟩ := exists_move hreads
    cases hdelimiter with
    | delimiter hw => exact hw

section Words

variable {w : String} (h : Conserves v' v) (hw : isSingleWord w = true)

include h hw

theorem Conserves.direction? {d : Direction} (hd : v.direction? w = some d) :
    v'.direction? w = some d := by
  have hlegible := isSingleWord_iff.mp hw
  have hlist : IsList v [.word w, .word w] [⟨w, d == .descending⟩] := .one (.directed w hd)
  exact (h.isList (by simp [Token.Legible, hlegible]) hlist).direction?_of_pair

theorem Conserves.undirected (hdelimiter : v.isDelimiter w = true)
    (hd : v.direction? w = none) : v'.isDelimiter w = true ∧ v'.direction? w = none := by
  have hlegible := isSingleWord_iff.mp hw
  have hlist : IsList v [.word w, .word w, .word w] [⟨w, false⟩, ⟨w, false⟩] :=
    .cons (.bare w) hdelimiter (fun _ => hd) (.one (.bare w))
  exact (h.isList (by simp [Token.Legible, hlegible]) hlist).delimiter_of_triple

theorem Conserves.isDelimiter (hdelimiter : v.isDelimiter w = true) :
    v'.isDelimiter w = true := by
  have hlegible := isSingleWord_iff.mp hw
  cases hd : v.direction? w with
  | none => exact (h.undirected hw hdelimiter hd).1
  | some d =>
    have hlist : IsList v [.word w, .word w, .word w, .word w]
        [⟨w, d == .descending⟩, ⟨w, false⟩] :=
      .cons (.directed w hd) hdelimiter nofun (.one (.bare w))
    exact (h.isList (by simp [Token.Legible, hlegible]) hlist).isDelimiter_of_quadruple

end Words

theorem keepsRoles_iff : KeepsRoles v' v ↔ Conserves v' v := by
  apply Iff.intro
  · intro h text l
    exact h.parse
  · intro h
    exact ⟨fun w hw d => h.direction? hw, fun w hw => h.isDelimiter hw,
      fun w hw hdelimiter hd => (h.undirected hw hdelimiter hd).2⟩

end Order

theorem Filter.keepsMeanings_withOperator {v : Vocabulary} {word : String} (h : v.operator? word = none)
    (o : Operator) : KeepsMeanings (v.withOperator word o) v where
  operators := Keywords.keeps_insert h o
  connectives := fun _ _ _ hk => hk

/-- A delimiter is not free to become a direction. -/
theorem Order.keepsRoles_withDirection {v : Vocabulary} {word : String}
    (h : v.direction? word = none) (hdelimiter : v.isDelimiter word = false) (d : Direction) :
    KeepsRoles (v.withDirection word d) v where
  directions := Keywords.keeps_insert h d
  delimiters := fun _ _ hw => hw
  undirected := by
    intro w _ hw hd
    have hne : spell v.caseSensitive w ≠ spell v.caseSensitive word := by
      intro hsame
      rw [Vocabulary.isDelimiter, hsame, ← Vocabulary.isDelimiter, hdelimiter] at hw
      cases hw
    rw [Vocabulary.direction?_withDirection, if_neg hne, hd]

/-- Every filter and every order list is read as before with a vocabulary that extends the one
before; for order lists no weaker condition would do. -/
theorem parse_extended (v v' : Vocabulary) :
    (Filter.KeepsMeanings v' v → ∀ options text c?, Filter.parse v options text = .ok c? →
      Filter.parse v' options text = .ok c?) ∧
    (Order.KeepsRoles v' v ↔ ∀ text l, Order.parse v text = .ok l → Order.parse v' text = .ok l) :=
  ⟨fun h _ _ _ hparse => h.parse hparse, Order.keepsRoles_iff⟩

/-- A connective becomes an operator as well, and where it stands still tells which it is. A comma
that becomes a direction is lost as a delimiter. -/
theorem parse_extended_to_two_roles :
    let v := Vocabulary.preset
    let filter := "and eq and and or eq or"
    let list := "up desc, desc"
    let c : Clause := .combined (.condition "and" .isEqualTo (.text "and")) .and
      (.condition "or" .isEqualTo (.text "or"))
    Filter.parse (v.withOperator "and" .contains) {} filter = .ok (some c) ∧
      Order.parse (v.withDirection "up" .ascending) list = .ok [⟨"up", true⟩, ⟨"desc", false⟩] ∧
      ¬ Order.KeepsRoles (v.withDirection "," .ascending) v := by
  intro v filter list c
  have hand : v.operator? "and" = none := by decide +kernel
  have hup : v.direction? "up" = none ∧ v.isDelimiter "up" = false := by decide +kernel
  have hfilter : Filter.parse v {} filter = .ok (some c) := by decide +kernel
  have hlist : Order.parse v list = .ok [⟨"up", true⟩, ⟨"desc", false⟩] := by decide +kernel
  have hcomma : Order.parse v "a, b" = .ok [⟨"a", false⟩, ⟨"b", false⟩] ∧
      Order.parse (v.withDirection "," .ascending) "a, b" ≠
        .ok [⟨"a", false⟩, ⟨"b", false⟩] := by decide +kernel
  refine ⟨?_, ?_, ?_⟩
  · exact (parse_extended v _).1 (Filter.keepsMeanings_withOperator hand _) _ _ _ hfilter
  · exact (parse_extended v _).2.1 (Order.keepsRoles_withDirection hup.1 hup.2 _) _ _ hlist
  · intro h
    exact hcomma.2 ((parse_extended v _).2.1 h _ _ hcomma.1)

end RowQuery
