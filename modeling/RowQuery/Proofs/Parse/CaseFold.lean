import RowQuery.Proofs.Filter.Relabel
import RowQuery.Proofs.Order.Relabel
import RowQuery.Proofs.Print.Success

/-! Reading in lower case. A vocabulary that takes no notice of case makes the same of a text in
lower case as of the text itself: only what is quoted from it, in fields, values and errors, comes
in lower case. -/

namespace RowQuery

def Value.mapText (f : String → String) : Value → Value
  | text s => text (f s)
  | null => null

def Condition.fold (c : Condition) : Condition :=
  c.relabel foldCase (.mapText foldCase)

def Clause.fold (c : Clause) : Clause :=
  c.mapConditions Condition.fold

def OrderEntry.fold (e : OrderEntry) : OrderEntry :=
  e.mapField foldCase

def ParseError.fold (e : ParseError) : ParseError :=
  e.mapWord foldCase

variable {v : Vocabulary}

theorem spell_foldCase (hv : v.caseSensitive = false) (w : String) :
    spell v.caseSensitive (foldCase w) = spell v.caseSensitive w := by
  rw [hv]
  exact foldCase_foldCase w

/-- The null marker is no text, so that only a reader without it can go by texts alone. -/
theorem Filter.relabels_foldCase (hv : v.caseSensitive = false) (maxDepth : Option Nat) :
    Relabels v v ⟨false, maxDepth⟩ ⟨false, maxDepth⟩ foldCase (.mapText foldCase) where
  operator := by
    intro w _
    rw [Vocabulary.operator?, spell_foldCase hv, Vocabulary.operator?]
  connective := by
    intro w _
    rw [Vocabulary.connective?, spell_foldCase hv, Vocabulary.connective?]
  value := by
    intro t
    cases t <;> rfl
  maxDepth := rfl

theorem Order.relabels_foldCase (hv : v.caseSensitive = false) : Relabels v v foldCase where
  direction := by
    intro w _
    rw [Vocabulary.direction?, spell_foldCase hv, Vocabulary.direction?]
  delimiter := by
    intro w _
    rw [Vocabulary.isDelimiter, spell_foldCase hv, Vocabulary.isDelimiter]

/-- Folding a text folds the fields, the values and the unknown word in what is read from it, and
nothing else. -/
theorem parse_foldCase (hv : v.caseSensitive = false) (text : String) :
    (∀ maxDepth, Filter.parse v ⟨false, maxDepth⟩ (foldCase text) =
      ((Filter.parse v ⟨false, maxDepth⟩ text).map (Option.map Clause.fold)).mapError
        ParseError.fold) ∧
    Order.parse v (foldCase text) =
      ((Order.parse v text).map (List.map OrderEntry.fold)).mapError ParseError.fold := by
  have hlexemes := Lexeme.ofText_foldCase text
  have hlength := length_foldCase text
  apply And.intro
  · intro maxDepth
    exact (Filter.relabels_foldCase hv maxDepth).parse_eq hlexemes hlength
  · exact (Order.relabels_foldCase hv).parse_eq hlexemes hlength

/-- Letters outside ASCII keep their case. -/
theorem parse_foldCase_mixed :
    let text := "(Ä EQ \"X\\\"Ö\") And B GT NULL"
    let list := "Date DESC, ID Up"
    foldCase text = "(Ä eq \"x\\\"Ö\") and b gt null" ∧ foldCase list = "date desc, id up" ∧
      ((Filter.parse .preset {} text).map (Option.map Clause.fold)).mapError ParseError.fold =
        .ok (some (.combined (.condition "Ä" .isEqualTo (.text "x\"Ö")) .and
          (.condition "b" .isGreaterThan (.text "null")))) ∧
      ((Order.parse .preset list).map (List.map OrderEntry.fold)).mapError ParseError.fold =
        .error (.unresolvedKeyword .orderDelimiter "up" 14) := by
  intro text list
  have hv : Vocabulary.preset.caseSensitive = false := by decide +kernel
  have htext : foldCase text = "(Ä eq \"x\\\"Ö\") and b gt null" := by decide +kernel
  have hlist : foldCase list = "date desc, id up" := by decide +kernel
  refine ⟨htext, hlist, ?_, ?_⟩
  · rw [← (parse_foldCase hv text).1 none, htext]
    decide +kernel
  · rw [← (parse_foldCase hv list).2, hlist]
    decide +kernel

end RowQuery
