import RowQuery.Unicode.Alphanumeric

/-! Classes of characters that runs of a token are made of. An ASCII digit is in two of them: it may
continue a word, and starts a number. -/

namespace RowQuery

def isNumberChar (c : Char) : Bool :=
  c.isDigit || c == '.' || c == '-'

def isWordChar (c : Char) : Bool :=
  Unicode.isAlphanumeric c || c == '@' || c == '_'

/-- Characters that start no other token; runs of them are words such as a comma or a comparison
sign. -/
def isSymbolChar (c : Char) : Bool :=
  !(Unicode.isBlank c || c == '(' || c == ')' || c == '"' || isNumberChar c || isWordChar c)

theorem isWordChar_of_isDigit {c : Char} (h : c.isDigit = true) : isWordChar c = true := by
  simp [isWordChar, Unicode.isAlphanumeric, Char.isAlphanum, h]

theorem isWordChar_eq_false_of_isBlank {c : Char} (h : Unicode.isBlank c = true) :
    isWordChar c = false := by
  have hat : Unicode.isBlank '@' = false := by decide
  have hunderscore : Unicode.isBlank '_' = false := by decide
  simp only [isWordChar, Unicode.isAlphanumeric_eq_false_of_isBlank h, Bool.false_or,
    Bool.or_eq_false_iff, beq_eq_false_iff_ne]
  constructor <;> rintro rfl <;> simp_all

end RowQuery
