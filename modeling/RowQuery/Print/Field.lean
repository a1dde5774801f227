import RowQuery.Keyword
import RowQuery.Print.Error

/-! Writing field names. There is no quoted form of a field. -/

namespace RowQuery

/-- A field must read back as the one word it is written as. -/
def printField (field : String) : Except RenderError String :=
  if isSingleWord field then .ok field else .error (.unrepresentableField field)

theorem printField_eq_ok_iff {field text : String} :
    printField field = .ok text ↔ isSingleWord field = true ∧ text = field := by
  unfold printField
  split
  · rename_i h
    simp [h, @eq_comm _ text]
  · rename_i h
    simp [h]

end RowQuery
