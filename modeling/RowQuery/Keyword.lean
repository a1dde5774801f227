import RowQuery.Token.Cursor

/-! How a text reads when it stands alone: as one word, or as one bare value. -/

namespace RowQuery

/-- The text is one word token, and that word is all of it. -/
def isSingleWord (text : String) : Bool :=
  match Lexeme.ofText text with
  | [l] => l.token == .word text
  | _ => false

def isBareValue (text : String) : Bool :=
  match Lexeme.ofText text with
  | [l] => l.token == .word text || l.token == .number text
  | _ => false

def isSymbolic (text : String) : Bool :=
  text.toList.all fun c => !Unicode.isAlphanumeric c

/-- Keywords fold the ASCII letters only. -/
def foldCase (text : String) : String :=
  text.map Char.toLower

private theorem val_toLower {c : Char} (h : c.val ≥ 'A'.val ∧ c.val ≤ 'Z'.val) :
    c.toLower.val = c.val + 32 := by
  delta Char.toLower
  rw [dif_pos h]
  rfl

theorem toLower_of_not_upper {c : Char} (h : ¬ (c.val ≥ 'A'.val ∧ c.val ≤ 'Z'.val)) :
    c.toLower = c := by
  delta Char.toLower
  rw [dif_neg h]

private theorem toLower_toLower (c : Char) : c.toLower.toLower = c.toLower := by
  by_cases h : c.val ≥ 'A'.val ∧ c.val ≤ 'Z'.val
  · apply toLower_of_not_upper
    rw [val_toLower h]
    simp only [ge_iff_le, UInt32.le_iff_toNat_le, UInt32.toNat_add] at h ⊢
    have hA : 'A'.val.toNat = 65 := rfl
    have hZ : 'Z'.val.toNat = 90 := rfl
    have hstep : UInt32.toNat 32 = 32 := rfl
    omega
  · rw [toLower_of_not_upper h, toLower_of_not_upper h]

@[simp] theorem foldCase_foldCase (text : String) : foldCase (foldCase text) = foldCase text := by
  apply String.toList_inj.1
  unfold foldCase
  rw [String.toList_map, String.toList_map, List.map_map]
  exact List.map_congr_left fun c _ => toLower_toLower c

end RowQuery
