/-! Quoted literals. A backslash takes the next character as it is, and nothing else is altered; the
end of the input closes a literal that was left open. -/

namespace RowQuery

/-- A literal as it is met behind its opening quote: the text it stands for, whether a quote closed
it, how many characters it took, and what follows. -/
structure Literal where
  text : List Char
  closed : Bool
  width : Nat
  rest : List Char
  deriving DecidableEq, Repr

namespace Literal

def push (c : Char) (width : Nat) (l : Literal) : Literal :=
  { l with text := c :: l.text, width := width + l.width }

def read : List Char → Literal
  | [] => ⟨[], false, 0, []⟩
  | '"' :: rest => ⟨[], true, 1, rest⟩
  | ['\\'] => ⟨[], false, 1, []⟩
  | '\\' :: c :: rest => (read rest).push c 2
  | c :: rest => (read rest).push c 1

def escape (text : List Char) : List Char :=
  text.flatMap fun c => if c = '"' ∨ c = '\\' then ['\\', c] else [c]

def quote (text : List Char) : List Char :=
  '"' :: escape text ++ ['"']

theorem length_eq_width_add (cs : List Char) :
    cs.length = (read cs).width + (read cs).rest.length := by
  fun_induction read cs with
  | case1 => rfl
  | case2 => simp; omega
  | case3 => rfl
  | case4 c rest ih => simp [push]; omega
  | case5 c rest _ _ _ ih => simp [push]; omega

theorem read_escape (text rest : List Char) :
    read (escape text ++ '"' :: rest) = ⟨text, true, (escape text).length + 1, rest⟩ := by
  induction text with
  | nil => rfl
  | cons c text ih =>
    simp only [escape, List.flatMap_cons, List.append_assoc] at ih ⊢
    by_cases h : c = '"' ∨ c = '\\'
    · simp only [h, if_true, List.cons_append, List.nil_append]
      rw [read, ih]
      · simp [push]; omega
    · have hq : c ≠ '"' := fun e => h (.inl e)
      have hb : c ≠ '\\' := fun e => h (.inr e)
      simp only [h, if_false, List.cons_append, List.nil_append]
      rw [read, ih]
      · simp [push]; omega
      · simpa using hq
      · simp [hb]
      · simp [hb]

end Literal

end RowQuery
