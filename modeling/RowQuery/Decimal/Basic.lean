/-! Decimal numbers of at most ninety-six bits and twenty-eight places. -/

namespace RowQuery

def Decimal.mantissaBound : Nat := Nat.pow 2 96

def Decimal.maxScale : Nat := 28

/-- The number `mantissa / 10 ^ scale`, negated if `negative`. The scale is part of the value: `1.50`
and `1.5` differ. -/
structure Decimal where
  negative : Bool
  mantissa : Nat
  scale : Nat
  mantissa_lt : mantissa < Decimal.mantissaBound
  scale_le : scale ≤ Decimal.maxScale
  deriving DecidableEq, Repr

namespace Decimal

def of? (negative : Bool) (mantissa scale : Nat) : Option Decimal :=
  if h : mantissa < mantissaBound ∧ scale ≤ maxScale then
    some ⟨negative, mantissa, scale, h.1, h.2⟩
  else none

def write (d : Decimal) : String :=
  let digits := Nat.toDigits 10 d.mantissa
  let padded := List.replicate (d.scale + 1 - digits.length) '0' ++ digits
  let whole := padded.take (padded.length - d.scale)
  let places := padded.drop (padded.length - d.scale)
  String.ofList ((if d.negative then ['-'] else []) ++ whole ++
    if d.scale = 0 then [] else '.' :: places)

end Decimal

end RowQuery
