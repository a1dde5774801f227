import RowQuery.Decimal.Basic

/-! Reading decimals: plain digits with a point, or such digits scaled by a power of ten. Digits
beyond the last place that fits are rounded away, a half going up. -/

namespace RowQuery.Decimal

def digit? (c : Char) : Option Nat :=
  if c.isDigit then some (c.toNat - '0'.toNat) else none

structure Magnitude where
  mantissa : Nat
  scale : Nat
  deriving DecidableEq, Repr

/-- One more in the last place. A mantissa that no longer fits gives up that place. -/
def Magnitude.increment? (m : Magnitude) : Option Magnitude :=
  if m.mantissa + 1 < mantissaBound then some ⟨m.mantissa + 1, m.scale⟩
  else if m.scale = 0 then none
  else some ⟨(m.mantissa + 1 + 4) / 10, m.scale - 1⟩

/-- Rounds by the first digit that does not fit; what follows it must be of the same form. -/
def Magnitude.round? (m : Magnitude) (digit : Nat) (rest : List Char) : Option Magnitude :=
  if rest.all fun c => c.isDigit || c == '_' then
    if digit ≥ 5 then m.increment? else some m
  else none

/-- A mantissa from which on separators are skipped where a digit is rounded away. -/
def wideMantissa : Nat := Nat.pow 2 64 / 10 - 255

/-- What stands behind the last place that may be kept. A separator there counts as the digit zero,
unless the mantissa was wide before its last digit. -/
def Magnitude.cut? (m : Magnitude) (cs : List Char) : Option Magnitude :=
  let cs := if m.mantissa / 10 ≥ wideMantissa then cs.dropWhile (· == '_') else cs
  match cs with
  | [] => some m
  | c :: rest =>
    match digit? c with
    | some d => m.round? d rest
    | none => if c = '_' then m.round? 0 rest else none

/-- `point` tells whether the point is behind, `started` whether a digit is. -/
def readMagnitude (m : Magnitude) (point started : Bool) : List Char → Option Magnitude
  | [] => if started then some m else none
  | c :: cs =>
    if m.scale = maxScale then m.cut? (c :: cs)
    else
      match digit? c with
      | some d =>
        let next := 10 * m.mantissa + d
        if next < mantissaBound then
          readMagnitude ⟨next, if point then m.scale + 1 else m.scale⟩ point true cs
        else if point then m.round? d cs
        else none
      | none =>
        if c = '.' ∧ point = false then readMagnitude m true started cs
        else if c = '_' ∧ started = true then readMagnitude m point started cs
        else none

def readUnsigned (negative : Bool) (cs : List Char) : Option Decimal := do
  let m ← readMagnitude ⟨0, 0⟩ false false cs
  of? (negative && m.mantissa != 0) m.mantissa m.scale

def readPlain : List Char → Option Decimal
  | '-' :: cs => readUnsigned true cs
  | '+' :: cs => readUnsigned false cs
  | cs => readUnsigned false cs

def readExponent (cs : List Char) : Option Nat :=
  let digits :=
    match cs with
    | '+' :: cs => cs
    | cs => cs
  if digits.isEmpty then none
  else digits.foldlM (fun e c => (digit? c).map (10 * e + ·)) 0

def roundQuotient (numerator denominator : Nat) : Nat :=
  (2 * numerator + denominator) / (2 * denominator)

def raise? (d : Decimal) (exponent : Nat) : Option Decimal :=
  if exponent ≤ d.scale then of? d.negative d.mantissa (d.scale - exponent)
  else of? d.negative (d.mantissa * Nat.pow 10 (exponent - d.scale)) 0

/-- Moves the point to the left. Places that do not fit are rounded away, and a number that vanishes
keeps its sign. -/
def lower? (d : Decimal) (exponent : Nat) : Option Decimal :=
  if d.scale + exponent ≤ maxScale then of? d.negative d.mantissa (d.scale + exponent)
  else
    let lost := d.scale + exponent - maxScale
    of? d.negative (roundQuotient d.mantissa (Nat.pow 10 lost)) maxScale

def readScaled (base exponent : List Char) : Option Decimal := do
  let d ← readPlain base
  match exponent with
  | '-' :: cs =>
    let e ← readExponent cs
    if e ≤ maxScale then d.lower? e else none
  | cs =>
    let e ← readExponent cs
    if e ≤ maxScale then d.raise? e else none

def isExponentMark (c : Char) : Bool :=
  c == 'e' || c == 'E'

def read (text : String) : Option Decimal :=
  let cs := text.toList
  match readPlain cs with
  | some d => some d
  | none =>
    match cs.dropWhile (!isExponentMark ·) with
    | [] => none
    | _ :: exponent => readScaled (cs.takeWhile (!isExponentMark ·)) exponent

end RowQuery.Decimal
