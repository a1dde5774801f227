/-! Numbers as documents spell them, and which of them fit the range of a double. -/

namespace RowQuery.Json

/-- The digits of a number as they are spelled; `exponent` pairs a minus sign with digits. -/
structure Number where
  negative : Bool
  whole : List Char
  fraction : List Char
  exponent : Option (Bool × List Char)
  deriving DecidableEq, Repr

namespace Number

def digit (c : Char) : Nat :=
  c.toNat - '0'.toNat

def ofNat (n : Nat) : Number :=
  ⟨false, Nat.toDigits 10 n, [], none⟩

def nat? (n : Number) : Option Nat :=
  if n.negative || !n.fraction.isEmpty || n.exponent.isSome then none
  else some (n.whole.foldl (fun a c => 10 * a + digit c) 0)

def wordBound : Nat := Nat.pow 2 64

/-- Digits are taken into the significand as long as it fits 64 bits; the rest is counted. -/
def significand (start : Nat) : List Char → Nat × Nat
  | [] => (start, 0)
  | c :: cs =>
    let next := 10 * start + digit c
    if next < wordBound then significand next cs else (start, cs.length + 1)

/-- The nearest number of 53 significant bits, a tie going to the even one. -/
def roundBits (n : Nat) : Nat :=
  let shift := n.log2 - 52
  let unit := Nat.pow 2 shift
  let quotient := n / unit
  let remainder := n % unit
  let up := unit < 2 * remainder || (unit == 2 * remainder && quotient % 2 == 1)
  (if up then quotient + 1 else quotient) * unit

/-- Half a unit above the largest double. -/
def overflowBound : Nat := Nat.pow 2 1024 - Nat.pow 2 970

/-- Significand and power of ten are rounded before they are multiplied. -/
def isFinite (n : Number) : Bool :=
  let (high, dropped) := significand 0 n.whole
  let (all, ignored) := significand high n.fraction
  let shown : Int :=
    match n.exponent with
    | none => 0
    | some (negative, digits) =>
      let magnitude : Nat := digits.foldl (fun a c => 10 * a + digit c) 0
      if negative then -magnitude else magnitude
  let exponent : Int := dropped + ignored - n.fraction.length + shown
  all == 0 || exponent ≤ 0 ||
    (exponent ≤ 308 &&
      roundBits all * roundBits (Nat.pow 10 exponent.toNat) < overflowBound)

def readFraction : List Char → Option (List Char × List Char)
  | '.' :: cs =>
    let digits := cs.takeWhile Char.isDigit
    if digits.isEmpty then none else some (digits, cs.dropWhile Char.isDigit)
  | cs => some ([], cs)

def readExponentDigits (negative : Bool) (cs : List Char) :
    Option (Option (Bool × List Char) × List Char) :=
  let digits := cs.takeWhile Char.isDigit
  if digits.isEmpty then none else some (some (negative, digits), cs.dropWhile Char.isDigit)

def readExponent : List Char → Option (Option (Bool × List Char) × List Char)
  | c :: cs =>
    if c = 'e' ∨ c = 'E' then
      match cs with
      | '-' :: cs => readExponentDigits true cs
      | '+' :: cs => readExponentDigits false cs
      | cs => readExponentDigits false cs
    else some (none, c :: cs)
  | [] => some (none, [])

def readWhole : List Char → Option (List Char × List Char)
  | c :: cs =>
    if c = '0' then some ([c], cs)
    else if c.isDigit then some (c :: cs.takeWhile Char.isDigit, cs.dropWhile Char.isDigit)
    else none
  | [] => none

def readUnsigned (negative : Bool) (cs : List Char) : Option (Number × List Char) := do
  let (whole, cs) ← readWhole cs
  let (fraction, cs) ← readFraction cs
  let (exponent, cs) ← readExponent cs
  some (⟨negative, whole, fraction, exponent⟩, cs)

def read : List Char → Option (Number × List Char)
  | '-' :: cs => readUnsigned true cs
  | cs => readUnsigned false cs

def write (n : Number) : List Char :=
  (if n.negative then ['-'] else []) ++ n.whole ++
    (if n.fraction.isEmpty then [] else '.' :: n.fraction) ++
    match n.exponent with
    | none => []
    | some (negative, digits) => 'e' :: ((if negative then ['-'] else []) ++ digits)

private theorem length_dropWhile_le (p : Char → Bool) (cs : List Char) :
    (cs.dropWhile p).length ≤ cs.length :=
  (List.dropWhile_sublist p).length_le

theorem length_lt_of_readWhole {cs rest digits : List Char}
    (h : readWhole cs = some (digits, rest)) : rest.length < cs.length := by
  unfold readWhole at h
  split at h
  · rename_i c cs
    have := length_dropWhile_le Char.isDigit cs
    split at h
    · cases h; simp
    · split at h
      · cases h; simp; omega
      · cases h
  · cases h

theorem length_le_of_readFraction {cs rest digits : List Char}
    (h : readFraction cs = some (digits, rest)) : rest.length ≤ cs.length := by
  unfold readFraction at h
  split at h
  · rename_i cs
    have := length_dropWhile_le Char.isDigit cs
    simp only [Option.ite_none_left_eq_some, Option.some.injEq, Prod.mk.injEq] at h
    obtain ⟨-, -, rfl⟩ := h
    simp; omega
  · cases h; simp

theorem length_le_of_readExponentDigits {negative : Bool} {cs rest : List Char}
    {e : Option (Bool × List Char)} (h : readExponentDigits negative cs = some (e, rest)) :
    rest.length ≤ cs.length := by
  have := length_dropWhile_le Char.isDigit cs
  simp only [readExponentDigits, Option.ite_none_left_eq_some, Option.some.injEq,
    Prod.mk.injEq] at h
  obtain ⟨-, -, rfl⟩ := h
  exact this

theorem length_le_of_readExponent {cs rest : List Char} {e : Option (Bool × List Char)}
    (h : readExponent cs = some (e, rest)) : rest.length ≤ cs.length := by
  unfold readExponent at h
  split at h
  · split at h
    · split at h <;> have := length_le_of_readExponentDigits h <;> simp only [List.length_cons] <;>
        omega
    · cases h; simp
  · cases h; simp

theorem length_lt_of_readUnsigned {negative : Bool} {cs rest : List Char} {n : Number}
    (h : readUnsigned negative cs = some (n, rest)) : rest.length < cs.length := by
  simp only [readUnsigned, Option.bind_eq_bind, Option.bind_eq_some_iff, Option.some.injEq,
    Prod.mk.injEq, Prod.exists] at h
  obtain ⟨_, _, hwhole, _, _, hfraction, _, _, hexponent, _, rfl⟩ := h
  have := length_lt_of_readWhole hwhole
  have := length_le_of_readFraction hfraction
  have := length_le_of_readExponent hexponent
  omega

theorem length_lt_of_read {cs rest : List Char} {n : Number} (h : read cs = some (n, rest)) :
    rest.length < cs.length := by
  unfold read at h
  split at h
  · have := length_lt_of_readUnsigned h
    simp only [List.length_cons]
    omega
  · exact length_lt_of_readUnsigned h

end Number

end RowQuery.Json
