/-!
# Double precision numbers

A `Binary64` is a 64-bit floating-point number held by its sign and the remaining 63 bits read as
a natural number. In that reading the order of the magnitudes is the order of the absolute values,
so comparisons are comparisons of naturals, and every finite value is the exact product
`significand * 2 ^ exponent`. All arithmetic below is exact arithmetic on naturals followed by one
rounding to the nearest value, a tie going to the even one.
-/

namespace TensorTyping

/-- A 64-bit floating-point number: its sign and the other 63 bits (exponent field, then
    fraction). -/
structure Binary64 where
  negative : Bool
  magnitude : Nat
  deriving DecidableEq, Repr, Inhabited

namespace Binary64

/-- The number of values that share one exponent field, `2 ^ 52`. -/
def fractionCount : Nat := 4503599627370496

/-- The magnitude of the infinities: exponent field all ones, fraction zero. -/
def infiniteMagnitude : Nat := 2047 * fractionCount

/-- Positive zero. -/
def zero : Binary64 := ⟨false, 0⟩

/-- The infinity of the given sign. -/
def infinity (negative : Bool) : Binary64 := ⟨negative, infiniteMagnitude⟩

/-- A value that is not a number. There are many of them, told apart by a label. -/
def undefined (label : Nat := 0) : Binary64 :=
  ⟨false, infiniteMagnitude + fractionCount / 2 + label⟩

/-- The value is neither infinite nor undefined. -/
def isFinite (x : Binary64) : Bool := x.magnitude < infiniteMagnitude

/-- The value is not a number. -/
def isUndefined (x : Binary64) : Bool := infiniteMagnitude < x.magnitude

/-- The integer factor of a finite absolute value. -/
def significand (x : Binary64) : Nat :=
  if x.magnitude < fractionCount then x.magnitude
  else fractionCount + x.magnitude % fractionCount

/-- The power of two that scales `significand`, raised by 1074 so that it is a natural number. -/
def scale (x : Binary64) : Nat := x.magnitude / fractionCount - 1

/-- A finite absolute value as a fraction of two naturals. -/
def ratio (x : Binary64) : Nat × Nat :=
  if x.scale < 1074 then (x.significand, Nat.pow 2 (1074 - x.scale))
  else (x.significand * Nat.pow 2 (x.scale - 1074), 1)

/-- The quotient `num / den` rounded to the nearest natural, a tie going to the even one. -/
def roundQuotient (num den : Nat) : Nat :=
  let floor := num / den
  let twice := 2 * (num % den)
  if twice < den then floor
  else if den < twice then floor + 1
  else if floor % 2 = 0 then floor else floor + 1

/-- The value nearest to the fraction `num / den`, a tie going to the even significand. Fractions
    beyond the greatest finite value give the infinity. -/
def ofRatio (negative : Bool) (num den : Nat) : Binary64 :=
  -- The significand is a quotient in units of `2 ^ (unit - 1074)`; it has to stay below `2 ^ 53`.
  let quotient (unit : Nat) : Nat × Nat :=
    if unit < 1074 then (num * Nat.pow 2 (1074 - unit), den)
    else (num, den * Nat.pow 2 (unit - 1074))
  let estimate := Nat.log2 num + 1074 - 53 - Nat.log2 den
  let (top, bottom) := quotient estimate
  let unit := if top / bottom < 2 * fractionCount then estimate else estimate + 1
  let (top, bottom) := quotient unit
  let magnitude := unit * fractionCount + roundQuotient top bottom
  if num = 0 then ⟨negative, 0⟩
  else if magnitude < infiniteMagnitude then ⟨negative, magnitude⟩ else infinity negative

/-- The value nearest to the integer `n`. -/
def ofInt (n : Int) : Binary64 := ofRatio (n < 0) n.natAbs 1

/-- The value nearest to `digits * 10 ^ exponent`. -/
def ofDecimal (negative : Bool) (digits : Nat) (exponent : Int) : Binary64 :=
  if digits = 0 then ⟨negative, 0⟩
  else if 310 < exponent then infinity negative
  else if exponent + (Nat.log2 digits : Int) < -1200 then ⟨negative, 0⟩
  else if exponent < 0 then ofRatio negative digits (Nat.pow 10 (-exponent).toNat)
  else ofRatio negative (digits * Nat.pow 10 exponent.toNat) 1

/-- The integer part of a finite value, cut toward zero. -/
def truncate (x : Binary64) : Int :=
  let (num, den) := x.ratio
  let whole : Int := (num / den : Nat)
  if x.negative then -whole else whole

/-- Equality of values: both zeros are equal, and an undefined value equals itself only. -/
def same (x y : Binary64) : Bool := x == y || (x.magnitude == 0 && y.magnitude == 0)

/-- How the value stands to an integer. An undefined value stands to nothing. -/
def compareInt? (x : Binary64) (n : Int) : Option Ordering :=
  if x.isUndefined then none
  else if x.isFinite then
    let (num, den) := x.ratio
    some (compare (if x.negative then -(num : Int) else num) (n * den))
  else some (if x.negative then .lt else .gt)

/-- The value lies below the integer. -/
def isBelow (x : Binary64) (n : Int) : Bool := x.compareInt? n == some .lt

/-- The value lies above the integer. -/
def isAbove (x : Binary64) (n : Int) : Bool := x.compareInt? n == some .gt

/-- The value is the integer. -/
def isInt (x : Binary64) (n : Int) : Bool := x.compareInt? n == some .eq

/-- The absolute value of the first is a multiple of that of the second. The second is not zero; of
    an infinite value only zero is a multiple. -/
def isMultiple (x y : Binary64) : Bool :=
  if y.isFinite then
    let (num, den) := x.ratio
    let (unit, unitDen) := y.ratio
    num * unitDen % (unit * den) == 0
  else x.magnitude == 0 && !y.isUndefined

/-- The rounded quotient of a finite value by another one that is not zero. -/
def quotient (x y : Binary64) : Binary64 :=
  let negative := x.negative != y.negative
  if y.isFinite then
    let (num, den) := x.ratio
    let (unit, unitDen) := y.ratio
    ofRatio negative (num * unitDen) (den * unit)
  else ⟨negative, 0⟩

/-- The value less an integer, rounded; an infinite or undefined value stays as it is. -/
def minus (x : Binary64) (n : Int) : Binary64 :=
  if x.isFinite then
    let (num, den) := x.ratio
    let exact : Int := (if x.negative then -(num : Int) else num) - n * den
    ofRatio (exact < 0) exact.natAbs den
  else x

/-- The value lies below the other. -/
def isLess (x y : Binary64) : Bool :=
  !x.isUndefined && !y.isUndefined &&
    (match x.negative, y.negative with
      | false, false => x.magnitude < y.magnitude
      | true, true => y.magnitude < x.magnitude
      | true, false => x.magnitude != 0 || y.magnitude != 0
      | false, true => false)

/-- The rounded product of two finite values. -/
def product (x y : Binary64) : Binary64 :=
  let (num, den) := x.ratio
  let (num', den') := y.ratio
  ofRatio (x.negative != y.negative) (num * num') (den * den')

end Binary64

end TensorTyping
