import TensorTyping.Number.Binary64

/-!
# Decimal text of double precision numbers

Two ways to choose the digits of a finite value are given: `shortest`, the fewest digits that read
back as the same value, and `rounded`, a fixed number of significant digits. A `Layout` then says
how digits and exponent are written, and `Layout.render` writes them.
-/

namespace TensorTyping

/-- The decimal `digits * 10 ^ exponent`. -/
structure Decimal where
  digits : Nat
  exponent : Int
  deriving DecidableEq, Repr, Inhabited

namespace Decimal

/-- The decimal digits of a natural number. -/
def digitsOf (n : Nat) : List Char := Nat.toDigits 10 n

/-- The least `count` at or above `from` with `den ≤ num * 10 ^ count`, searched for `fuel`
    steps. -/
def firstShift (num den start : Nat) : Nat → Nat
  | 0 => start
  | fuel + 1 => if den ≤ num * Nat.pow 10 start then start else firstShift num den (start + 1) fuel

/-- The exponent of the leading digit of the positive fraction `num / den`. A double is never
    smaller than `10 ^ -324`, which bounds the search. -/
def leadingExponent (num den : Nat) : Int :=
  if den ≤ num then ((digitsOf (num / den)).length : Int) - 1
  else -(firstShift num den 1 400 : Int)

/-- The fraction `num / den` in units of `10 ^ exponent`, again as a fraction. -/
def inUnits (num den : Nat) (exponent : Int) : Nat × Nat :=
  if exponent < 0 then (num * Nat.pow 10 (-exponent).toNat, den)
  else (num, den * Nat.pow 10 exponent.toNat)

/-- The decimal with trailing zeros of its digits moved into the exponent. -/
def normalize (d : Decimal) : Decimal :=
  let zeros := ((digitsOf d.digits).reverse.takeWhile (· == '0')).length
  if d.digits = 0 then ⟨0, 0⟩
  else ⟨d.digits / Nat.pow 10 zeros, d.exponent + zeros⟩

/-- The decimal reads back as the absolute value of `x`. -/
def readsBackAs (d : Decimal) (x : Binary64) : Bool :=
  (Binary64.ofDecimal false d.digits d.exponent).magnitude == x.magnitude

/-- Among the two neighbours of `x` with the unit `10 ^ exponent`, the nearest one that reads back
    as `x`; a tie goes to the even neighbour. -/
def neighbour? (x : Binary64) (exponent : Int) : Option Decimal :=
  let (num, den) := x.ratio
  let (top, bottom) := inUnits num den exponent
  let nearest := Binary64.roundQuotient top bottom
  let floor := top / bottom
  let other := if nearest = floor then floor + 1 else floor
  [nearest, other].findSome? fun digits =>
    let d : Decimal := ⟨digits, exponent⟩
    if d.readsBackAs x then some d else none

/-- The first decimal with `count`, `count + 1`, … significant digits that reads back as `x`. -/
def shortestFrom (x : Binary64) (leading : Int) (count : Nat) : Nat → Option Decimal
  | 0 => none
  | fuel + 1 =>
      match neighbour? x (leading - count + 1) with
      | some d => some d
      | none => shortestFrom x leading (count + 1) fuel

/-- The decimal with the fewest digits that reads back as the absolute value of the finite `x`, and
    of those the nearest. Seventeen digits always suffice. -/
def shortest (x : Binary64) : Decimal :=
  let (num, den) := x.ratio
  if num = 0 then ⟨0, 0⟩
  else ((shortestFrom x (leadingExponent num den) 1 17).getD ⟨0, 0⟩).normalize

/-- The absolute value of the finite `x` rounded to `count` significant digits, without trailing
    zeros; a tie goes to the even last digit. -/
def rounded (count : Nat) (x : Binary64) : Decimal :=
  let (num, den) := x.ratio
  if num = 0 then ⟨0, 0⟩
  else
    let exponent := leadingExponent num den - count + 1
    let (top, bottom) := inUnits num den exponent
    Decimal.normalize ⟨Binary64.roundQuotient top bottom, exponent⟩

/-- How a decimal is written: positionally while the exponent of its leading digit lies in
    `[leastPositional, leastScientific)`, with or without `.0` after a whole number. Other decimals
    have one digit before the point and an exponent of at least two digits. -/
structure Layout where
  leastPositional : Int
  leastScientific : Int
  keepPoint : Bool
  deriving DecidableEq, Repr

/-- Writes the decimal, which has no trailing zeros, in the given layout. -/
def Layout.render (layout : Layout) (d : Decimal) : String :=
  let digits := digitsOf d.digits
  let leading : Int := d.exponent + digits.length - 1
  if layout.leastPositional ≤ leading ∧ leading < layout.leastScientific then
    if leading < 0 then
      String.ofList ("0.".toList ++ List.replicate (-leading - 1).toNat '0' ++ digits)
    else
      let whole := leading.toNat + 1
      let front := digits.take whole ++ List.replicate (whole - digits.length) '0'
      match digits.drop whole with
      | [] => String.ofList front ++ (if layout.keepPoint then ".0" else "")
      | fraction => String.ofList (front ++ '.' :: fraction)
  else
    let sign := if leading < 0 then "e-" else "e+"
    let power := digitsOf leading.natAbs
    let padded := List.replicate (2 - power.length) '0' ++ power
    let mantissa := match digits with
      | [] => []
      | first :: [] => [first]
      | first :: rest => first :: '.' :: rest
    String.ofList mantissa ++ sign ++ String.ofList padded

end Decimal

namespace Binary64

/-- The text of a value: its sign, then the given text of a finite absolute value. -/
def textWith (finite : Binary64 → String) (x : Binary64) : String :=
  if x.isUndefined then "nan"
  else (if x.negative then "-" else "") ++ (if x.isFinite then finite x else "inf")

/-- A number inside a message has the fewest digits that read back, is written positionally from
    `1e-4` up to `1e16`, and keeps `.0` when whole. -/
def messageLayout : Decimal.Layout := ⟨-4, 16, true⟩

/-- The text of a number inside a message. -/
def text : Binary64 → String := textWith fun x => messageLayout.render (Decimal.shortest x)

/-- A quantization scale has six significant digits, is written positionally from `1e-4` up to
    `1e6`, and has no point when whole. -/
def scaleLayout : Decimal.Layout := ⟨-4, 6, false⟩

/-- The text of a quantization scale. -/
def scaleText : Binary64 → String := textWith fun x => scaleLayout.render (Decimal.rounded 6 x)

end Binary64

end TensorTyping
