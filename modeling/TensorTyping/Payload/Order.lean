import TensorTyping.Payload.Convert

/-!
# Numbers among payloads

Some attributes are used as they are given, without a conversion. They are compared with integers,
and an integer is compared with a real number exactly. A truth value counts as 0 or 1; what is no
number has no order, though it can be told apart from others.
-/

namespace TensorTyping

namespace Payload

/-! ### Comparisons -/

/-- The answer of a test on integers or of the same test on real numbers. -/
def test (payload : Payload) (onInt : Int → Bool) (onReal : Binary64 → Bool) : Check Bool :=
  match payload with
  | .int n => .ok (onInt n)
  | .bool value => .ok (onInt (if value then 1 else 0))
  | .real x => .ok (onReal x)
  | _ => misuse .wrongSort

/-- The number lies below the bound. -/
def isBelow (payload : Payload) (bound : Int) : Check Bool :=
  payload.test (· < bound) (·.isBelow bound)

/-- The first number lies below the second. -/
def isLess (a b : Payload) : Check Bool :=
  match a, b with
  | .real x, .real y => .ok (x.isLess y)
  | .real x, _ => do return x.isBelow (← b.needInt)
  | _, .real y => do return y.isAbove (← a.needInt)
  | _, _ => do return (← a.needInt) < (← b.needInt)

/-- The number lies above the bound. -/
def isAbove (payload : Payload) (bound : Int) : Check Bool :=
  payload.test (bound < ·) (·.isAbove bound)

/-- The number is at most the bound. -/
def isAtMost (payload : Payload) (bound : Int) : Check Bool :=
  payload.test (· ≤ bound) fun x => x.isBelow bound || x.isInt bound

/-- The number is at least the first bound and below the second. -/
def isWithin (payload : Payload) (least bound : Int) : Check Bool :=
  payload.test (fun n => least ≤ n && n < bound) fun x =>
    !(x.isBelow least || x.isAbove bound || x.isInt bound)

/-- The number is a position below the bound; without a bound it only may not be negative. -/
def isPosition (payload : Payload) : Option Nat → Check Bool
  | some bound => payload.isWithin 0 bound
  | none => do return !(← payload.isBelow 0)

/-- The payload is a number that equals the integer. -/
def isInt (payload : Payload) (n : Int) : Bool :=
  match payload with
  | .int value => value == n
  | .bool value => (if value then 1 else 0) == n
  | .real x => x.isInt n
  | _ => false

/-- The payloads are equal as numbers, as texts, or because both are missing. -/
def same : Payload → Payload → Bool
  | .int n, other => other.isInt n
  | .bool value, other => other.isInt (if value then 1 else 0)
  | .real x, .real y => x.same y
  | .real x, .int n => x.isInt n
  | .real x, .bool value => x.isInt (if value then 1 else 0)
  | .text value, .text value' => value == value'
  | .null, .null => true
  | _, _ => false

/-- No two of the payloads are equal. Lists cannot be told apart in this way. -/
def areDistinct (payloads : List Payload) : Check Bool :=
  if payloads.any fun payload => payload matches .list _ | .array _ then misuse .wrongSort
  else .ok (distinct payloads)
where
  /-- No payload of the list equals a later one. -/
  distinct : List Payload → Bool
  | [] => true
  | payload :: rest => !rest.any payload.same && distinct rest

/-- The payload is a number without a value. -/
def isUndefined : Payload → Bool
  | .real x => x.isUndefined
  | _ => false

/-- The payloads agree as extents do: one is missing, or both have one value. -/
def agree (a b : Payload) : Bool :=
  a.isNull || b.isNull || (!a.isUndefined && a.same b)

/-! ### Arithmetic -/

/-- The number less an integer. -/
def minus (payload : Payload) (n : Int) : Check Payload :=
  match payload with
  | .real x => .ok (.real (x.minus n))
  | _ => do return .int ((← payload.needInt) - n)

/-- The integer as a real number that is divided by another one, which may not be zero. -/
def dividend (n : Int) (divisor : Binary64) : Check Binary64 := do
  let n ← (Payload.int n).toReal
  if divisor.isInt 0 then misuse .divisionByZero else return n

/-- The integer is a multiple of the payload. -/
def divides (divisor : Payload) (n : Int) : Check Bool :=
  match divisor with
  | .real x => do return (← dividend n x).isMultiple x
  | _ => do return (← floorMod n (← divisor.needInt)) == 0

/-- The integer divided by the payload, of which it is a multiple. -/
def share (divisor : Payload) (n : Int) : Check Payload :=
  match divisor with
  | .real x => do return .real ((← dividend n x).quotient x)
  | _ => do return .int (← floorDiv n (← divisor.needInt))

/-- The payload, an extent or what a division made of one, times a positive number. -/
def times (payload factor : Payload) : Check Payload :=
  match payload, factor with
  | .null, _ => .ok .null
  | _, .real x => do return .real ((← payload.toReal).product x)
  | .real x, _ => do return .real (x.product (← factor.toReal))
  | _, _ => do return .int ((← payload.needInt) * (← factor.needInt))

end Payload

end TensorTyping
