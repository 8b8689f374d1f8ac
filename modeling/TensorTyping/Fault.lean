import TensorTyping.Diagnostic

/-!
# Failures

A check fails in one of two ways. Either the operation is ill-formed, and the failure is a
`Diagnostic`; or the check was asked something that has no answer, such as the kind of a type that
was never given, and the failure is a `Misuse`. Checks are functions into `Check`.
-/

namespace TensorTyping

/-- A question that has no answer. -/
inductive Misuse where
  /-- A type cannot be formed from these parts. -/
  | malformedType (message : String)
  /-- A part of a type, region or mapping that is not there was asked for. -/
  | missingPart
  /-- A value of one sort stands where another sort is needed, or two values have no order. -/
  | wrongSort
  /-- A value has the right sort, and no meaning where it stands. -/
  | unusableValue
  /-- A position lies outside a list. -/
  | outOfRange
  /-- A division by zero. -/
  | divisionByZero
  /-- A number is too large for the format it is stored in. -/
  | overflow
  /-- The value is no operation of the catalog. -/
  | notAnOperation (shown : String)
  /-- The dispatch table cannot be built. -/
  | dispatch (message : String)
  /-- An outcome was asked for the side that it does not have. -/
  | wrongSide (message : String)
  deriving DecidableEq, Repr, Inhabited

namespace Misuse

/-- The explanation that goes with the failure, when it has one. -/
def message? : Misuse → Option String
  | .malformedType message => some message
  | .notAnOperation shown => some s!"not a catalog operation: {shown}"
  | .dispatch message => some message
  | .wrongSide message => some message
  | _ => none

end Misuse

/-- The failure of a check. -/
inductive Fault where
  | diagnostic (d : Diagnostic)
  | misuse (m : Misuse)
  deriving DecidableEq, Repr, Inhabited

/-- A check that yields a value of type `α` or fails. -/
abbrev Check (α : Type) : Type := Except Fault α

/-- Fails with a diagnostic. -/
def reject {α : Type} (kind : Diagnostic.Kind) (message : String) (notes : List String := []) :
    Check α :=
  .error (.diagnostic { kind := kind, message := message, notes := notes })

/-- Fails with a misuse. -/
def misuse {α : Type} (m : Misuse) : Check α := .error (.misuse m)

/-- Continues when the condition holds and is rejected otherwise. -/
@[macro_inline]
def ensure (condition : Prop) [Decidable condition] (kind : Diagnostic.Kind) (message : String) :
    Check Unit :=
  if condition then .ok () else reject kind message

/-- The value, which has to be there. -/
def needPart {α : Type} : Option α → Check α
  | some value => .ok value
  | none => misuse .missingPart

/-- The items of a list, which has to be there. -/
def needItems {α : Type} : Option (List α) → Check (List α)
  | some items => .ok items
  | none => misuse .wrongSort

/-- The quotient, rounded down. -/
def floorDiv (n divisor : Int) : Check Int :=
  if divisor = 0 then misuse .divisionByZero else .ok (n.fdiv divisor)

/-- What is left after the division, with the sign of the divisor. -/
def floorMod (n divisor : Int) : Check Int :=
  if divisor = 0 then misuse .divisionByZero else .ok (n.fmod divisor)

/-- Runs the check on every item in order, stopping at the first failure. -/
def checkAll {α : Type} (check : α → Check Unit) : List α → Check Unit
  | [] => .ok ()
  | item :: rest =>
      match check item with
      | .ok () => checkAll check rest
      | .error fault => .error fault

/-- Runs the check on every item with its position, stopping at the first failure. -/
def checkEach {α : Type} (check : Nat → α → Check Unit) (items : List α) : Check Unit :=
  checkAll (fun item => check item.2 item.1) items.zipIdx

/-- The values of the check on every item, unless one fails. -/
def collect {α β : Type} (check : α → Check β) : List α → Check (List β)
  | [] => .ok []
  | item :: rest =>
      match check item with
      | .error fault => .error fault
      | .ok value =>
          match collect check rest with
          | .error fault => .error fault
          | .ok values => .ok (value :: values)

end TensorTyping
