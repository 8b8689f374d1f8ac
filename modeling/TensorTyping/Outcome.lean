import TensorTyping.Fault
import TensorTyping.Payload.Basic

/-!
# Outcomes

An outcome is a success or a failure that holds a plain value or a diagnostic. Asking for the side
that an outcome does not have fails.
-/

namespace TensorTyping

/-- What an outcome holds. -/
inductive Held where
  | value (payload : Payload)
  | diagnostic (d : Diagnostic)
  deriving Repr, Inhabited

/-- The text of what an outcome holds. -/
def Held.text : Held → String
  | .value payload => payload.display
  | .diagnostic d => d.render

/-- A success or a failure. -/
inductive Outcome where
  | ok (held : Held)
  | err (held : Held)
  deriving Repr, Inhabited

namespace Outcome

/-- The outcome is a success. -/
def isOk : Outcome → Bool
  | .ok _ => true
  | .err _ => false

/-- The name of the side. -/
def tag : Outcome → String
  | .ok _ => "ok"
  | .err _ => "err"

/-- What a failure holds. -/
def error : Outcome → Check Held
  | .ok _ => misuse (.wrongSide "Result is Ok, it carries no error")
  | .err held => .ok held

/-- What a success holds. A failure that holds a diagnostic fails with it. -/
def unwrap : Outcome → Check Held
  | .ok held => .ok held
  | .err (.diagnostic d) => .error (.diagnostic d)
  | .err held => misuse (.wrongSide s!"Called unwrap() on Err: {held.text}")

/-- What a success holds, or the given value. -/
def unwrapOr (default : Held) : Outcome → Held
  | .ok held => held
  | .err _ => default

end Outcome

end TensorTyping
