import TensorTyping.Payload.Order
import TensorTyping.Region
import TensorTyping.Ty.Compat

/-!
# Control flow, tuples and tokens

Branches and loops give what the types that their regions can yield say together. Tuples group
values, and tokens order side effects.
-/

namespace TensorTyping

namespace Op

/-! ### Branches -/

/-- The operand is a scalar of the given element type. -/
def verifyScalar (operand element : Ty) (what : String) : Check Unit := do
  let t ← operand.needTensor what
  ensure (t.element.same element ∧ !t.hasOtherRank 0) .invalidOperand
    s!"{what} should be a rank-0 tensor of {element.render}, got {t.render}"

/-- The regions, none of which takes arguments. -/
def needBranches (what : String) (branches : List (Option Region)) : Check (List Region) :=
  collect (fun item => do
    let branch ← needPart item.1
    ensure branch.arguments.isEmpty .invalidRegion
      (s!"{what} {item.2} must have no arguments, but has " ++
        s!"{branch.arguments.length}")
    return branch) branches.zipIdx

/-- What the results of all branches say together. -/
def unifyBranches (branches : List (Option Region)) : Check (List Ty) := do
  let regions ← needBranches "branch" branches
  Ty.unifyLists (regions.map Region.results) "branch"

/-- A choice between two branches by a predicate. -/
structure If where
  pred : Ty
  trueBranch : Option Region
  falseBranch : Option Region
  deriving Repr, Inhabited

/-- A choice between two branches gives what both yield. -/
def If.infer (op : If) : Check (List Ty) := do
  verifyScalar op.pred .i1 "pred"
  unifyBranches [op.trueBranch, op.falseBranch]

/-- A choice between any number of branches gives what all of them yield. -/
def inferCase (index : Ty) (branches : List (Option Region)) : Check (List Ty) := do
  verifyScalar index .i32 "index"
  ensure (!branches.isEmpty) .invalidRegion "expect at least one branch"
  unifyBranches branches

/-! ### Loops -/

/-- A loop: values carried through a body as long as a condition holds. -/
structure While where
  operands : List Ty
  cond : Option Region
  body : Option Region
  deriving Repr, Inhabited

/-- The types are pairwise compatible with the expected ones. -/
def verifyCarried (actual expected : List Ty) (what : String) : Check Unit := do
  ensure (actual.length = expected.length) .invalidRegion
    s!"expect {what} to have {expected.length} values, got {actual.length}"
  checkEach (fun i (a, e) => do
    let agree ← a.checkCompatible e
    ensure agree .invalidRegion
      s!"type mismatch in {what} at #{i}: {a.render} vs {e.render}") (actual.zip expected)

/-- The type is a scalar predicate, or a predicate of unknown rank. -/
def isCondition (t : Ty) : Bool :=
  match t.tensor? with
  | some view => !view.hasOtherRank 0 && view.element.same .i1
  | none => false

/-- The condition takes the carried values and yields one predicate. -/
def verifyCondition (operands : List Ty) (cond : Region) : Check Unit := do
  verifyCarried cond.arguments operands "cond arguments"
  match cond.results with
  | [result] =>
      ensure (isCondition result) .invalidRegion
        ("expect condition block return a zero-ranked tensor of i1 but got " ++
          s!"{result.render}")
  | results =>
      reject .invalidRegion
        s!"expect condition body to return a single value, got {results.length}"

/-- A loop gives what its operands and the results of its body say together. -/
def While.infer (op : While) : Check (List Ty) := do
  verifyCondition op.operands (← needPart op.cond)
  let body ← needPart op.body
  verifyCarried body.arguments op.operands "body arguments"
  verifyCarried body.results op.operands "body results"
  Ty.unifyLists [op.operands, body.results] "while"

/-! ### Tuples -/

/-- An item of a tuple. -/
def inferGetTupleElement (operand : Ty) (index : Payload) : Check (List Ty) := do
  match operand with
  | .tuple items =>
      let inRange ← index.isWithin 0 items.length
      ensure inRange .invalidAttributeValue
        s!"index {index.display} is out of bounds of operand with size {items.length}"
      return [← itemAt items (← index.needInt)]
  | other =>
      reject .invalidOperand s!"get_tuple_element expects a tuple operand, got {other.render}"

/-- The type is that of a value: a tensor, a tuple or a token. -/
def isValue : Ty → Bool
  | .tensor .. | .tuple _ | .token => true
  | _ => false

/-- The end of a region forwards values and has no results. -/
def inferReturn (values : List Ty) : Check (List Ty) := do
  checkEach (fun i value =>
    ensure (isValue value) .invalidOperand
      s!"return operand #{i} must be a value type, got {value.render}") values
  return []

/-! ### Tokens and process ids -/

/-- The type is a token. -/
def isToken : Ty → Bool
  | .token => true
  | _ => false

/-- The types are tokens, and the result is one. -/
def inferToken (values : List Ty) (what : String) : Check (List Ty) := do
  checkEach (fun i value =>
    ensure (isToken value) .invalidOperand
      s!"{what} #{i} must be a token, got {value.render}") values
  return [.token]

/-- The number of a process, as a scalar. -/
def processId : List Ty := [(Tensor.scalar .ui32).ty]

end Op

end TensorTyping
