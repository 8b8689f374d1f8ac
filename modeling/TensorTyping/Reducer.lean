import TensorTyping.Payload.Order
import TensorTyping.Region
import TensorTyping.Ty.Compat

/-!
# Reduction bodies

A reduction over `N` inputs has a body with `2 * N` parameters, first the `N` accumulators and then
one element of each input, and `N` results, the new accumulators. `Reducer.verify` decides this
contract.
-/

namespace TensorTyping

namespace Reducer

/-- The operations whose reducers accept floating-point types of any width where an operand
    parameter or an initial value meets the accumulator. -/
def relaxedOperations : List String :=
  ["reduce", "reduce_window", "scatter", "select_and_scatter", "all_reduce", "reduce_scatter"]

/-- The relaxed policy holds for the operation. -/
def isRelaxed (operation : String) : Bool := relaxedOperations.contains operation

/-- The extents can be matched in order against some of the allowed ones, an unknown extent matching
    every other. The earliest match is taken each time. -/
def embeds : List Extent → List Extent → Bool
  | [], _ => true
  | _ :: _, [] => false
  | dim :: dims, allowed :: rest =>
      if Extent.compatible dim allowed then embeds dims rest else embeds (dim :: dims) rest

/-- What a body is checked against: the types of the inputs and of the initial values, their number
    as it is given, the extents that an operand parameter may keep, and whether no input has a
    rank. -/
structure Context where
  inputs : List Ty
  inits : List Ty
  count : Payload
  allowed : List Extent
  allUnranked : Bool := false
  operation : String := "reduce"
  deriving Repr, Inhabited

/-- The context of a body for the given inputs and initial values. -/
def Context.ofTensors (inputs inits : List Tensor) (allowed : List Extent) (operation : String) :
    Context :=
  { inputs := inputs.map Tensor.ty
    inits := inits.map Tensor.ty
    count := .int inputs.length
    allowed := allowed
    allUnranked := inputs.all fun t => !t.hasRank
    operation := operation }

/-- The types at one position of the contract. -/
structure Position where
  result : Tensor
  accumulator : Ty
  operand : Ty
  init : Ty
  input : Ty
  deriving Repr, Inhabited

/-- Rejects a body unless the condition holds. -/
def require (condition : Prop) [Decidable condition] (reason : String) (parameter : Option Int)
    (message : String) : Check Unit :=
  ensure condition (.reducerSignatureMismatch parameter reason) message

/-- An operand parameter keeps some of the allowed extents in order, unless no input has a rank. -/
def verifyKept (context : Context) (second i : Nat) (operand : Shape) : Check Unit :=
  match operand with
  | .ranked dims =>
      require (context.allUnranked ∨ embeds dims context.allowed) "shape" (some second)
        (s!"The shape of reduction-region's argument at index {second} is not " ++
          s!"compatible with that of {context.operation}-op's input-parameter at index {i}")
  | .unranked => .ok ()

/-- The contract at position `i` of `count`. -/
def verifyPosition (context : Context) (count i : Nat) (p : Position) : Check Unit := do
  let relaxed := isRelaxed context.operation
  let second := count + i
  require (Ty.compatible false p.result.ty p.accumulator) "accumulator-type" (some i)
    (s!"The type of reduction-region's parameter at index {i} is different than " ++
      s!"the corresponding result type: {p.accumulator.render} vs {p.result.render}")
  require (Ty.compatible relaxed p.result.ty p.operand) "operand-type" (some second)
    (s!"The type of reduction-region's parameter at index {second} is different than the " ++
      s!"corresponding result type: {p.operand.render} vs {p.result.render}")
  require (Ty.compatible relaxed p.result.ty p.init) "init-type" (some i)
    (s!"The type of reduction-region's result type at index {i} differs from the " ++
      s!"op's corresponding init-value type: {p.result.render} vs {p.init.render}")
  let operand ← needPart p.operand.tensor?
  require (Ty.compatibleElements relaxed p.input.elementType operand.element)
    "element-type" (some second)
    (s!"The element-type of reduction-region's argument at index {second} is expected to be " ++
      s!"{p.input.elementType.render}, but got {p.operand.render} as its type.")
  verifyKept context second i operand.shape

/-- The results of the body, all of which have to be tensors. -/
def tensorResults (results : List Ty) : Check (List Tensor) :=
  collect (fun result =>
    match result.tensor? with
    | some tensor => .ok tensor
    | none =>
        reject (.reducerSignatureMismatch none "result-kind")
          ("Reduction-region here must produce tensor-typed result(s), but produces " ++
            s!"{result.render} instead")) results

/-- The types at position `i` of `count`. -/
def position (results : List Tensor) (parameters inits inputs : List Ty) (count i : Nat) :
    Check Position := do
  return {
    result := ← itemAt results i
    accumulator := ← itemAt parameters i
    operand := ← itemAt parameters (count + i)
    init := ← itemAt inits i
    input := ← itemAt inputs i }

/-- Decides the contract of a reduction body, which has to be there; returns its accumulators. -/
def verify (body : Option Region) (context : Context) : Check (List Tensor) := do
  let count := context.count
  let number := context.inputs.length
  ensure (count.isInt number ∧ count.isInt context.inits.length) .invalidOperand
    (s!"expects {count.display} inputs and init values, got {number} and " ++
      s!"{context.inits.length}")
  let body ← needPart body
  let twice ← count.times (.int 2)
  require (body.arguments.length = 2 * number) "parameter-count" none
    (s!"Reduction-region must take {twice.display} parameters, but takes " ++
      s!"{body.arguments.length} parameter(s)")
  require (body.results.length = number) "result-count" none
    (s!"Reduction-region here must produce {count.display} tensors, but produces " ++
      s!"{body.results.length} instead")
  let results ← tensorResults body.results
  let _ ← count.needInt
  let positions ← collect (position results body.arguments context.inits context.inputs number)
    (List.range number)
  checkEach (verifyPosition context number) positions
  return results

end Reducer

end TensorTyping
