import TensorTyping.Dimensions
import TensorTyping.Payload.Decode
import TensorTyping.Payload.Order
import TensorTyping.Reducer

/-!
# Reductions, maps and sorts

Operations on several inputs of one shape, whose element types may differ, with a nested computation
on scalars.
-/

namespace TensorTyping

namespace Op

/-! ### Shared checks -/

/-- The shape that the inputs have together, with the element type of the first. -/
def unifyShapes (first : Tensor) (inputs : List Tensor) (what : String) : Check Tensor :=
  Ty.unifyTensorList (inputs.map fun t => ⟨first.element, t.shape⟩) what

/-- The inputs as tensors, and the shape that they have together. -/
def unifyInputs (inputs : List Tensor) (what : String) : Check Tensor := do
  unifyShapes (← itemAt inputs 0) inputs what

/-- The initial values: there is an input, and one initial value for each. -/
def needInits (inputs : List Ty) (inits : Option (List Ty)) : Check (List Ty) := do
  ensure (!inputs.isEmpty) .invalidOperand "expects at least one input"
  let inits ← needItems inits
  ensure (inits.length = inputs.length) .invalidOperand
    s!"expects {inputs.length} init values, got {inits.length}"
  return inits

/-- The initial values are scalars. -/
def verifyScalarInits (inits : List Tensor) : Check Unit :=
  checkAll (fun init =>
    ensure (!init.hasOtherRank 0) .incompatibleShape
      s!"expects init values to be rank-0 tensors, got {init.render}") inits

/-! ### Reduce -/

/-- A reduction over some dimensions. Without a body the results have the types of the initial
    values. -/
structure Reduce where
  inputs : List Ty
  inits : Option (List Ty)
  dimensions : Payload
  body : Option Region := none
  deriving Repr, Inhabited

/-- The shape that a reduction keeps. -/
def keptShape (shape : Shape) (reduced : List Int) : Shape :=
  match shape with
  | .unranked => .unranked
  | .ranked dims => .ranked (Shape.without dims reduced)

/-- The reduced dimensions are distinct positions of the inputs. -/
def verifyReducedDims (base : Tensor) (dims : List Int) : Check Unit := do
  ensure dims.Nodup .invalidDimensionMapping s!"Duplicate reduction dimension: {intsText dims}"
  checkAll (fun d =>
    ensure (Dimensions.isPosition base.rank? d) .invalidDimensionMapping
      (s!"Out-of-bounds dimension {d}, expected to be in range [0, {base.rankText})")) dims

/-- The accumulators of the body, or the initial values when there is no body. -/
def Reduce.accumulators (op : Reduce) (inputs inits : List Tensor) (shape : Shape) :
    Check (List Tensor) :=
  match op.body with
  | none => .ok inits
  | some body =>
      Reducer.verify (some body) (.ofTensors inputs inits (shape.dims?.getD []) "reduce")

/-- A reduction drops the reduced dimensions. The element types are those of the accumulators. -/
def Reduce.infer (op : Reduce) : Check (List Ty) := do
  let inits ← needInits op.inputs op.inits
  let inputs ← collect (Ty.needTensor · "reduce input") op.inputs
  let inits ← collect (Ty.needTensor · "init value") inits
  let base ← unifyInputs inputs "reduce inputs"
  verifyScalarInits inits
  let dims ← op.dimensions.decodeInts "dimensions"
  verifyReducedDims base dims
  let shape := keptShape base.shape dims
  let accumulators ← op.accumulators inputs inits shape
  return accumulators.map fun t => .tensor t.element shape

/-! ### Map -/

/-- A computation on the elements of several inputs. -/
structure MapElements where
  inputs : List Ty
  dimensions : Payload
  computation : Option Region
  deriving Repr, Inhabited

/-- The computation takes one scalar of each input and gives one scalar; its type is returned. -/
def verifyScalarComputation (inputs : List Tensor) (computation : Region) : Check Ty := do
  ensure (computation.arguments.length = inputs.length) .invalidRegion
    ("expects number of operands to match the arity of map computation, but got: " ++
      s!"{inputs.length} and {computation.arguments.length}")
  checkEach (fun i (argument, input) =>
    let expected := (Tensor.scalar input.element).ty
    ensure (argument.same expected) .invalidRegion
      (s!"expects computation parameter {i} to be {expected.render}, " ++
        s!"but got {argument.render}")) (computation.arguments.zip inputs)
  match computation.results with
  | [result] =>
      match result with
      | .tensor element (.ranked []) => return element
      | _ =>
          reject .invalidRegion
            s!"computation must return 0-rank tensor type, but got: {result.render}"
  | results =>
      reject .invalidRegion
        s!"computation must return single output, but got: {results.length}"

/-- A map over all dimensions keeps the shape and takes the element type of the computation. -/
def MapElements.infer (op : MapElements) : Check (List Ty) := do
  ensure (!op.inputs.isEmpty) .invalidOperand "expects at least one input"
  let inputs ← collect (Ty.needTensor · "map input") op.inputs
  let base ← unifyInputs inputs "map inputs"
  let element ← verifyScalarComputation inputs (← needPart op.computation)
  let dims ← op.dimensions.decodeInts "dimensions"
  let rank := base.rank?.getD dims.length
  ensure (dims = Dimensions.upTo rank) .invalidDimensionMapping
    s!"requires monotonically increasing dimension numbers, but got: {intsText dims}"
  return [.tensor element base.shape]

/-! ### Sort -/

/-- A sort of several inputs along one dimension, counted from the end when negative. -/
structure SortTensors where
  inputs : List Ty
  comparator : Option Region := none
  dimension : Payload := .int (-1)
  deriving Repr, Inhabited

/-- The comparator takes two scalars of each input and returns a predicate. -/
def verifyComparator (inputs : List Tensor) (comparator : Region) : Check Unit := do
  let count := 2 * inputs.length
  ensure (comparator.arguments.length = count) .invalidRegion
    (s!"comparator block should have {count} arguments, got " ++
      s!"{comparator.arguments.length}")
  checkEach (fun i (input : Tensor) =>
    let expected := (Tensor.scalar input.element).ty
    checkAll (fun (j : Nat) => do
      let argument ← itemAt comparator.arguments j
      ensure (argument.same expected) .invalidRegion
        (s!"comparator block argument #{j} should be of type {expected.render} but " ++
          s!"got {argument.render}")) [2 * i, 2 * i + 1]) inputs
  let expected := (Tensor.scalar .i1).ty
  ensure (comparator.returns expected) .invalidRegion
    s!"comparator must return {expected.render} but got {comparator.resultsText}"

/-- The dimension lies within the rank, when there is a dimension to sort along. -/
def verifySortDimension (rank : Option Nat) (dimension : Payload) : Check Unit := do
  match rank with
  | none | some 0 => return ()
  | some rank =>
      let inRange ← dimension.isWithin (-(rank : Int)) rank
      ensure inRange .invalidDimensionMapping
        (s!"dimension attribute value must be in range [-{rank}, {rank}), but found " ++
          s!"{dimension.display}")

/-- Sorted inputs keep their element types and take the shape that all have together. -/
def SortTensors.infer (op : SortTensors) : Check (List Ty) := do
  ensure (!op.inputs.isEmpty) .invalidOperand "requires at least one input"
  let inputs ← collect (Ty.needTensor · "sort input") op.inputs
  let base ← unifyInputs inputs "sort inputs"
  verifySortDimension base.rank? op.dimension
  match op.comparator with
  | none => pure ()
  | some comparator => verifyComparator inputs comparator
  return inputs.map fun t => .tensor t.element base.shape

end Op

end TensorTyping
