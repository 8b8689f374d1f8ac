import TensorTyping.Dimensions
import TensorTyping.Payload.Decode
import TensorTyping.Ty.Compat

/-!
# Explicit broadcasts

A broadcast repeats a tensor along new dimensions, and stretches dimensions of extent one. Where the
result cannot be inferred it is declared, and the rule verifies it.
-/

namespace TensorTyping

namespace Op

/-- A broadcast along new leading dimensions. -/
def inferBroadcast (operand : Ty) (sizes : Payload) : Check (List Ty) := do
  let operand ← operand.needTensor "operand"
  let sizes ← sizes.decodeInts "broadcast_sizes"
  checkAll (fun size =>
    ensure (0 ≤ size) .invalidAttributeValue
      s!"broadcast_sizes contains negative size {size}") sizes
  match operand.shape with
  | .unranked => return [operand.ty]
  | .ranked dims => return [(← Tensor.form operand.element (.ranked (sizes.map some ++ dims))).ty]

/-- The `i`-th dimension of the operand goes to dimension `d` of the result: it has extent one, or
    the two extents are compatible. -/
def verifyBroadcastDim (operand result : Tensor) (i : Nat) (d : Int) :
    Check Unit := do
  let source ← operand.dim i
  let target ← result.dim d
  ensure (source = some 1 ∨ Extent.compatible source target) .incompatibleShape
    (s!"size of operand dimension {i} ({source.text}) is not equal to 1 or size " ++
      s!"of result dimension {d} ({target.text})")

/-- The dimensions of a ranked operand go to distinct dimensions of the result. -/
def verifyBroadcastDims (operand result : Tensor) (dims : List Int) : Check Unit := do
  match operand.rank? with
  | none => return ()
  | some rank =>
      ensure (dims.length = rank) .attributeArityMismatch
        (s!"broadcast_dimensions size ({dims.length}) does not match " ++
          s!"operand rank ({rank})")
      match result.rank? with
      | none => Dimensions.ensurePositions dims none "broadcast_dimensions"
      | some resultRank =>
          ensure (rank ≤ resultRank) .incompatibleShape
            s!"result rank ({resultRank}) is less than operand rank ({rank})"
          Dimensions.ensurePositions dims (some resultRank) "broadcast_dimensions"
          checkEach (verifyBroadcastDim operand result) dims

/-- A broadcast into declared dimensions. -/
structure BroadcastInDim where
  operand : Ty
  dimensions : Payload
  result : Ty
  deriving Repr, Inhabited

/-- A broadcast into declared dimensions gives the declared result. -/
def BroadcastInDim.infer (op : BroadcastInDim) : Check (List Ty) := do
  let operand ← op.operand.needTensor "operand"
  let result ← op.result.needTensor "result"
  ensure (operand.element.same result.element) .incompatibleElementType
    (s!"broadcast_in_dim result element type {result.element.render} differs from " ++
      s!"operand element type {operand.element.render}")
  verifyBroadcastDims operand result (← op.dimensions.decodeInts "broadcast_dimensions")
  return [result.ty]

/-- A broadcast whose result shape is an operand. Some operand dimensions may be declared to
    stretch, and others not to. -/
structure DynamicBroadcastInDim where
  operand : Ty
  outputDimensions : Ty
  dimensions : Payload
  result : Ty
  knownExpanding : Payload := .null
  knownNonexpanding : Payload := .null
  deriving Repr, Inhabited

/-- An operand that holds a shape is a one-dimensional tensor of integers. Its extent is the
    rank. -/
def shapeOperand (t : Tensor) (name : String) : Check Extent := do
  ensure (!t.hasOtherRank 1) .incompatibleShape
    s!"{name} must be a 1-D tensor, got rank {t.rankText}"
  ensure t.element.isInteger .incompatibleElementType
    s!"{name} must hold integers, got {t.element.render}"
  t.dim 0

/-- A broadcast whose result shape is an operand gives the declared result. -/
def DynamicBroadcastInDim.infer (op : DynamicBroadcastInDim) : Check (List Ty) := do
  let operand ← op.operand.needTensor "operand"
  let result ← op.result.needTensor "result"
  let count ← shapeOperand (← op.outputDimensions.needTensor "output_dimensions")
    "output_dimensions"
  ensure (Extent.compatible count (result.rank?.map Int.ofNat)) .incompatibleShape
    (s!"result rank ({result.rankText}) does not match output_dimensions size " ++
      s!"({count.text})")
  ensure (operand.element.same result.element) .incompatibleElementType
    (s!"dynamic_broadcast_in_dim result element type {result.element.render} differs " ++
      s!"from operand element type {operand.element.render}")
  verifyBroadcastDims operand result (← op.dimensions.decodeInts "broadcast_dimensions")
  let expanding ← op.knownExpanding.decodeInts "known_expanding_dimensions"
  let nonexpanding ← op.knownNonexpanding.decodeInts "known_nonexpanding_dimensions"
  Dimensions.ensurePositions expanding operand.rank? "known_expanding_dimensions"
  Dimensions.ensurePositions nonexpanding operand.rank? "known_nonexpanding_dimensions"
  match Dimensions.leastCommon? expanding nonexpanding with
  | none => return [result.ty]
  | some d =>
      reject .invalidDimensionMapping
        s!"duplicate expansion hint for at least one operand dimension: {d}"

end Op

end TensorTyping
