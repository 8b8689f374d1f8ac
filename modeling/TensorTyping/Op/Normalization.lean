import TensorTyping.Payload.Order
import TensorTyping.Ty.Compat
import TensorTyping.Ty.Form

/-!
# Batch normalization

The three operations of batch normalization: over a training batch, with given statistics, and the
gradient. Each has per-feature operands with one value for each position of the feature dimension.
-/

namespace TensorTyping

namespace Op

/-- The small number that keeps a denominator away from zero unless another one is given. -/
def defaultEpsilon : Payload := .real (.ofDecimal false 1 (-5))

/-- The attributes that all three operations share. -/
structure NormAttributes where
  featureIndex : Payload
  epsilon : Payload := defaultEpsilon
  deriving Repr, Inhabited

/-- The denominator stays positive. -/
def verifyEpsilon (epsilon : Payload) : Check Unit := do
  let bad ← epsilon.isAtMost 0
  ensure (!bad) .invalidAttributeValue s!"epsilon must be positive, got {epsilon.display}"

/-- The feature dimension is a position of the operand; its extent is returned. -/
def verifyFeatureIndex (operand : Tensor) (index : Payload) : Check Extent := do
  ensure operand.element.isFloat .incompatibleElementType
    s!"batch norm expects a floating-point operand, got {operand.element.render}"
  match operand.rank? with
  | none =>
      let negative ← index.isBelow 0
      ensure (!negative) .invalidDimensionMapping
        s!"expects feature_index to be non-negative, got {index.display}"
      return none
  | some rank =>
      ensure (1 ≤ rank) .incompatibleShape "expects operand to have rank >= 1"
      let inRange ← index.isWithin 0 rank
      ensure inRange .invalidDimensionMapping
        ("expects feature_index to be smaller than the rank of operand type; got " ++
          s!"feature_index {index.display}, and rank {rank}.")
      operand.dimAt index

/-- A per-feature operand agrees with the feature extent known so far, and may add to it. -/
def verifyFeature (element : Ty) (extent : Extent) (name : String) (t : Tensor) :
    Check Extent := do
  ensure (t.element.same element) .incompatibleElementType
    (s!"expects {name} to have element type {element.render}, got " ++
      s!"{t.element.render}")
  ensure (!t.hasOtherRank 1) .incompatibleShape
    s!"expects {name} to be a 1-D tensor, got {t.render}"
  let own ← t.dim 0
  ensure (Extent.compatible own extent) .incompatibleShape
    (s!"expects the size of {name} to be the same as feature count, but the size " ++
      s!"of {name} is {own.text} and the feature count is {extent.text}.")
  return Extent.refine own extent

/-- The per-feature operands agree with the operand; the feature extent is returned. -/
def verifyFeatures (operand : Tensor) (index : Payload) (features : List (String × Tensor)) :
    Check Extent := do
  let extent ← verifyFeatureIndex operand index
  features.foldlM (fun extent item => verifyFeature operand.element extent item.1 item.2) extent

/-- Named per-feature operands as tensors. -/
def needFeatures (features : List (String × Ty)) : Check (List (String × Tensor)) :=
  collect (fun item => do return (item.1, ← item.2.needTensor item.1)) features

/-- Normalization over a training batch. -/
structure BatchNormTraining where
  operand : Ty
  scale : Ty
  offset : Ty
  attributes : NormAttributes
  deriving Repr, Inhabited

/-- Training gives the normalized operand and the statistics of each feature. -/
def BatchNormTraining.infer (op : BatchNormTraining) : Check (List Ty) := do
  let operand ← op.operand.needTensor "operand"
  let features ← needFeatures [("scale", op.scale), ("offset", op.offset)]
  verifyEpsilon op.attributes.epsilon
  let extent ← verifyFeatures operand op.attributes.featureIndex features
  let statistic : Ty := .tensor operand.element (.ranked [extent])
  return [operand.ty, statistic, statistic]

/-- Normalization with given statistics. -/
structure BatchNormInference where
  operand : Ty
  scale : Ty
  offset : Ty
  mean : Ty
  variance : Ty
  attributes : NormAttributes
  deriving Repr, Inhabited

/-- Normalization with given statistics keeps the type of the operand. -/
def BatchNormInference.infer (op : BatchNormInference) : Check (List Ty) := do
  let operand ← op.operand.needTensor "operand"
  let features ← needFeatures
    [("scale", op.scale), ("offset", op.offset), ("mean", op.mean), ("variance", op.variance)]
  verifyEpsilon op.attributes.epsilon
  let _ ← verifyFeatures operand op.attributes.featureIndex features
  return [operand.ty]

/-- The gradient of normalization. -/
structure BatchNormGrad where
  operand : Ty
  scale : Ty
  mean : Ty
  variance : Ty
  gradOutput : Ty
  attributes : NormAttributes
  deriving Repr, Inhabited

/-- The gradient has the type of the operand and of two per-feature values. -/
def BatchNormGrad.infer (op : BatchNormGrad) : Check (List Ty) := do
  let operand ← op.operand.needTensor "operand"
  let gradOutput ← op.gradOutput.needTensor "grad_output"
  let operand ← Ty.unifyTensorList [operand, gradOutput] "operand and grad_output"
  let features ← needFeatures
    [("scale", op.scale), ("mean", op.mean), ("variance", op.variance)]
  verifyEpsilon op.attributes.epsilon
  let extent ← verifyFeatures operand op.attributes.featureIndex features
  let statistic : Ty := .tensor operand.element (.ranked [extent])
  return [operand.ty, statistic, statistic]

end Op

end TensorTyping
