import TensorTyping.Dimensions
import TensorTyping.Op.Precision
import TensorTyping.Payload.Order
import TensorTyping.Record
import TensorTyping.Window.Decode

/-!
# Convolution

A convolution slides the kernel over the spatial dimensions of the input, the spatial extents of the
kernel being the window sizes. Dimension numbers say which dimension of input, kernel and output
plays which role.
-/

namespace TensorTyping

/-- The roles of the dimensions of input, kernel and output of a convolution. The single dimensions
    are kept as they are given. -/
structure ConvolutionDims where
  inputBatch : Payload := .int 0
  inputFeature : Payload := .int 1
  inputSpatial : List Int := []
  kernelInputFeature : Payload := .int 0
  kernelOutputFeature : Payload := .int 1
  kernelSpatial : List Int := []
  outputBatch : Payload := .int 0
  outputFeature : Payload := .int 1
  outputSpatial : List Int := []
  deriving Repr, Inhabited

namespace ConvolutionDims

/-- The dimension numbers of a convolution that a record describes. -/
def ofRecord (record : Record) : Check ConvolutionDims := do
  record.ensureKnown ["input_batch_dimension", "input_feature_dimension",
    "input_spatial_dimensions", "kernel_input_feature_dimension",
    "kernel_output_feature_dimension", "kernel_spatial_dimensions", "output_batch_dimension",
    "output_feature_dimension", "output_spatial_dimensions"]
  let inputSpatial ← record.ints "input_spatial_dimensions"
  let kernelSpatial ← record.ints "kernel_spatial_dimensions"
  let outputSpatial ← record.ints "output_spatial_dimensions"
  return {
    inputBatch := record.payload "input_batch_dimension" (.int 0)
    inputFeature := record.payload "input_feature_dimension" (.int 1)
    inputSpatial := inputSpatial
    kernelInputFeature := record.payload "kernel_input_feature_dimension" (.int 0)
    kernelOutputFeature := record.payload "kernel_output_feature_dimension" (.int 1)
    kernelSpatial := kernelSpatial
    outputBatch := record.payload "output_batch_dimension" (.int 0)
    outputFeature := record.payload "output_feature_dimension" (.int 1)
    outputSpatial := outputSpatial }

/-- There are as many spatial dimensions as expected. -/
def ensureSpatialCount (expected : Payload) (what : String) (spatial : List Int) : Check Unit :=
  ensure (expected.isInt spatial.length) .invalidDimensionMapping
    (s!"expects {what} spatial dimensions to have {expected.display} entries, got " ++
      s!"{spatial.length}")

/-- Dimensions in braces. -/
def braced (dims : List Payload) : String :=
  "\x7b" ++ ", ".intercalate (dims.map Payload.display) ++ "\x7d"

/-- The dimensions of one tensor are distinct positions below the rank. -/
def ensureRoles (rank : Payload) (what : String) (first second : Payload) (spatial : List Int) :
    Check Unit := do
  let dims := first :: second :: spatial.map .int
  let distinct ← Payload.areDistinct dims
  ensure distinct .invalidDimensionMapping
    s!"expects {what} dimensions to be unique, got {braced dims}."
  checkAll (fun (d : Payload) => do
    let inRange ← d.isWithin 0 (← rank.toInt)
    ensure inRange .invalidDimensionMapping
      (s!"expects {what} dimension-numbers to be in-range [0, {rank.display}), " ++
        s!"got: {d.display}.")) dims

/-- Every role names a dimension of its own, and the roles cover the whole rank. There are as many
    spatial dimensions as the rank leaves beside the two others. -/
def verify (dims : ConvolutionDims) (rank : Payload) : Check Unit := do
  let spatialCount ← rank.minus 2
  ensureSpatialCount spatialCount "input" dims.inputSpatial
  ensureSpatialCount spatialCount "kernel" dims.kernelSpatial
  ensureSpatialCount spatialCount "output" dims.outputSpatial
  ensureRoles rank "input" dims.inputBatch dims.inputFeature dims.inputSpatial
  ensureRoles rank "kernel" dims.kernelInputFeature dims.kernelOutputFeature dims.kernelSpatial
  ensureRoles rank "output" dims.outputBatch dims.outputFeature dims.outputSpatial

end ConvolutionDims

namespace Op

/-- A convolution, with a result that may be declared. -/
structure Convolution where
  lhs : Ty
  rhs : Ty
  dimensions : Option ConvolutionDims
  window : Window.RawAttributes := {}
  featureGroups : Payload := .int 1
  batchGroups : Payload := .int 1
  precision : Payload := .null
  result : Option Ty := none
  deriving Repr, Inhabited

namespace Convolution

/-- Both group counts are positive, and at most one of them is greater than one. -/
def verifyGroups (op : Convolution) : Check Unit := do
  let features := op.featureGroups
  let batches := op.batchGroups
  let bad ← features.isAtMost 0
  ensure (!bad) .invalidAttributeValue
    s!"expects feature_group_count to be a positive number, got {features.display}."
  let bad ← batches.isAtMost 0
  ensure (!bad) .invalidAttributeValue
    s!"expects batch_group_count to be a positive number, got {batches.display}."
  let grouped ← features.isAbove 1
  let batched ← batches.isAbove 1
  ensure (!(grouped && batched)) .invalidAttributeValue
    ("expects batch_group_count and feature_group_count not to be both greater " ++
      s!"than 1. Got {batches.display} and {features.display} resp.")

/-- The extent is unknown or a multiple of the number of groups. -/
def isMultiple (dim : Extent) (groups : Payload) : Check Bool :=
  match dim with
  | none => .ok true
  | some n => groups.divides n

/-- The features of one group are those of the kernel, as far as both are known. -/
def groupMatches (features kernelFeatures : Extent) (groups : Payload) : Check Bool :=
  match features, kernelFeatures with
  | some n, some m => do return (← groups.share n).isInt m
  | _, _ => .ok true

/-- The extent of one group. A real number of groups leaves a real extent, which no tensor has. -/
def groupExtent (dim : Extent) (groups : Payload) : Check Extent :=
  match dim with
  | none => .ok none
  | some n => do Shape.readExtent (← groups.share n)

/-- The extents of batches and features agree with the group counts. -/
def verifyFeatures (op : Convolution) (batch features kernelFeatures outputFeatures : Extent) :
    Check Unit := do
  let featureGroups := op.featureGroups
  let batchGroups := op.batchGroups
  let multiple ← isMultiple features featureGroups
  ensure multiple .incompatibleShape
    (s!"expects input feature dimension ({features.text}) to be a multiple of " ++
      s!"feature_group_count. Got feature_group_count = {featureGroups.display}.")
  let agree ← groupMatches features kernelFeatures featureGroups
  ensure agree .incompatibleShape
    (s!"expects input feature dimension ({features.text}) / feature_group_count = " ++
      s!"kernel input feature dimension ({kernelFeatures.text}). Got " ++
      s!"feature_group_count = {featureGroups.display}.")
  let multiple ← isMultiple batch batchGroups
  ensure multiple .incompatibleShape
    (s!"expects input batch dimension ({batch.text}) to be divisible by " ++
      s!"batch_group_count. Got batch_group_count = {batchGroups.display}.")
  let multiple ← isMultiple outputFeatures batchGroups
  ensure multiple .incompatibleShape
    (s!"expects output feature dimension size ({outputFeatures.text}) to be a " ++
      s!"multiple of batch_group_count. Got batch_group_count = {batchGroups.display}.")
  let multiple ← isMultiple outputFeatures featureGroups
  ensure multiple .incompatibleShape
    (s!"expects kernel output feature dimension ({outputFeatures.text}) to be " ++
      s!"divisible by feature_group_count. For feature_group_count = {featureGroups.display}.")

/-- The extents of the output, each at the position of its role. -/
def placeDims (rank : Nat) (batchDim featureDim : Int) (spatialDims : List Int)
    (batch features : Extent) (spatial : List Extent) : Check (List Extent) :=
  setItems (List.replicate rank none)
    ((batchDim, batch) :: (featureDim, features) :: spatialDims.zip spatial)

/-- The convolution of two tensors of one rank. -/
def inferRanked (op : Convolution) (lhs rhs : Tensor) (rank : Nat) : Check Tensor := do
  let dims ← needPart op.dimensions
  dims.verify (.int rank)
  let batch ← lhs.dimAt dims.inputBatch
  let features ← lhs.dimAt dims.inputFeature
  let kernelFeatures ← rhs.dimAt dims.kernelInputFeature
  let outputFeatures ← rhs.dimAt dims.kernelOutputFeature
  op.verifyFeatures batch features kernelFeatures outputFeatures
  let sizes ← collect rhs.dim dims.kernelSpatial
  let window ← Window.decode (.ofExtents sizes) (.int ((rank : Int) - 2)) op.window
  let spatial ← Window.outputDims (← collect lhs.dim dims.inputSpatial) window
  let batchDim ← dims.outputBatch.needInt
  let featureDim ← dims.outputFeature.needInt
  let batch ← groupExtent batch op.batchGroups
  let shape ← placeDims rank batchDim featureDim dims.outputSpatial batch outputFeatures spatial
  Tensor.form lhs.element (.ranked shape)

/-- The convolution of two tensors. An unranked operand makes it unranked. -/
def inferTensor (op : Convolution) (lhs rhs : Tensor) : Check Tensor :=
  match lhs.rank?, rhs.rank? with
  | some rank, some kernelRank => do
      ensure (rank = kernelRank) .incompatibleShape
        ("expects convolution arguments to have same number of dimensions. Got: " ++
          s!"{lhs.render} and {rhs.render}.")
      ensure (2 ≤ rank) .incompatibleShape
        (s!"expects convolution arguments to have >= 2 dimensions. Got: {lhs.render} and " ++
          s!"{rhs.render}.")
      op.inferRanked lhs rhs rank
  | _, _ => .ok (.unranked lhs.element)

/-- The result of a convolution. -/
def infer (op : Convolution) : Check (List Ty) := do
  let lhs ← op.lhs.needTensor "lhs"
  let rhs ← op.rhs.needTensor "rhs"
  verifyPrecision op.precision
  op.verifyGroups
  let inferred ← op.inferTensor lhs rhs
  return [← inferred.ty.settle op.result "convolution"]

end Convolution

end Op

end TensorTyping
