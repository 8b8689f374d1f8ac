import TensorTyping.Indexing.DynamicSlice
import TensorTyping.Indexing.Gather
import TensorTyping.Indexing.Scatter
import TensorTyping.Payload.Decode
import TensorTyping.Reducer

/-!
# Indexing operations

Gathers, scatters and dynamic slices with their attributes undecoded.
-/

namespace TensorTyping

namespace Op

/-- A gather with fixed slice sizes. -/
structure GatherSlices where
  operand : Ty
  starts : Ty
  dimensions : Option GatherDims
  sizes : Payload
  deriving Repr, Inhabited

/-- A gather with fixed slice sizes. -/
def GatherSlices.infer (op : GatherSlices) : Check (List Ty) := do
  let sizes ← op.sizes.decodeInts "slice_sizes"
  return [(← Gather.infer op.operand op.starts op.dimensions (some (sizes.map some))).ty]

/-- A gather whose slice sizes are an operand; its value may be known. -/
structure DynamicGather where
  operand : Ty
  starts : Ty
  sizes : Ty
  dimensions : Option GatherDims
  sizeValues : Payload := .null
  deriving Repr, Inhabited

/-- A vector of integers that may be absent. -/
def decodeOptional (payload : Payload) (name : String) : Check (Option (List Int)) := do
  if payload.isAbsent then return none else return some (← payload.decodeInts name)

/-- A gather whose slice sizes are an operand. -/
def DynamicGather.infer (op : DynamicGather) : Check (List Ty) := do
  let values ← decodeOptional op.sizeValues "slice_sizes"
  let values := values.map (List.map some)
  return [(← Gather.inferDynamic op.operand op.starts op.sizes op.dimensions values).ty]

/-- A scatter of updates into inputs, combined by a reduction body. -/
structure ScatterUpdates where
  inputs : List Ty
  indices : Ty
  updates : Option (List Ty)
  dimensions : Option ScatterDims
  body : Option Region
  deriving Repr, Inhabited

/-- A scatter keeps the types of its inputs. Its body reduces scalars. -/
def ScatterUpdates.infer (op : ScatterUpdates) : Check (List Ty) := do
  Scatter.verify op.inputs op.indices op.updates op.dimensions
  let inputs ← collect (Ty.needTensor · "scatter input") op.inputs
  let updates ← collect (Ty.needTensor · "scatter update") (← needItems op.updates)
  let _ ← Reducer.verify op.body
    { inputs := updates.map Tensor.element
      inits := inputs.map fun t => (Tensor.scalar t.element).ty
      count := .int inputs.length
      allowed := []
      allUnranked := inputs.all fun t => !t.hasRank
      operation := "scatter" }
  return inputs.map Tensor.ty

/-- A slice at computed positions. -/
structure SliceAt where
  operand : Ty
  starts : Option (List Ty)
  sizes : Payload := .null
  deriving Repr, Inhabited

/-- A slice at computed positions. -/
def SliceAt.infer (op : SliceAt) : Check (List Ty) := do
  let sizes ← decodeOptional op.sizes "slice_sizes"
  return [(← DynamicSlice.infer op.operand op.starts sizes).ty]

/-- An update at computed positions. -/
def inferDynamicUpdateSlice (operand update : Ty) (starts : Option (List Ty)) :
    Check (List Ty) := do
  return [(← DynamicSlice.inferUpdate operand update starts).ty]

end Op

end TensorTyping
