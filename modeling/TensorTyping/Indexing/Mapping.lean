import TensorTyping.Dimensions
import TensorTyping.Payload.Order
import TensorTyping.Record
import TensorTyping.Ty.Form

/-!
# Dimension mappings of gather and scatter

A mapping says which dimensions of the operand, of the indices and of the result play which role.
The checks that gather and scatter share are stated here once, on lists of dimension numbers.
-/

namespace TensorTyping

/-- The mapping of a gather. Offset dimensions are positions of the result; collapsed dimensions,
    the start index map and the operand batching dimensions are positions of the operand; the index
    vector dimension, kept as it is given, and the last list are positions of the start indices. -/
structure GatherDims where
  offsetDims : List Int := []
  collapsedSliceDims : List Int := []
  startIndexMap : List Int := []
  indexVectorDim : Payload := .int 0
  operandBatchingDims : List Int := []
  startIndicesBatchingDims : List Int := []
  deriving Repr, Inhabited

/-- The mapping of a scatter: a gather mapping seen from the side of the updates. -/
structure ScatterDims where
  updateWindowDims : List Int := []
  insertedWindowDims : List Int := []
  scatterDimsToOperandDims : List Int := []
  indexVectorDim : Payload := .int 0
  inputBatchingDims : List Int := []
  scatterIndicesBatchingDims : List Int := []
  deriving Repr, Inhabited

/-- The mapping of a gather that a record describes. -/
def GatherDims.ofRecord (record : Record) : Check GatherDims := do
  record.ensureKnown ["offset_dims", "collapsed_slice_dims", "start_index_map",
    "index_vector_dim", "operand_batching_dims", "start_indices_batching_dims"]
  let offsetDims ← record.ints "offset_dims"
  let collapsedSliceDims ← record.ints "collapsed_slice_dims"
  let startIndexMap ← record.ints "start_index_map"
  let operandBatchingDims ← record.ints "operand_batching_dims"
  let startIndicesBatchingDims ← record.ints "start_indices_batching_dims"
  let indexVectorDim := record.payload "index_vector_dim" (.int 0)
  return {
    offsetDims, collapsedSliceDims, startIndexMap, indexVectorDim, operandBatchingDims,
    startIndicesBatchingDims }

/-- The mapping of a scatter that a record describes. -/
def ScatterDims.ofRecord (record : Record) : Check ScatterDims := do
  record.ensureKnown ["update_window_dims", "inserted_window_dims",
    "scatter_dims_to_operand_dims", "index_vector_dim", "input_batching_dims",
    "scatter_indices_batching_dims"]
  let updateWindowDims ← record.ints "update_window_dims"
  let insertedWindowDims ← record.ints "inserted_window_dims"
  let scatterDimsToOperandDims ← record.ints "scatter_dims_to_operand_dims"
  let inputBatchingDims ← record.ints "input_batching_dims"
  let scatterIndicesBatchingDims ← record.ints "scatter_indices_batching_dims"
  let indexVectorDim := record.payload "index_vector_dim" (.int 0)
  return {
    updateWindowDims, insertedWindowDims, scatterDimsToOperandDims, indexVectorDim,
    inputBatchingDims, scatterIndicesBatchingDims }

namespace Mapping

open Dimensions

/-- The numbers are sorted. -/
def ensureSorted (dims : List Int) (name : String) : Check Unit :=
  ensure (isSorted dims) .invalidDimensionMapping
    s!"expects {name} to be sorted, got: {intsText dims}"

/-- No number occurs twice. -/
def ensureUnique (dims : List Int) (name : String) : Check Unit :=
  ensure dims.Nodup .invalidDimensionMapping
    s!"expects {name} to not repeat, got: {intsText dims}"

/-- The bound of a range as it is named in a sentence. -/
def boundText : Option Nat → String
  | some n => toString n
  | none => "?"

/-- Every number is a position below the bound. -/
def ensureInRange (dims : List Int) (bound : Option Nat) (name range : String) : Check Unit :=
  checkAll (fun d =>
    ensure (isPosition bound d) .invalidDimensionMapping
      (s!"Expects each element of {name} to be in range [0, {range}) i.e. " ++
        s!"[0, {boundText bound}). got: {d}.")) dims

/-- The lists have no number in common. -/
def ensureDisjoint (a b : List Int) (nameA nameB : String) : Check Unit :=
  match leastCommon? a b with
  | none => .ok ()
  | some d =>
      reject .invalidDimensionMapping
        s!"has duplicated dimension from {nameA} and {nameB}: {d}"

/-- The number of batch dimensions of indices with the given rank. -/
def batchRank (rank : Nat) (indexVectorDim : Payload) : Check Nat := do
  return if ← indexVectorDim.isBelow rank then rank - 1 else rank

/-- The length of an index vector. A vector dimension just after the last dimension holds single
    indices; any other has to be an integer. -/
def indexVectorExtent (indices : Tensor) (indexVectorDim : Payload) : Check Extent :=
  match indices.rank? with
  | none => .ok none
  | some rank =>
      if indexVectorDim.isInt rank then .ok (some 1) else indices.dimAt indexVectorDim

/-- The index vector dimension lies beyond the position just after the last, when that is known. -/
def isBeyond (indexVectorDim : Payload) : Option Nat → Check Bool
  | none => .ok false
  | some rank => indexVectorDim.isAbove rank

/-- The index vector dimension is a position of the indices or the one just after the last. -/
def ensureIndexVectorDim (indices : Tensor) (indexVectorDim : Payload) (what : String) :
    Check Unit := do
  let negative ← indexVectorDim.isBelow 0
  let beyond ← isBeyond indexVectorDim indices.rank?
  ensure (!negative && !beyond) .invalidDimensionMapping
    (s!"index_vector_dim {indexVectorDim.display} is out of bounds for {what} with rank " ++
      s!"{indices.rankText}")

/-- The batching dimensions of the indices are positions of the indices, if their rank is known. -/
def ensureIndicesPositions (dims : List Int) (rank : Option Nat) (name : String) : Check Unit :=
  match rank with
  | none => .ok ()
  | some rank => ensureInRange dims (some rank) name "rank-of('indices')"

/-- The batching dimensions of the indices are distinct positions other than the index vector
    dimension, one for each batching dimension of the operand. -/
def ensureIndicesBatching (indices : Tensor) (dims operandDims : List Int)
    (indexVectorDim : Payload) (name operandName : String) : Check Unit := do
  ensureUnique dims name
  ensureIndicesPositions dims indices.rank? name
  ensure (!dims.any indexVectorDim.isInt) .invalidDimensionMapping
    s!"expects {name} not to include index_vector_dim {indexVectorDim.display}."
  ensure (dims.length = operandDims.length) .invalidDimensionMapping
    s!"{operandName} and {name} must have the same size."

/-- Corresponding batching dimensions of operand and indices have compatible extents. -/
def ensureBatchingExtents (operand indices : Tensor) (operandDims indicesDims : List Int) :
    Check Unit :=
  checkAll (fun (operandDim, indicesDim) => do
    let a ← operand.dim operandDim
    let b ← indices.dim indicesDim
    ensure (Extent.compatible a b) .incompatibleShape
      (s!"operand batching dimension {operandDim} and indices batching dimension " ++
        s!"{indicesDim} must have the same size, got {a.text} and {b.text}"))
    (operandDims.zip indicesDims)

end Mapping

end TensorTyping
