import TensorTyping.Indexing.Mapping

/-!
# Scatter

A scatter writes windows of updates into operands, one window for each index vector. Its mapping is
that of a gather seen from the side of the updates.
-/

namespace TensorTyping

namespace Scatter

/-- Each dimension of an operand of known rank is spanned by the window, or inserted, or a batching
    dimension. -/
def ensureCovered (rank : Option Nat) (dims : ScatterDims) : Check Unit :=
  match rank with
  | none => .ok ()
  | some rank =>
      let total := dims.updateWindowDims.length + dims.insertedWindowDims.length +
        dims.inputBatchingDims.length
      ensure (total = rank) .invalidDimensionMapping
        ("Expects rank-of operand to match size-of('update_window_dims') + " ++
          "size-of('inserted_window_dims') + size-of('input_batching_dims') i.e. " ++
          s!"{total} but got {rank}.")

/-- The mapping is consistent with the operand and with the scatter indices. -/
def verifyMapping (operand indices : Tensor) (dims : ScatterDims) : Check Unit := do
  let rank := operand.rank?
  Mapping.ensureIndexVectorDim indices dims.indexVectorDim "scatter_indices"
  Mapping.ensureSorted dims.updateWindowDims "update_window_dims"
  Mapping.ensureUnique dims.updateWindowDims "update_window_dims"
  checkAll (fun d =>
    ensure (0 ≤ d) .invalidDimensionMapping
      s!"Expects each element of update_window_dims to be non-negative, got: {d}.")
    dims.updateWindowDims
  Mapping.ensureSorted dims.insertedWindowDims "inserted_window_dims"
  Mapping.ensureUnique dims.insertedWindowDims "inserted_window_dims"
  Mapping.ensureInRange dims.insertedWindowDims rank "inserted_window_dims" "rank-of('operand')"
  Mapping.ensureSorted dims.inputBatchingDims "input_batching_dims"
  Mapping.ensureUnique dims.inputBatchingDims "input_batching_dims"
  Mapping.ensureInRange dims.inputBatchingDims rank "input_batching_dims" "rank-of('operand')"
  Mapping.ensureDisjoint dims.insertedWindowDims dims.inputBatchingDims
    "inserted_window_dims" "input_batching_dims"
  let vector ← Mapping.indexVectorExtent indices dims.indexVectorDim
  let mapped := dims.scatterDimsToOperandDims.length
  ensure (Extent.compatible vector (some mapped)) .invalidDimensionMapping
    (s!"Scatter op has {mapped} elements in scatter_dims_to_operand_dims and the bound of " ++
      s!"dimension index_vector_dim={dims.indexVectorDim.display} of scatter_indices is " ++
      s!"{vector.text}. These two numbers must be equal.")
  Mapping.ensureUnique dims.scatterDimsToOperandDims "scatter_dims_to_operand_dims"
  Mapping.ensureInRange dims.scatterDimsToOperandDims rank "scatter_dims_to_operand_dims"
    "rank-of('operand')"
  Mapping.ensureDisjoint dims.scatterDimsToOperandDims dims.inputBatchingDims
    "scatter_dims_to_operand_dims" "input_batching_dims"
  Mapping.ensureIndicesBatching indices dims.scatterIndicesBatchingDims dims.inputBatchingDims
    dims.indexVectorDim "scatter_indices_batching_dims" "input_batching_dims"
  ensureCovered rank dims

/-- The first tensor of the list that has a rank, and otherwise the given one. -/
def firstRanked (first : Tensor) (tensors : List Tensor) : Tensor :=
  (tensors.find? Tensor.hasRank).getD first

/-- The extents of the operand that a window of updates spans. -/
def windowBounds (operand : List Extent) (dims : ScatterDims) : List Extent :=
  Shape.without operand (dims.insertedWindowDims ++ dims.inputBatchingDims)

/-- A window of updates does not exceed the operand, as far as the operand is known. -/
def verifyWindows (operand : Shape) (update : List Extent) (dims : ScatterDims) : Check Unit :=
  match operand with
  | .unranked => .ok ()
  | .ranked bounds =>
      checkAll (fun (bound, updateDim) => do
        match bound, ← itemAt update updateDim with
        | some bound, some extent =>
            ensure (extent ≤ bound) .incompatibleShape
              ("Expects bounds of the window dimensions of updates to not exceed the " ++
                "bounds of the corresponding dimensions of operand. For dimension " ++
                s!"{updateDim}, updates bound is {extent}, operand bound is {bound}.")
        | _, _ => return ())
        ((windowBounds bounds dims).zip dims.updateWindowDims)

/-- The dimensions of an update outside its window have the extents of the indices in order, without
    the index vector dimension. `next` dimensions of the indices have been used or stepped over. -/
def verifyBatch (indices : Tensor) (dims : ScatterDims) :
    List (Extent × Nat) → Nat → Check Unit
  | [], _ => .ok ()
  | (extent, i) :: rest, next =>
      if dims.updateWindowDims.contains (Int.ofNat i) then verifyBatch indices dims rest next
      else do
        let position := if dims.indexVectorDim.isInt next then next + 1 else next
        let bound ← indices.dim position
        ensure (Extent.compatible extent bound) .incompatibleShape
          ("Expects bounds of the scatter dimensions of updates to be same as the " ++
            "bounds of the corresponding dimensions of scatter indices. For scatter " ++
            s!"dimension {i}, expected bound is {bound.text}, but got {extent.text}.")
        verifyBatch indices dims rest (position + 1)

/-- A ranked update fits the operand and the ranked indices. -/
def verifyUpdate (operand indices : Tensor) (update : List Extent) (indicesRank : Nat)
    (dims : ScatterDims) : Check Unit := do
  let rank := update.length
  let batchRank ← Mapping.batchRank indicesRank dims.indexVectorDim
  let expected := dims.updateWindowDims.length + batchRank
  ensure (rank = expected) .incompatibleShape
    (s!"expects updates tensor must be of rank {expected} " ++
      "( == rank-of('scatter_indices') - 1 + size-of('update_window_dims'), where " ++
      "'scatter_indices' is expanded by a trailing 1 dimension if " ++
      s!"'index_vector_dim' == rank-of('scatter_indices')), but got {rank}.")
  Mapping.ensureInRange dims.updateWindowDims (some rank) "update_window_dims" "rank-of('updates')"
  verifyWindows operand.shape update dims
  verifyBatch indices dims update.zipIdx 0
  if operand.hasRank then
    Mapping.ensureBatchingExtents operand indices dims.inputBatchingDims
      dims.scatterIndicesBatchingDims

/-- The mapping and the update fit the operand and the indices, as far as they are known. -/
def verifyTensors (operand indices update : Tensor) (dims : ScatterDims) : Check Unit := do
  verifyMapping operand indices dims
  match indices.rank?, update.shape with
  | some rank, .ranked updateDims => verifyUpdate operand indices updateDims rank dims
  | _, _ => return ()

/-- All tensors have a shape compatible with that of the first. -/
def ensureAlike (what : String) (first : Tensor) (rest : List Tensor) : Check Unit :=
  checkAll (fun t =>
    ensure (first.shape.compatible t.shape) .incompatibleShape
      s!"Not all {what} have compatible shapes: {first.render} and {t.render}") rest

/-- The shapes of the inputs, the indices and the updates fit together. The updates and the mapping
    have to be there. -/
def verify (inputs : List Ty) (indices : Ty) (updates : Option (List Ty))
    (dims : Option ScatterDims) : Check Unit := do
  ensure (!inputs.isEmpty) .invalidOperand "expects at least one input"
  let updates ← needItems updates
  ensure (inputs.length = updates.length) .invalidOperand
    (s!"Not all inputs have a corresponding update: {inputs.length} inputs and " ++
      s!"{updates.length} updates")
  let inputs ← collect (Ty.needTensor · "scatter input") inputs
  let updates ← collect (Ty.needTensor · "scatter update") updates
  let indices ← indices.needTensor "scatter_indices"
  ensure indices.element.isInteger .incompatibleElementType
    s!"expects scatter_indices to have integer element type, got {indices.element.render}"
  match inputs, updates with
  | input :: otherInputs, update :: otherUpdates =>
      ensureAlike "inputs" input otherInputs
      ensureAlike "updates" update otherUpdates
      let dims ← needPart dims
      verifyTensors (firstRanked input inputs) indices (firstRanked update updates) dims
  | _, _ => misuse .outOfRange

end Scatter

end TensorTyping
