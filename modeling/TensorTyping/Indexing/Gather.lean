import TensorTyping.Indexing.Mapping

/-!
# Gather

A gather cuts slices out of an operand, one for each index vector. The offset dimensions of the
result take the slice sizes that are neither collapsed nor batching, in order; all other dimensions
take the extents of the start indices, in order and without the index vector dimension.
-/

namespace TensorTyping

namespace Gather

/-! ### The extents of the result -/

/-- The slice sizes that reach the result, for `count` positions from the given one on. -/
def keptSizes {α : Type} (sizes : List α) (dropped : List Int) : (count position : Nat) →
    Check (List α)
  | 0, _ => .ok []
  | count + 1, position => do
      if dropped.contains (Int.ofNat position) then
        keptSizes sizes dropped count (position + 1)
      else
        let size ← itemAt sizes position
        return size :: (← keptSizes sizes dropped count (position + 1))

/-- Fills `count` result positions from the given one on: offset positions from the sizes that are
    left, the others from the start indices, of which `next` have been used or stepped over. -/
def fill {α : Type} (starts : List α) (dims : GatherDims) :
    (count position : Nat) → List α → (next : Nat) → Check (List α)
  | 0, _, _, _ => .ok []
  | count + 1, position, sizes, next =>
      if dims.offsetDims.contains (Int.ofNat position) then
        match sizes with
        | [] => misuse .outOfRange
        | size :: sizes => do
            return size :: (← fill starts dims count (position + 1) sizes next)
      else do
        let source := if dims.indexVectorDim.isInt next then next + 1 else next
        let item ← itemAt starts source
        return item :: (← fill starts dims count (position + 1) sizes (source + 1))

/-- The extents of a gather result of the given rank. They are only put in order, so they may be
    values of any type. -/
def resultDims {α : Type} (resultRank sliceRank : Nat) (starts sizes : List α)
    (dims : GatherDims) : Check (List α) := do
  let kept ← keptSizes sizes (dims.collapsedSliceDims ++ dims.operandBatchingDims) sliceRank 0
  fill starts dims resultRank 0 kept 0

/-! ### Validation -/

/-- The mapping is consistent with an operand of the given rank and with the start indices. -/
def verifyMapping (operandRank : Option Nat) (starts : Tensor) (dims : GatherDims) :
    Check Unit := do
  Mapping.ensureIndexVectorDim starts dims.indexVectorDim "start_indices"
  let vector ← Mapping.indexVectorExtent starts dims.indexVectorDim
  ensure (Extent.compatible vector (some dims.startIndexMap.length)) .invalidDimensionMapping
    (s!"start_index_map size ({dims.startIndexMap.length}) is not equal to size of " ++
      s!"index dimension ({dims.indexVectorDim.display}) of start_indices ({vector.text})")
  Mapping.ensureSorted dims.offsetDims "offset_dims"
  Mapping.ensureUnique dims.offsetDims "offset_dims"
  checkAll (fun d =>
    ensure (0 ≤ d) .invalidDimensionMapping
      s!"expects offset_dims to not be negative, got: {d}") dims.offsetDims
  Mapping.ensureSorted dims.collapsedSliceDims "collapsed_slice_dims"
  Mapping.ensureUnique dims.collapsedSliceDims "collapsed_slice_dims"
  Mapping.ensureInRange dims.collapsedSliceDims operandRank "collapsed_slice_dims" "operand_rank"
  Mapping.ensureSorted dims.operandBatchingDims "operand_batching_dims"
  Mapping.ensureUnique dims.operandBatchingDims "operand_batching_dims"
  Mapping.ensureInRange dims.operandBatchingDims operandRank "operand_batching_dims" "operand_rank"
  Mapping.ensureDisjoint dims.collapsedSliceDims dims.operandBatchingDims
    "collapsed_slice_dims" "operand_batching_dims"
  Mapping.ensureUnique dims.startIndexMap "start_index_map"
  Mapping.ensureInRange dims.startIndexMap operandRank "start_index_map" "operand_rank"
  Mapping.ensureDisjoint dims.startIndexMap dims.operandBatchingDims
    "start_index_map" "operand_batching_dims"
  Mapping.ensureIndicesBatching starts dims.startIndicesBatchingDims dims.operandBatchingDims
    dims.indexVectorDim "start_indices_batching_dims" "operand_batching_dims"

/-- A slice size is unknown, or lies between zero and the extent of the operand. -/
def verifySize (operand : Tensor) (i : Nat) (size : Extent) : Check Unit := do
  match size with
  | none => return ()
  | some n =>
      ensure (0 ≤ n) .invalidAttributeValue
        s!"slice size ({n}) is out of bounds for operand dimension ({i})"
      match ← operand.dim i with
      | none => return ()
      | some bound =>
          ensure (n ≤ bound) .invalidAttributeValue
            (s!"slice size ({n}) is out of bounds for operand dimension ({bound}) " ++
              s!"at index {i}")

/-- The slice sizes at the given dimensions are unknown or at most one. -/
def verifyUnitSizes (sizes : List Extent) (name : String) (dims : List Int) : Check Unit :=
  checkAll (fun (d : Int) => do
    match ← itemAt sizes d with
    | none => return ()
    | some size =>
        ensure (size ≤ 1) .invalidDimensionMapping
          s!"slice_sizes {name} dimension {d} should <= 1 but got {size}") dims

/-- The slice sizes fit the operand and the mapping. -/
def verifySizes (operand starts : Tensor) (dims : GatherDims) (sizes : List Extent) :
    Check Unit := do
  let rank := sizes.length
  ensure (!operand.hasOtherRank rank) .invalidDimensionMapping
    (s!"slice_sizes size ({rank}) not equal to (implied) operand rank " ++
      s!"({operand.rankText})")
  let offset := dims.offsetDims.length
  let collapsed := dims.collapsedSliceDims.length
  let batching := dims.operandBatchingDims.length
  ensure (offset + collapsed + batching = rank) .invalidDimensionMapping
    (s!"offset_dims size ({offset}) plus collapse_slice_dims size " ++
      s!"({collapsed}) plus operand_batching_dims size " ++
      s!"({batching}) is not equal to operand rank ({rank})")
  checkEach (verifySize operand) sizes
  verifyUnitSizes sizes "collapsed" dims.collapsedSliceDims
  verifyUnitSizes sizes "batching" dims.operandBatchingDims
  Mapping.ensureBatchingExtents operand starts dims.operandBatchingDims
    dims.startIndicesBatchingDims

/-- The configuration of a gather is valid. Without slice sizes only the mapping is checked; with
    them, an unranked operand is taken to have as many dimensions as there are sizes. -/
def verify (operand starts : Tensor) (dims : GatherDims) (sizes : Option (List Extent)) :
    Check Unit := do
  match sizes with
  | none => verifyMapping operand.rank? starts dims
  | some sizes =>
      verifyMapping (some (operand.rank?.getD sizes.length)) starts dims
      verifySizes operand starts dims sizes

/-! ### Results -/

/-- The result of a valid gather with ranked start indices. -/
def compose (operand : Tensor) (starts : List Extent) (dims : GatherDims)
    (sizes : Option (List Extent)) : Check Tensor := do
  let batchRank ← Mapping.batchRank starts.length dims.indexVectorDim
  let resultRank := dims.offsetDims.length + batchRank
  checkAll (fun (d : Int) =>
    ensure (d < resultRank) .invalidDimensionMapping
      ("Expects each element of offset_dims to be in range [0, implied-result-rank) " ++
        s!"i.e. [0, {resultRank}). got: {d}.")) dims.offsetDims
  match sizes with
  | none => misuse .wrongSort
  | some sizes =>
      let shape ← resultDims resultRank sizes.length starts sizes dims
      Tensor.form operand.element (.ranked shape)

/-- The result of a valid gather. Unranked start indices give an unranked result. -/
def resultTensor (operand starts : Tensor) (dims : GatherDims) (sizes : Option (List Extent)) :
    Check Tensor :=
  match starts.shape with
  | .unranked => .ok (.unranked operand.element)
  | .ranked startDims => compose operand startDims dims sizes

/-- The result of a gather, whose mapping has to be there. -/
def infer (operand starts : Ty) (dims : Option GatherDims) (sizes : Option (List Extent)) :
    Check Tensor := do
  let operand ← operand.needTensor "operand"
  let starts ← starts.needTensor "start_indices"
  ensure starts.element.isInteger .incompatibleElementType
    s!"expects start_indices to have integer element type, got {starts.element.render}"
  let dims ← needPart dims
  verify operand starts dims sizes
  resultTensor operand starts dims sizes

/-- The number of sizes in a tensor of slice sizes, as far as it or the operand tells. -/
def sizeCount (operand sizes : Tensor) : Check (Option Int) := do
  return (← sizes.dim 0) <|> operand.rank?.map Int.ofNat

/-- The slice sizes of a gather whose sizes are an operand: the given values, or unknown sizes when
    only their number is known. -/
def dynamicSizes (count : Option Int) (values : Option (List Extent)) :
    Check (Option (List Extent)) := do
  match values with
  | some sizes =>
      ensure (Extent.compatible count (some sizes.length)) .invalidDimensionMapping
        s!"slice_sizes holds {sizes.length} values but has extent {Extent.text count}"
      return some sizes
  | none =>
      match count with
      | none => return none
      | some n => return some (← Dimensions.unknownDims n)

/-- The result of a gather whose slice sizes are a one-dimensional integer operand. -/
def inferDynamic (operand starts sizes : Ty) (dims : Option GatherDims)
    (values : Option (List Extent)) : Check Tensor := do
  let operandTensor ← operand.needTensor "operand"
  let sizesTensor ← sizes.needTensor "slice_sizes"
  ensure (!sizesTensor.hasOtherRank 1) .incompatibleShape
    s!"slice_sizes should be rank 1, got rank {sizesTensor.rankText}"
  ensure sizesTensor.element.isInteger .incompatibleElementType
    s!"slice_sizes must have integer element type, got {sizesTensor.element.render}"
  let count ← sizeCount operandTensor sizesTensor
  ensure (Extent.compatible count (operandTensor.rank?.map Int.ofNat)) .invalidDimensionMapping
    (s!"slice_sizes size ({Extent.text count}) not equal to (implied) operand rank " ++
      s!"({operandTensor.rankText})")
  match ← dynamicSizes count values with
  | none =>
      let starts ← starts.needTensor "start_indices"
      verify operandTensor starts (← needPart dims) none
      return .unranked operandTensor.element
  | some sizes => infer operand starts dims (some sizes)

end Gather

end TensorTyping
