import TensorTyping.Op.Broadcasting
import TensorTyping.Payload.Order

/-!
# Rearranging tensors

Concatenation, transposition, reversal, and reshaping to a declared or computed shape.
-/

namespace TensorTyping

namespace Op

/-! ### Concatenation -/

/-- The sum of the extents when all are known. -/
def sumExtents (dims : List Extent) : Extent :=
  dims.foldl (fun total dim => total.bind fun n => dim.map (n + ·)) (some 0)

/-- The extent that all known extents agree on; `none` when two known extents differ. -/
def agreeExtents? (dims : List Extent) : Option Extent :=
  match dims.filterMap id with
  | [] => some none
  | first :: rest => if rest.all (· == first) then some (some first) else none

/-- The extent of a concatenation at dimension `d`. An unranked input makes the sum unknown. -/
def concatenatedExtent (shapes : List (List Extent)) (hasUnranked : Bool) (dimension : Payload)
    (d : Nat) : Check Extent := do
  let dims ← collect (itemAt · d) shapes
  if dimension.isInt d then
    return if hasUnranked then none else sumExtents dims
  else
    match agreeExtents? dims with
    | some dim => return dim
    | none =>
        let texts := shapes.map fun shape => Text.quoted (dimsText shape)
        let list := "[" ++ ", ".intercalate texts ++ "]"
        reject .incompatibleShape
          s!"shapes of operands differ at non-concatenated dimension {d}: {list}"

/-- The concatenation of tensors of one element type, the first of which is given apart. -/
def concatenateTensors (first : Tensor) (tensors : List Tensor) (dimension : Payload) :
    Check Tensor := do
  checkEach (fun i t =>
    ensure (t.element.same first.element) .incompatibleElementType
      (s!"inputs have different element types: input 0 has {first.element.render}, " ++
        s!"input {i} has {t.element.render}")) tensors
  let ranked := tensors.filter Tensor.hasRank
  match ranked.head?.bind Tensor.rank? with
  | none => return .unranked first.element
  | some rank =>
      checkAll (fun t =>
        ensure (t.rank? = some rank) .incompatibleShape
          s!"operands ({first.render}) and ({t.render}) do not match rank") ranked
      let inRange ← dimension.isPosition (some rank)
      ensure inRange .invalidDimensionMapping
        (if rank = 0 then "rank-0 values cannot be concatenated"
          else s!"dimension {dimension.display} is out-of-bounds for input rank {rank}")
      let shapes := ranked.filterMap fun t => t.shape.dims?
      let hasUnranked := shapes.length != tensors.length
      let dims ← collect (concatenatedExtent shapes hasUnranked dimension) (List.range rank)
      return ⟨first.element, .ranked dims⟩

/-- Tensors joined along one dimension. -/
def inferConcatenate (inputs : List Ty) (dimension : Payload) : Check (List Ty) := do
  match ← collect (Ty.needTensor · "concatenate input") inputs with
  | [] => reject .invalidOperand "expects at least one input"
  | first :: rest =>
      let negative ← dimension.isBelow 0
      ensure (!negative) .invalidDimensionMapping s!"dimension {dimension.display} is negative"
      return [(← concatenateTensors first (first :: rest) dimension).ty]

/-! ### Transposition and reversal -/

/-- A tensor with its dimensions permuted. -/
def inferTranspose (operand : Ty) (permutation : Payload) : Check (List Ty) := do
  let operand ← operand.needTensor "operand"
  let permutation ← permutation.decodeInts "permutation"
  let count := permutation.length
  ensure (Dimensions.isPermutation permutation) .invalidDimensionMapping
    s!"permutation {intsText permutation} is not a permutation of [0, {count})"
  match operand.shape with
  | .unranked => return [.tensor operand.element (.unknown count)]
  | .ranked dims =>
      ensure (count = dims.length) .attributeArityMismatch
        (s!"TransposeOp operand rank {dims.length} does not match permutation size " ++
          s!"{count}")
      let permuted ← collect (itemAt dims) permutation
      return [.tensor operand.element (.ranked permuted)]

/-- A tensor reversed along some dimensions. -/
def inferReverse (operand : Ty) (dimensions : Payload) : Check (List Ty) := do
  let operand ← operand.needTensor "operand"
  let dims ← dimensions.decodeInts "dimensions"
  Dimensions.ensurePositions dims operand.rank? "dimensions"
  return [operand.ty]

/-! ### Reshaping -/

/-- Two static shapes have one number of elements. -/
def ensureSameSize (operand result : Shape) : Check Unit :=
  match operand.size?, result.size? with
  | some n, some m =>
      ensure (n = m) .incompatibleShape
        (s!"number of output elements ({m}) doesn't match expected " ++
          s!"number of elements ({n})")
  | _, _ => .ok ()

/-- A tensor in a declared shape. -/
def inferReshape (operand result : Ty) : Check (List Ty) := do
  let operand ← operand.needTensor "operand"
  let result ← result.needTensor "result"
  ensure (operand.element.same result.element) .incompatibleElementType
    (s!"reshape result element type {result.element.render} differs from operand " ++
      s!"element type {operand.element.render}")
  ensureSameSize operand.shape result.shape
  return [result.ty]

/-- A tensor in a shape that is an operand, with or without a declared result. -/
structure DynamicReshape where
  operand : Ty
  outputShape : Ty
  result : Option Ty := none
  deriving Repr, Inhabited

/-- A tensor in a shape that is an operand: the declared result, or one of the right rank. -/
def DynamicReshape.infer (op : DynamicReshape) : Check (List Ty) := do
  let operand ← op.operand.needTensor "operand"
  let rank ← shapeOperand (← op.outputShape.needTensor "output_shape") "output_shape"
  let inferred ← Dimensions.unknownShape rank
  match op.result with
  | none => return [.tensor operand.element inferred]
  | some result =>
      let result ← result.needTensor "result"
      ensure (result.element.same operand.element) .incompatibleElementType
        (s!"dynamic_reshape result element type {result.element.render} differs from " ++
          s!"operand element type {operand.element.render}")
      ensure (Extent.compatible rank (result.rank?.map Int.ofNat)) .incompatibleShape
        s!"result should have a rank of {rank.text}, got {result.rankText}"
      ensureSameSize operand.shape result.shape
      return [result.ty]

end Op

end TensorTyping
