import TensorTyping.Op.Broadcasting

/-!
# Padding and slicing

A pad puts elements around and between those of a tensor; a slice picks elements at regular
distances.
-/

namespace TensorTyping

namespace Op

/-! ### Padding -/

/-- Padding around a tensor and between its elements. -/
structure Pad where
  operand : Ty
  paddingValue : Ty
  edgeLow : Payload := .null
  edgeHigh : Payload := .null
  interior : Payload := .null
  deriving Repr, Inhabited

/-- The padding along one dimension. Edge padding may be negative. -/
structure PadDim where
  low : Int
  high : Int
  interior : Int
  deriving DecidableEq, Repr, Inhabited

/-- The number of elements after padding `n` of them. -/
def PadDim.size (pad : PadDim) (n : Int) : Int :=
  n + pad.low + pad.high + (if 0 < n then (n - 1) * pad.interior else 0)

/-- The extent of the `i`-th dimension after padding. -/
def PadDim.extent (i : Nat) (pad : PadDim) (dim : Extent) : Check Extent := do
  ensure (0 ≤ pad.interior) .invalidAttributeValue
    s!"Interior padding cannot be negative: {pad.interior}"
  match dim with
  | none => return none
  | some n =>
      ensure (0 ≤ pad.size n) .invalidAttributeValue
        s!"Padding result in negative size for dimension {i}"
      return some (pad.size n)

/-- The padding of every dimension of a tensor of the given rank. -/
def Pad.decode (op : Pad) (rank : Nat) : Check (List PadDim) := do
  let low ← op.edgeLow.decodeIntsOr "edge_padding_low" rank 0
  let high ← op.edgeHigh.decodeIntsOr "edge_padding_high" rank 0
  let interior ← op.interior.decodeIntsOr "interior_padding" rank 0
  collect (fun (i : Nat) => do return ⟨← itemAt low i, ← itemAt high i, ← itemAt interior i⟩)
    (List.range rank)

/-- The rank of the result. Of an unranked operand it is the length of the low padding, and unknown
    when that is empty. -/
def Pad.rank (op : Pad) (operand : Tensor) : Check (Option Nat) := do
  match operand.rank? with
  | some rank => return some rank
  | none =>
      let low ← op.edgeLow.decodeInts "edge_padding_low"
      return if low.isEmpty then none else some low.length

/-- A padded tensor. -/
def Pad.infer (op : Pad) : Check (List Ty) := do
  let operand ← op.operand.needTensor "operand"
  let value ← op.paddingValue.needTensor "padding_value"
  ensure (!value.hasOtherRank 0) .incompatibleShape
    s!"padding value type should be a rank-0 tensor, is rank {value.rankText}"
  ensure (value.element.same operand.element) .incompatibleElementType
    (s!"padding value element type {value.element.render} differs from operand " ++
      s!"element type {operand.element.render}")
  match ← op.rank operand with
  | none => return [operand.ty]
  | some rank =>
      let pads ← op.decode rank
      let dims ← collect (fun item => do PadDim.extent item.2 item.1 (← operand.dim item.2))
        pads.zipIdx
      return [(← Tensor.form operand.element (.ranked dims)).ty]

/-! ### Slicing -/

/-- A slice between fixed positions. -/
structure Slice where
  operand : Ty
  starts : Payload
  limits : Payload
  strides : Payload := .null
  deriving Repr, Inhabited

/-- A slice along one dimension. -/
structure SliceDim where
  start : Int
  limit : Int
  stride : Int
  deriving DecidableEq, Repr, Inhabited

/-- The extent of the `i`-th dimension of a slice that stays within the given bound: the distance
    from the start to the limit divided by the stride, rounded up. -/
def SliceDim.extent (i : Nat) (slice : SliceDim) (bound : Extent) : Check Extent := do
  ensure (0 ≤ slice.start) .invalidAttributeValue
    s!"negative start index {slice.start} in dimension {i}"
  ensure (0 < slice.stride) .invalidAttributeValue
    s!"stride must be positive but got {slice.stride} in dimension {i}"
  match bound with
  | none => pure ()
  | some n =>
      ensure (slice.limit ≤ n) .invalidAttributeValue
        (s!"limit index {slice.limit} is larger than dimension size {n} in " ++
          s!"dimension {i}")
  ensure (slice.start ≤ slice.limit) .invalidAttributeValue
    (s!"start index {slice.start} is larger than limit index {slice.limit} in " ++
      s!"dimension {i}")
  return some (-(← floorDiv (-(slice.limit - slice.start)) slice.stride))

/-- The slice of every dimension. The rank of an unranked operand is the number of start indices. -/
def Slice.decode (op : Slice) (operandRank : Option Nat) : Check (List SliceDim) := do
  let starts ← op.starts.decodeInts "start_indices" (.ofExtent (operandRank.map Int.ofNat))
  let rank := operandRank.getD starts.length
  let limits ← op.limits.decodeInts "limit_indices" (.int rank)
  let strides ← op.strides.decodeIntsOr "strides" rank 1
  Payload.ensureCount "start_indices" (.int rank) starts.length
  Payload.ensureCount "limit_indices" (.int rank) limits.length
  collect (fun (i : Nat) => do return ⟨← itemAt starts i, ← itemAt limits i, ← itemAt strides i⟩)
    (List.range rank)

/-- A slice between fixed positions has known extents. -/
def Slice.infer (op : Slice) : Check (List Ty) := do
  let operand ← op.operand.needTensor "operand"
  let slices ← op.decode operand.rank?
  let dims ← collect (fun item => do SliceDim.extent item.2 item.1 (← operand.dim item.2))
    slices.zipIdx
  return [(← Tensor.form operand.element (.ranked dims)).ty]

/-- A slice between positions that are operands. -/
structure RealDynamicSlice where
  operand : Ty
  starts : Ty
  limits : Ty
  strides : Ty
  deriving Repr, Inhabited

/-- An operand that holds one position per dimension. -/
def RealDynamicSlice.verifyPositions (operand : Tensor) (name : String) (value : Ty) :
    Check Tensor := do
  let value ← value.needTensor name
  let count ← shapeOperand value name
  ensure (Extent.compatible count (operand.rank?.map Int.ofNat)) .incompatibleShape
    (s!"has mismatched number of {name} ({count.text}) and the rank of operand " ++
      s!"({operand.rankText})")
  return value

/-- A slice between positions that are operands keeps the rank and has unknown extents. -/
def RealDynamicSlice.infer (op : RealDynamicSlice) : Check (List Ty) := do
  let operand ← op.operand.needTensor "operand"
  let starts ← verifyPositions operand "start_indices" op.starts
  let limits ← verifyPositions operand "limit_indices" op.limits
  let strides ← verifyPositions operand "strides" op.strides
  let _ ← Ty.unifyTensorList [starts, limits, strides] "start_indices, limit_indices and strides"
  match operand.rank? with
  | none => return [operand.ty]
  | some rank => return [.tensor operand.element (.unknown rank)]

end Op

end TensorTyping
