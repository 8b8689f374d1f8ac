import TensorTyping.Op.Precision
import TensorTyping.Record

/-!
# Dot products

Products of vectors and matrices, and the general contraction of any dimensions of two tensors.
-/

namespace TensorTyping

/-- The dimensions of a general dot product that run in parallel, and those that are summed over. -/
structure DotDims where
  lhsBatching : List Int := []
  rhsBatching : List Int := []
  lhsContracting : List Int := []
  rhsContracting : List Int := []
  deriving DecidableEq, Repr, Inhabited

/-- The dimensions of a dot product that a record describes. -/
def DotDims.ofRecord (record : Record) : Check DotDims := do
  record.ensureKnown ["lhs_batching_dimensions", "rhs_batching_dimensions",
    "lhs_contracting_dimensions", "rhs_contracting_dimensions"]
  return {
    lhsBatching := ← record.ints "lhs_batching_dimensions"
    rhsBatching := ← record.ints "rhs_batching_dimensions"
    lhsContracting := ← record.ints "lhs_contracting_dimensions"
    rhsContracting := ← record.ints "rhs_contracting_dimensions" }

namespace Op

/-- A dot product of vectors or matrices, with a result that may be declared. -/
structure Dot where
  lhs : Ty
  rhs : Ty
  precision : Payload := .null
  result : Option Ty := none
  deriving Repr, Inhabited

/-- One extent of a matrix; a vector has none to give. -/
def matrixDim (dims : List Extent) (index : Int) : Check (List Extent) :=
  if dims.length = 2 then collect (itemAt dims) [index] else .ok []

/-- The extents of a product of vectors or matrices: the rows of a left matrix, then the columns of
    a right one. -/
def dotDims (lhs rhs : List Extent) : Check (List Extent) := do
  return (← matrixDim lhs 0) ++ (← matrixDim rhs 1)

/-- The product of two tensors. An unranked operand makes it unranked. -/
def dotTensor (lhs rhs : Tensor) : Check Tensor :=
  match lhs.shape, rhs.shape with
  | .ranked left, .ranked right => do
      ensure ((left.length = 1 ∨ left.length = 2) ∧ (right.length = 1 ∨ right.length = 2))
        .incompatibleShape
        s!"expects lhs and rhs to be of rank 1 or 2, got {lhs.render} and {rhs.render}"
      let a ← itemAt left ((left.length : Int) - 1)
      let b ← itemAt right 0
      ensure (Extent.compatible a b) .incompatibleShape
        s!"dot contracting dimensions differ: {a.text} and {b.text}"
      return ⟨lhs.element, .ranked (← dotDims left right)⟩
  | _, _ => .ok (.unranked lhs.element)

/-- A dot product of vectors or matrices. -/
def Dot.infer (op : Dot) : Check (List Ty) := do
  let lhs ← op.lhs.needTensor "lhs"
  let rhs ← op.rhs.needTensor "rhs"
  verifyPrecision op.precision
  let inferred ← dotTensor lhs rhs
  return [← inferred.ty.settle op.result "dot"]

/-- A general dot product, with a result that may be declared. -/
structure DotGeneral where
  lhs : Ty
  rhs : Ty
  dimensions : Option DotDims
  precision : Payload := .null
  result : Option Ty := none
  deriving Repr, Inhabited

namespace DotGeneral

/-- The dimensions are positions of an operand of the given rank. -/
def ensureDims (dims : List Int) (rank : Option Nat) (what : String) : Check Unit :=
  checkAll (fun (d : Int) => do
    ensure (0 ≤ d) .invalidDimensionMapping s!"{what} cannot contain negative dimension {d}"
    match rank with
    | none => return ()
    | some n =>
        ensure (d < n) .invalidDimensionMapping
          s!"{what} value {d} is out of range [0, {n})") dims

/-- The batching and contracting dimensions of one operand are distinct positions. -/
def verifySide (side : String) (batching contracting : List Int) (rank : Option Nat) :
    Check Unit := do
  ensure (batching ++ contracting).Nodup .invalidDimensionMapping
    (s!"has duplicated dimension from {side}_batching_dimensions and " ++
      s!"{side}_contracting_dimensions: {intsText (batching ++ contracting)}")
  ensureDims batching rank s!"{side}_batching_dimensions"
  ensureDims contracting rank s!"{side}_contracting_dimensions"

/-- Paired dimensions of both operands have compatible extents. -/
def ensurePairs (what : String) (lhs rhs : Tensor) (pairs : List (Int × Int)) : Check Unit :=
  checkAll (fun (l, r) => do
    let a ← lhs.dim l
    let b ← rhs.dim r
    ensure (Extent.compatible a b) .incompatibleShape
      s!"{what} dimension sizes must match for lhs/rhs: {a.text} vs {b.text}") pairs

/-- What the extents of paired dimensions say together. -/
def pairedDims (lhs rhs : List Extent) (pairs : List (Int × Int)) : Check (List Extent) :=
  collect (fun (l, r) => do return Extent.refine (← itemAt lhs l) (← itemAt rhs r)) pairs

/-- The extents of the product: the batching ones, then those left over on either side. -/
def resultDims (lhs rhs : List Extent) (dims : DotDims) : Check (List Extent) := do
  let batch ← pairedDims lhs rhs (dims.lhsBatching.zip dims.rhsBatching)
  return batch ++ Shape.without lhs (dims.lhsBatching ++ dims.lhsContracting) ++
    Shape.without rhs (dims.rhsBatching ++ dims.rhsContracting)

/-- The product of two tensors. An unranked operand makes it unranked. -/
def contract (lhs rhs : Tensor) (dims : DotDims) : Check Tensor :=
  match lhs.shape, rhs.shape with
  | .ranked left, .ranked right => do
      ensurePairs "batching" lhs rhs (dims.lhsBatching.zip dims.rhsBatching)
      ensurePairs "contracting" lhs rhs (dims.lhsContracting.zip dims.rhsContracting)
      return ⟨lhs.element, .ranked (← resultDims left right dims)⟩
  | _, _ => .ok (.unranked lhs.element)

/-- A general dot product. -/
def infer (op : DotGeneral) : Check (List Ty) := do
  let lhs ← op.lhs.needTensor "lhs"
  let rhs ← op.rhs.needTensor "rhs"
  verifyPrecision op.precision
  let dims ← needPart op.dimensions
  ensure (dims.lhsBatching.length = dims.rhsBatching.length) .invalidDimensionMapping
    "lhs and rhs should have the same number of batching dimensions"
  ensure (dims.lhsContracting.length = dims.rhsContracting.length) .invalidDimensionMapping
    "lhs and rhs should have the same number of contracting dimensions"
  verifySide "lhs" dims.lhsBatching dims.lhsContracting lhs.rank?
  verifySide "rhs" dims.rhsBatching dims.rhsContracting rhs.rank?
  let inferred ← contract lhs rhs dims
  return [← inferred.ty.settle op.result "dot_general"]

end DotGeneral

end Op

end TensorTyping
