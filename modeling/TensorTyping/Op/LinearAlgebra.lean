import TensorTyping.Op.Elementwise

/-!
# Linear algebra

Decompositions and solvers on batches of matrices, which are the last two dimensions of a tensor.
-/

namespace TensorTyping

namespace Op

/-- The matrices of a batch are square. -/
def verifySquare (a : Tensor) (what : String) : Check Unit := do
  match a.rank? with
  | none => return ()
  | some rank =>
      ensure (2 ≤ rank) .incompatibleShape s!"{what} must have rank >= 2, got {a.render}"
      let rows ← a.dim ((rank : Int) - 2)
      let columns ← a.dim ((rank : Int) - 1)
      ensure (Extent.compatible rows columns) .incompatibleShape
        s!"minor dimensions of {what} must have equal size, got shape {a.render}"

/-- A decomposition of square matrices keeps their type. -/
def inferCholesky (a : Ty) : Check (List Ty) := do
  let a ← a.needTensor "a"
  ensure (a.element.isFloat || a.element.isComplex) .incompatibleElementType
    s!"cholesky expects a floating-point or complex operand, got {a.element.render}"
  verifySquare a "a"
  return [a.ty]

/-- The ways the matrix of a triangular system may be transposed. -/
def transposeValues : List String := ["NO_TRANSPOSE", "TRANSPOSE", "ADJOINT"]

/-- Triangular systems with the matrices on one side. -/
structure TriangularSolve where
  a : Ty
  b : Ty
  leftSide : Bool := true
  transposeA : Payload := .text "NO_TRANSPOSE"
  deriving Repr, Inhabited

/-- Batches of matrices and right sides agree. -/
def TriangularSolve.verifyDims (leftSide : Bool) (a b : Tensor) (rank : Nat) : Check Unit := do
  checkAll (fun (i : Nat) => do
    ensure (Extent.compatible (← a.dim i) (← b.dim i)) .incompatibleShape
      ("batch dimensions of the operands must be same, but got " ++
        s!"{a.render} and {b.render}")) (List.range (rank - 2))
  let shared ← b.dim (if leftSide then (rank : Int) - 2 else (rank : Int) - 1)
  ensure (Extent.compatible (← a.dim ((rank : Int) - 1)) shared) .incompatibleShape
    ("shared dimension of operands 'a' and 'b' does not match, but got " ++
      s!"{a.render} and {b.render}")

/-- The matrices and the right sides have one rank and agree, as far as both ranks are known. -/
def TriangularSolve.verifySides (leftSide : Bool) (a b : Tensor) : Check Unit := do
  match a.rank?, b.rank? with
  | some rank, some other =>
      ensure (other = rank) .incompatibleShape
        s!"operands must have equal rank, but got {a.render} and {b.render}"
      verifyDims leftSide a b rank
  | _, _ => return ()

/-- A solution has the type of the right side. -/
def TriangularSolve.infer (op : TriangularSolve) : Check (List Ty) := do
  let a ← op.a.needTensor "a"
  let b ← op.b.needTensor "b"
  let values := ", ".intercalate transposeValues
  ensure (op.transposeA.isOneOf transposeValues) .invalidAttributeValue
    s!"unknown transpose_a {op.transposeA.quoted}, expected one of {values}"
  ensure (a.element.same b.element) .incompatibleElementType
    (s!"a and b must have the same element type, got {a.element.render} and " ++
      s!"{b.element.render}")
  verifySquare a "a"
  verifySides op.leftSide a b
  return [b.ty]

end Op

end TensorTyping
