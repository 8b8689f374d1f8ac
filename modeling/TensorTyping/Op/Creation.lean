import TensorTyping.Payload.Order
import TensorTyping.Ty.Basic

/-!
# Tensors from attributes

Constants, ramps and the sizes of dimensions: results that depend on attributes more than on
operands.
-/

namespace TensorTyping

namespace Op

/-- A ramp along one dimension of the declared result. -/
def inferIota (dimension : Payload) (result : Ty) : Check (List Ty) := do
  let result ← result.needTensor "result"
  match result.rank? with
  | none => return [result.ty]
  | some rank =>
      ensure (rank ≠ 0) .incompatibleShape "does not support scalars."
      let inRange ← dimension.isWithin 0 rank
      ensure inRange .invalidDimensionMapping
        s!"iota dimension cannot go beyond the output rank or be negative: {dimension.display}"
      return [result.ty]

/-- The size of one dimension, as a scalar. -/
def inferGetDimensionSize (operand : Ty) (dimension : Payload) : Check (List Ty) := do
  let operand ← operand.needTensor "operand"
  let inRange ← dimension.isPosition operand.rank?
  ensure inRange .invalidDimensionMapping
    (s!"requires dimension attribute in range [0, {operand.rankText}); found " ++
      s!"({dimension.display})")
  return [(Tensor.scalar .i32).ty]

/-- The element type of an array entry. -/
def elementOfFormat? : EntryFormat → Option Ty
  | .bool => some .bool
  | .signed 8 => some (.int .w8 true)
  | .signed 16 => some (.int .w16 true)
  | .signed 32 => some (.int .w32 true)
  | .signed 64 => some (.int .w64 true)
  | .unsigned 8 => some (.int .w8 false)
  | .unsigned 16 => some (.int .w16 false)
  | .unsigned 32 => some (.int .w32 false)
  | .unsigned 64 => some (.int .w64 false)
  | .float 16 => some (.float .f16)
  | .float 32 => some (.float .f32)
  | .float 64 => some (.float .f64)
  | .complex 64 => some (.complex .f32)
  | .complex 128 => some (.complex .f64)
  | _ => none

/-- A constant has the shape of its value, and the element type of its entries unless another one is
    given. -/
def inferConstant (value : Payload) (element : Option Ty) : Check (List Ty) := do
  match value.grid? with
  | none => misuse .unusableValue
  | some grid =>
      let shape : Shape := .ranked (grid.dims.map fun n => some (Int.ofNat n))
      match element with
      | some element =>
          ensure element.isElement .incompatibleElementType
            s!"constant element type must be an element type, got {element.render}"
          return [.tensor element shape]
      | none =>
          match elementOfFormat? grid.format with
          | some element => return [.tensor element shape]
          | none =>
              reject .malformedAttribute
                s!"constant value has unsupported dtype {grid.format.name}"

end Op

end TensorTyping
