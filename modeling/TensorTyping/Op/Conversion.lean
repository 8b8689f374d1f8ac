import TensorTyping.Op.Elementwise

/-!
# Conversions between element types

Conversions, reinterpretations of bits, and the passage between complex numbers and their parts.
-/

namespace TensorTyping

namespace Op

/-- The real or the imaginary part of complex numbers; real numbers pass unchanged. -/
def inferComplexPart (operand : Ty) (operation : String) : Check (List Ty) := do
  let operand ← operand.needTensor "operand"
  match operand.element with
  | .complex component => return [.tensor (.float component) operand.shape]
  | .float _ => return [operand.ty]
  | element =>
      reject .incompatibleElementType
        s!"{operation} expects a floating-point or complex operand, got {element.render}"

/-- Complex numbers from their parts, in single or double precision. -/
def inferComplex (lhs rhs : Ty) : Check (List Ty) := do
  let unified ← unifyOperands [lhs, rhs] "complex operands"
  match unified.element with
  | .float .f32 => return [.tensor (.complex .f32) unified.shape]
  | .float .f64 => return [.tensor (.complex .f64) unified.shape]
  | element =>
      reject .incompatibleElementType
        s!"complex expects f32 or f64 components, got {element.render}"

/-- A conversion to another element type. -/
def inferConvert (operand element : Ty) : Check (List Ty) := do
  let operand ← operand.needTensor "operand"
  let _ ← needPart element.kind?
  ensure element.isElement .incompatibleElementType
    s!"convert target must be an element type, got {element.render}"
  return [.tensor element operand.shape]

/-- The numbers that quantized values stand for. -/
def inferUniformDequantize (operand : Ty) : Check (List Ty) := do
  let operand ← operand.needTensor "operand"
  match operand.element with
  | .quantized _ expressed _ _ => return [(← Tensor.form expressed operand.shape).ty]
  | element =>
      reject .incompatibleElementType
        s!"uniform_dequantize expects a quantized operand, got {element.render}"

/-- The number of bits that one element takes; a complex number takes those of both parts. -/
def elementBitwidth : Ty → Check Nat
  | .complex component => .ok (2 * component.bits)
  | other => needPart other.bitwidth?

/-- The shapes of a reinterpretation between elements of different widths. The narrow side has one
    more dimension, of as many elements as the wide one splits into. -/
def verifyNarrowing (operand result : Tensor) (wide narrow : List Extent) (ratio : Int) :
    Check Unit := do
  ensure (narrow.length = wide.length + 1) .incompatibleShape
    ("rank of smaller element type should be 1 more than rank of larger element " ++
      s!"type, got {operand.render} and {result.render}")
  ensure (Shape.compatibleDims narrow.dropLast wide) .incompatibleShape
    (s!"operand shape {operand.shape.text} and result shape " ++
      s!"{result.shape.text} don't match")
  let trailing ← itemAt narrow (-1)
  ensure (Extent.compatible trailing (some ratio)) .incompatibleShape
    (s!"requires compatible bitwidths: trailing dimension must be {ratio}, " ++
      s!"got {trailing.text}")

/-- The shapes of a reinterpretation, between elements of the given widths. -/
def verifyBitcast (operand result : Tensor) (operandWidth resultWidth : Nat) : Check Unit :=
  match operand.shape, result.shape with
  | .ranked operandDims, .ranked resultDims =>
      if operandWidth = resultWidth then
        ensure (Shape.compatibleDims operandDims resultDims) .incompatibleShape
          (s!"operand shape {operand.shape.text} and result shape " ++
            s!"{result.shape.text} don't match")
      else if resultWidth < operandWidth then do
        let ratio ← floorDiv operandWidth resultWidth
        verifyNarrowing operand result operandDims resultDims ratio
      else do
        let ratio ← floorDiv resultWidth operandWidth
        verifyNarrowing operand result resultDims operandDims ratio
  | _, _ => .ok ()

/-- A reinterpretation of the bits of a tensor as the declared result. -/
def inferBitcastConvert (operand result : Ty) : Check (List Ty) := do
  let operand ← operand.needTensor "operand"
  let result ← result.needTensor "result"
  let operandWidth ← elementBitwidth operand.element
  let resultWidth ← elementBitwidth result.element
  verifyBitcast operand result operandWidth resultWidth
  return [result.ty]

end Op

end TensorTyping
