import TensorTyping.Ty.Basic

/-!
# Slices at computed positions

A dynamic slice starts at positions that are scalar integer operands, one for each dimension. A
dynamic update writes a tensor into another one at such positions.
-/

namespace TensorTyping

namespace DynamicSlice

/-- A start index is a scalar integer tensor. -/
def verifyStart (i : Nat) (index : Ty) : Check Ty := do
  let index ← index.needTensor s!"start index {i}"
  ensure (!index.hasOtherRank 0) .invalidOperand
    s!"start index {i} must be a 0-dimensional tensor, got {index.render}"
  ensure index.element.isInteger .incompatibleElementType
    s!"start index {i} must have integer element type, got {index.element.render}"
  return index.element

/-- The printed forms of the types, each once, in alphabetical order. -/
def distinctTexts (types : List Ty) : List String :=
  ((types.map Ty.render).eraseDups).mergeSort fun a b => a ≤ b

/-- There is a list of start indices with one per dimension, and all have one element type. -/
def verifyStarts (operand : Tensor) (starts : Option (List Ty)) : Check Unit := do
  let starts ← needItems starts
  ensure (!operand.hasOtherRank starts.length) .invalidOperand
    (s!"has mismatched number of start indices ({starts.length}) and the rank " ++
      s!"of operand ({operand.rankText})")
  let elements ← collect (fun item => verifyStart item.2 item.1) starts.zipIdx
  let texts := (distinctTexts elements).map Text.quoted
  ensure (elements.all (elements.headD .missing).same) .incompatibleElementType
    ("start indices must have same element type, got [" ++ ", ".intercalate texts ++ "]")

/-- A slice size lies between zero and the extent of the operand. -/
def verifySize (operand : Tensor) (i : Nat) (size : Int) : Check Unit := do
  ensure (0 ≤ size) .invalidAttributeValue
    s!"has negative size index to dynamic slice: {size}"
  match ← operand.dim i with
  | none => return ()
  | some bound =>
      ensure (size ≤ bound) .invalidAttributeValue
        (s!"has slice size {size} greater than dimension size {bound} in dimension " ++
          s!"{i} of operand")

/-- The result of a dynamic slice. Without sizes the operand's shape is kept. -/
def infer (operand : Ty) (starts : Option (List Ty)) (sizes : Option (List Int)) :
    Check Tensor := do
  let operand ← operand.needTensor "operand"
  verifyStarts operand starts
  match sizes with
  | none => return operand
  | some sizes =>
      ensure (!operand.hasOtherRank sizes.length) .invalidDimensionMapping
        (s!"has mismatched number of slice sizes ({sizes.length}) and the rank of " ++
          s!"operand ({operand.rankText})")
      checkEach (verifySize operand) sizes
      Tensor.form operand.element (.ranked (sizes.map some))

/-- One extent of an update does not exceed that of the operand. -/
def verifyUpdateExtent (i : Nat) (dims : Extent × Extent) : Check Unit :=
  match dims with
  | (some bound, some extent) =>
      ensure (extent ≤ bound) .incompatibleShape
        (s!"expects size at dimension {i} of update to be in range [0, {bound}]. " ++
          s!"Got: {extent}.")
  | _ => .ok ()

/-- An update has the rank of the operand and does not exceed it, as far as both are known. -/
def verifyUpdateShape (operand update : Shape) : Check Unit :=
  match operand, update with
  | .ranked bounds, .ranked dims => do
      ensure (bounds.length = dims.length) .incompatibleShape
        (s!"update rank does not match operand rank: {dims.length} vs " ++
          s!"{bounds.length}.")
      checkEach verifyUpdateExtent (bounds.zip dims)
  | _, _ => .ok ()

/-- The result of a dynamic update: the operand, once the update fits into it. -/
def inferUpdate (operand update : Ty) (starts : Option (List Ty)) : Check Tensor := do
  let operand ← operand.needTensor "operand"
  let update ← update.needTensor "update"
  ensure (operand.element.same update.element) .incompatibleElementType
    (s!"expects update to have element type {operand.element.render}, got " ++
      s!"{update.element.render}")
  verifyUpdateShape operand.shape update.shape
  verifyStarts operand starts
  return operand

end DynamicSlice

end TensorTyping
