import TensorTyping.Op.Reduction
import TensorTyping.Window.Decode

/-!
# Windowed reductions

A windowed reduction reduces the elements under a window that slides over every dimension. Selecting
and scattering is its counterpart: it picks an element under each window and adds a source value
there.
-/

namespace TensorTyping

namespace Op

/-- A reduction of the elements under a sliding window. -/
structure ReduceWindow where
  inputs : List Ty
  inits : Option (List Ty)
  sizes : Payload
  body : Option Region
  window : Window.RawAttributes := {}
  deriving Repr, Inhabited

/-- A windowed reduction has the output extents of its window and the element types of the
    accumulators. -/
def ReduceWindow.infer (op : ReduceWindow) : Check (List Ty) := do
  let inits ← needInits op.inputs op.inits
  let inputs ← collect (Ty.needTensor · "reduce_window input") op.inputs
  let inits ← collect (Ty.needTensor · "init value") inits
  let base ← unifyInputs inputs "reduce_window inputs"
  verifyScalarInits inits
  let sizes ← op.sizes.decodeInts "window_dimensions"
  let count := sizes.length
  ensure (!base.hasOtherRank count) .attributeArityMismatch
    ("expects window-dimensions size == input rank, but got window-dimensions size: " ++
      s!"{count} and input: {base.render} with rank = {base.rankText}.")
  let window ← Window.decode (.ofInts sizes) (.int count) op.window
  let accumulators ← Reducer.verify op.body
    (.ofTensors inputs inits (sizes.map some) "reduce_window")
  let dims ← Window.outputDims (base.shape.dims?.getD (List.replicate count none)) window
  collect (fun t => (Tensor.form t.element (.ranked dims)).map Tensor.ty) accumulators

/-- A selection of one element under each window, and a scatter of source values to it. -/
structure SelectAndScatter where
  operand : Ty
  source : Ty
  init : Ty
  select : Option Region
  scatter : Option Region
  sizes : Payload := .null
  strides : Payload := .null
  padding : Payload := .null
  deriving Repr, Inhabited

/-- The selection compares two scalars of the operand. -/
def verifySelection (select : Region) (operand : Tensor) : Check Unit := do
  let scalar := (Tensor.scalar operand.element).ty
  ensure (select.arguments.length = 2) .invalidRegion
    (s!"expects the select-region to take 2 parameters, but takes " ++
      s!"{select.arguments.length}")
  checkEach (fun i argument =>
    ensure (argument.same scalar) .invalidRegion
      (s!"expects the type of select-region's parameter at index {i} to be " ++
        s!"{scalar.render}, but got {argument.render}")) select.arguments
  let expected := (Tensor.scalar .i1).ty
  ensure (select.returns expected) .invalidRegion
    (s!"expects the return-type of select-region to be {expected.render}, but got " ++
      s!"{select.resultsText}")

/-- The source has one value for each place of the window. -/
def SelectAndScatter.verifySource (op : SelectAndScatter) (dims : List Extent) (source : Shape) :
    Check Unit := do
  let rank := dims.length
  let payload := if op.sizes.isAbsent then .null else op.sizes
  let sizes ← payload.decodeIntsOr "window_dimensions" rank 1
  let window ← Window.decode (.ofInts sizes) (.int rank)
    { strides := op.strides, padding := op.padding }
  let windowed ← Window.outputDims dims window
  ensure (source.compatible (.ranked windowed)) .incompatibleShape
    s!"expects source-type to be {dimsText windowed}, but got {source.text}"

/-- Selecting and scattering keeps the type of the operand. -/
def SelectAndScatter.infer (op : SelectAndScatter) : Check (List Ty) := do
  let operand ← op.operand.needTensor "operand"
  let source ← op.source.needTensor "source"
  let init ← op.init.needTensor "init_value"
  ensure (!init.hasOtherRank 0) .incompatibleShape
    s!"expects init_value to be a rank-0 tensor, got {init.render}"
  verifySelection (← needPart op.select) operand
  let _ ← Reducer.verify op.scatter (.ofTensors [source] [init] [] "select_and_scatter")
  ensure (source.element.same operand.element) .incompatibleElementType
    (s!"expects source element type {source.element.render} to match operand element " ++
      s!"type {operand.element.render}")
  match operand.shape with
  | .unranked => pure ()
  | .ranked dims => op.verifySource dims source.shape
  return [operand.ty]

end Op

end TensorTyping
