import TensorTyping.Payload.Decode
import TensorTyping.Record
import TensorTyping.Window.Basic

/-!
# Windows from raw attributes

The payloads that describe a window, decoded and validated in one step.
-/

namespace TensorTyping

/-- The window along one dimension that a record describes. -/
def WindowDim.ofRecord (record : Record) : Check WindowDim := do
  record.ensureKnown ["size", "stride", "padding_low", "padding_high", "window_dilation",
    "base_dilation", "window_reversal"]
  return {
    size := WindowSize.ofPayload ((record.lookup "size").getD (.int 1))
    stride := ← record.int "stride" 1
    paddingLow := ← record.int "padding_low" 0
    paddingHigh := ← record.int "padding_high" 0
    windowDilation := ← record.int "window_dilation" 1
    baseDilation := ← record.int "base_dilation" 1
    reversed := record.flag "window_reversal" }

namespace Window

/-- The vectors of a window that a record describes, all of whose items are integers. -/
def Attributes.ofRecord (record : Record) : Check Attributes := do
  let strides ← collect Payload.needInt (← record.items "window_strides")
  let rows ← record.items "padding"
  let padding ← collect (fun row => do collect Payload.needInt (← needItems row.items?)) rows
  let baseDilations ← collect Payload.needInt (← record.items "lhs_dilation")
  let windowDilations ← collect Payload.needInt (← record.items "rhs_dilation")
  let reversal := (← record.items "window_reversal").map Payload.isTruthy
  return { strides, padding, baseDilations, windowDilations, reversal }

/-- The payloads that describe a window beside its sizes. -/
structure RawAttributes where
  strides : Payload := .null
  padding : Payload := .null
  baseDilations : Payload := .null
  windowDilations : Payload := .null
  reversal : Payload := .null
  deriving Repr, Inhabited

/-- The sizes of a window. A list that holds an unknown size is taken over item by item; any other
    payload is decoded as a vector of integers. -/
def decodeSizes (sizes : Payload) : Check (List WindowSize) :=
  match sizes with
  | .list items =>
      if items.any Payload.isNull then .ok (items.map WindowSize.ofPayload)
      else (sizes.decodeInts "window_dimensions").map (List.map .known)
  | _ => (sizes.decodeInts "window_dimensions").map (List.map .known)

/-- Decodes all vectors that stand beside the sizes of a window with `count` dimensions. -/
def RawAttributes.decode (raw : RawAttributes) (count : Payload) : Check Attributes := do
  let strides ← raw.strides.decodeInts "window_strides"
  let padding ← raw.padding.readPadding count
  let baseDilations ← raw.baseDilations.decodeInts "base_dilations"
  let windowDilations ← raw.windowDilations.decodeInts "window_dilations"
  let reversal ← raw.reversal.decodeBools "window_reversal"
  return { strides, padding, baseDilations, windowDilations, reversal }

/-- Decodes and validates a window with `count` dimensions. -/
def decode (sizes count : Payload) (raw : RawAttributes) : Check (List WindowDim) := do
  let sizes ← decodeSizes sizes
  ensure (count.isInt sizes.length) .attributeArityMismatch
    s!"expects window-dimensions size to be {count.display}, but got {sizes.length}."
  build sizes (← raw.decode count)

end Window

end TensorTyping
