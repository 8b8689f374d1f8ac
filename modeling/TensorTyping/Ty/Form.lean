import TensorTyping.Payload.Convert
import TensorTyping.Ty.Basic

/-!
# Forming types from raw parts

The parts of a type may arrive as payloads. The functions below check them and form the type, or say
what is wrong with the first bad part.
-/

namespace TensorTyping

namespace Ty

/-- The types that have a name of their own. -/
def constants : List (String × Ty) :=
  [("I1", .bool), ("BOOL", .bool), ("I4", .int .w4 true), ("I8", .int .w8 true),
    ("I16", .int .w16 true), ("I32", .int .w32 true), ("I64", .int .w64 true),
    ("UI8", .int .w8 false), ("UI16", .int .w16 false), ("UI32", .int .w32 false),
    ("UI64", .int .w64 false), ("F8E4M3FN", .float .f8E4M3FN), ("F8E5M2", .float .f8E5M2),
    ("BF16", .float .bf16), ("F16", .float .f16), ("F32", .float .f32), ("F64", .float .f64),
    ("C64", .complex .f32), ("C128", .complex .f64), ("TOKEN", .token)]

/-- The type of the given name. -/
def ofConstant? (name : String) : Option Ty := constants.lookup name

/-- The integer type of the given width. -/
def ofWidth (width : Payload) (signed : Bool) : Check Ty :=
  let bits? : Option Int := match width with
    | .int n => some n
    | .real x => if x.isFinite && x.same (.ofInt x.truncate) then some x.truncate else none
    | _ => none
  match bits?.bind IntWidth.ofBits? with
  | some w => .ok (.int w signed)
  | none => misuse (.malformedType s!"unsupported integer bitwidth: {width.display}")

/-- The floating-point type of the given name. -/
def ofFloatName (name : Payload) : Check Ty :=
  let refused : Check Ty :=
    misuse (.malformedType s!"unsupported floating-point type: {name.display}")
  match name with
  | .text value =>
      match FloatFormat.ofName? value with
      | some format => .ok (.float format)
      | none => refused
  | .list _ | .array _ => misuse .wrongSort
  | _ => refused

/-- The complex type with the given components. -/
def ofComponent : Ty → Check Ty
  | .float format => .ok (.complex format)
  | other =>
      misuse (.malformedType s!"complex component must be a float type, got {other.render}")

/-- The quantized type with the given scale and zero point. A scale that is read from a text and is
    undefined gets the label, so that it differs from the undefined scales of other types. -/
def ofScale (storage expressed : Ty) (scale zeroPoint : Payload) (label : Nat := 0) :
    Check Ty := do
  let value ← scale.toReal
  let value := if scale matches .text _ && value.isUndefined then .undefined label else value
  let zeroPoint ← zeroPoint.toInt
  return .quantized storage expressed value zeroPoint

end Ty

namespace Shape

/-- One extent: unknown, or an integer that is not negative. -/
def readExtent : Payload → Check Extent
  | .null => .ok none
  | item =>
      let refused : Check Extent := misuse
        (.malformedType s!"tensor extents must be non-negative integers or None, got {item.quoted}")
      match item with
      | .int n => if n < 0 then refused else .ok (some n)
      | _ => refused

/-- A shape: unranked when nothing is given, and the list of its extents otherwise. -/
def read (payload : Payload) : Check Shape :=
  match payload with
  | .null => .ok .unranked
  | _ =>
      match payload.items? with
      | none => misuse .wrongSort
      | some items => do return .ranked (← collect readExtent items)

end Shape

namespace Tensor

/-- The tensor type over an element type, with the extents that the payload lists. -/
def read (element : Ty) (shape : Payload) : Check Tensor := do
  let t ← form element .unranked
  return { t with shape := ← Shape.read shape }

/-- The extent of the dimension with a number that is kept as it is given. It is unknown when the
    rank is, whatever the number. -/
def dimAt (t : Tensor) (index : Payload) : Check Extent := do
  match t.shape with
  | .unranked => return none
  | .ranked dims => itemAt dims (← index.needInt)

end Tensor

end TensorTyping
