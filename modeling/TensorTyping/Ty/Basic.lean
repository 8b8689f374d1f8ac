import TensorTyping.Items
import TensorTyping.Number.Decimal
import TensorTyping.Shape

/-!
# Value types

The types of operands and results: element types (integers, booleans, floats, complex and quantized
numbers), tensors over element types, tuples and tokens. `Ty.missing` stands where no type was
given; it has no kind and is the same as itself only. The module also holds the printed form of a
type, sameness of types, and `Tensor`, the view of a type that most operations start from.
-/

namespace TensorTyping

/-- The widths an integer type may have. -/
inductive IntWidth where
  | w2 | w4 | w8 | w16 | w32 | w64
  deriving DecidableEq, Repr, Inhabited

namespace IntWidth

/-- The number of bits. -/
def bits : IntWidth → Nat
  | .w2 => 2
  | .w4 => 4
  | .w8 => 8
  | .w16 => 16
  | .w32 => 32
  | .w64 => 64

/-- The width of the given number of bits. -/
def ofBits? (bits : Int) : Option IntWidth :=
  [w2, w4, w8, w16, w32, w64].find? fun width => (width.bits : Int) == bits

end IntWidth

/-- The floating-point formats. -/
inductive FloatFormat where
  | f8E4M3FN | f8E5M2 | bf16 | f16 | f32 | f64
  deriving DecidableEq, Repr, Inhabited

namespace FloatFormat

/-- The name of the format. -/
def name : FloatFormat → String
  | .f8E4M3FN => "f8E4M3FN"
  | .f8E5M2 => "f8E5M2"
  | .bf16 => "bf16"
  | .f16 => "f16"
  | .f32 => "f32"
  | .f64 => "f64"

/-- The number of bits of a value. -/
def bits : FloatFormat → Nat
  | .f8E4M3FN => 8
  | .f8E5M2 => 8
  | .bf16 => 16
  | .f16 => 16
  | .f32 => 32
  | .f64 => 64

/-- The format of the given name. -/
def ofName? (name : String) : Option FloatFormat :=
  [f8E4M3FN, f8E5M2, bf16, f16, f32, f64].find? fun format => format.name == name

end FloatFormat

/-- A type, or `missing` where none was given. A quantized type stores values of one type that stand
    for values of another; neither is restricted. -/
inductive Ty where
  | int (width : IntWidth) (signed : Bool)
  | bool
  | float (format : FloatFormat)
  | complex (component : FloatFormat)
  | quantized (storage expressed : Ty) (scale : Binary64) (zeroPoint : Int)
  | tensor (element : Ty) (shape : Shape)
  | tuple (items : List Ty)
  | token
  | missing
  deriving Repr, Inhabited

namespace Ty

/-! ### The common element types -/

/-- The type of predicates. -/
abbrev i1 : Ty := .bool

/-- The signed 32-bit integers. -/
abbrev i32 : Ty := .int .w32 true

/-- The unsigned 32-bit integers. -/
abbrev ui32 : Ty := .int .w32 false

/-! ### Kinds -/

/-- The kinds of types. -/
inductive Kind where
  | integer | boolean | float | complex | quantized | tensor | tuple | token
  deriving DecidableEq, Repr, Inhabited

/-- The name of a kind. -/
def Kind.name : Kind → String
  | .integer => "integer"
  | .boolean => "boolean"
  | .float => "float"
  | .complex => "complex"
  | .quantized => "quantized"
  | .tensor => "tensor"
  | .tuple => "tuple"
  | .token => "token"

/-- The kind of a type that was given. -/
def kind? : Ty → Option Kind
  | .int .. => some .integer
  | .bool => some .boolean
  | .float _ => some .float
  | .complex _ => some .complex
  | .quantized .. => some .quantized
  | .tensor .. => some .tensor
  | .tuple _ => some .tuple
  | .token => some .token
  | .missing => none

/-- An integer type; predicates are none. -/
def isInteger : Ty → Bool
  | .int .. => true
  | _ => false

/-- The type of predicates. -/
def isBool : Ty → Bool
  | .bool => true
  | _ => false

/-- A floating-point type. -/
def isFloat : Ty → Bool
  | .float _ => true
  | _ => false

/-- A complex type. -/
def isComplex : Ty → Bool
  | .complex _ => true
  | _ => false

/-- A quantized type. -/
def isQuantized : Ty → Bool
  | .quantized .. => true
  | _ => false

/-- A type that a tensor can have elements of. -/
def isElement (t : Ty) : Bool :=
  t.isInteger || t.isBool || t.isFloat || t.isComplex || t.isQuantized

/-- The elements of a tensor; any other type stands for itself. -/
def elementType : Ty → Ty
  | .tensor element _ => element
  | other => other

/-- The width of an element: of one component of a complex number, and of the storage type of a
    quantized one. Other types have none. -/
def bitwidth? : Ty → Option Nat
  | .int width _ => some width.bits
  | .bool => some 1
  | .float format => some format.bits
  | .complex component => some component.bits
  | .quantized storage .. => storage.bitwidth?
  | _ => none

/-! ### Printed form -/

/-- The shape and the element type inside a printed tensor. -/
def tensorText (shape : Shape) (element : String) : String :=
  match shape with
  | .unranked => "*x" ++ element
  | .ranked dims => String.join (dims.map fun dim => Extent.mark dim ++ "x") ++ element

/-- The printed form of a type. -/
def render : Ty → String
  | .int width signed => (if signed then "i" else "ui") ++ toString width.bits
  | .bool => "i1"
  | .float format => format.name
  | .complex component => s!"complex<{component.name}>"
  | .quantized storage expressed scale zeroPoint =>
      s!"!quant.uniform<{storage.render}:{expressed.render}, {scale.scaleText}:{zeroPoint}>"
  | .tensor element shape => s!"tensor<{tensorText shape element.render}>"
  | .tuple items => "tuple<" ++ ", ".intercalate (renderAll items) ++ ">"
  | .token => "!token"
  | .missing => "None"
where
  /-- The printed forms of the items of a tuple. -/
  renderAll : List Ty → List String
  | [] => []
  | item :: rest => item.render :: renderAll rest

/-! ### Sameness -/

/-- The two types are the same. Scales are compared by value, an undefined one by its label. -/
def same : Ty → Ty → Bool
  | .int width signed, .int width' signed' => width == width' && signed == signed'
  | .bool, .bool => true
  | .float format, .float format' => format == format'
  | .complex component, .complex component' => component == component'
  | .quantized storage expressed scale zeroPoint,
      .quantized storage' expressed' scale' zeroPoint' =>
      storage.same storage' && expressed.same expressed' && scale.same scale' &&
        zeroPoint == zeroPoint'
  | .tensor element shape, .tensor element' shape' => element.same element' && shape == shape'
  | .tuple items, .tuple items' => sameAll items items'
  | .token, .token => true
  | .missing, .missing => true
  | _, _ => false
where
  /-- The two lists have one length and pairwise the same types. -/
  sameAll : List Ty → List Ty → Bool
  | [], [] => true
  | item :: rest, item' :: rest' => item.same item' && sameAll rest rest'
  | _, _ => false

end Ty

/-- The first extent that no shape may have, a negative one. -/
def Shape.badExtent? : Shape → Option Int
  | .unranked => none
  | .ranked dims => dims.findSome? fun
      | some n => if n < 0 then some n else none
      | none => none

/-- A tensor type taken apart. -/
structure Tensor where
  element : Ty
  shape : Shape
  deriving Repr, Inhabited

namespace Tensor

/-- The tensor as a type. -/
def ty (t : Tensor) : Ty := .tensor t.element t.shape

/-- The printed form of the tensor type. -/
def render (t : Tensor) : String := t.ty.render

/-- The tensor type over an element type with extents that are unknown or not negative. -/
def form (element : Ty) (shape : Shape) : Check Tensor :=
  if element.isElement then
    match shape.badExtent? with
    | none => .ok ⟨element, shape⟩
    | some n =>
        misuse (.malformedType s!"tensor extents must be non-negative integers or None, got {n}")
  else
    misuse (.malformedType s!"tensor element type must be an element type, got {element.render}")

/-- The tensor without dimensions. -/
def scalar (element : Ty) : Tensor := ⟨element, .scalar⟩

/-- The tensor of unknown rank. -/
def unranked (element : Ty) : Tensor := ⟨element, .unranked⟩

/-- The number of dimensions, when it is known. -/
def rank? (t : Tensor) : Option Nat := t.shape.rank?

/-- The rank is known. -/
def hasRank (t : Tensor) : Bool := t.shape.hasRank

/-- The rank as it is named in a sentence. -/
def rankText (t : Tensor) : String := t.shape.rankText

/-- The extent of the dimension with the given number. It is unknown when the rank is, whatever the
    number. -/
def dim (t : Tensor) (index : Int) : Check Extent :=
  match t.shape with
  | .unranked => .ok none
  | .ranked dims => itemAt dims index

/-- The rank is known and differs from the given one. -/
def hasOtherRank (t : Tensor) (rank : Nat) : Bool :=
  match t.rank? with
  | some n => n != rank
  | none => false

end Tensor

namespace Ty

/-- The type as a tensor, when it is one. -/
def tensor? : Ty → Option Tensor
  | .tensor element shape => some ⟨element, shape⟩
  | _ => none

/-- The type as a tensor; another type is no valid operand. -/
def needTensor (t : Ty) (what : String) : Check Tensor :=
  match t.tensor? with
  | some view => .ok view
  | none => reject .invalidOperand s!"expects {what} to be a tensor, but got {t.render}"

end Ty

end TensorTyping
