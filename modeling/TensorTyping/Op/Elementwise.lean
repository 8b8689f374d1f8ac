import TensorTyping.Broadcast
import TensorTyping.Payload.Basic
import TensorTyping.Ty.Compat

/-!
# Elementwise operations

The results of these operations keep the shape of their operands, which is unified when there are
several, and derive the element type from them.
-/

namespace TensorTyping

namespace Payload

/-- The payload is one of the given texts. -/
def isOneOf (values : List String) : Payload → Bool
  | .text value => values.contains value
  | _ => false

end Payload

namespace Op

/-! ### Kinds of unary and binary operations -/

/-- The classes of element types that operations accept. -/
inductive ElementClass where
  | any
  | numeric
  | floatLike
  | realFloat
  | integerOrBool
  | integer
  deriving DecidableEq, Repr

/-- The class contains the element type. -/
def ElementClass.admits : ElementClass → Ty → Bool
  | .any, _ => true
  | .numeric, t => t.isInteger || t.isFloat || t.isComplex || t.isQuantized
  | .floatLike, t => t.isFloat || t.isComplex || t.isQuantized
  | .realFloat, t => t.isFloat || t.isQuantized
  | .integerOrBool, t => t.isInteger || t.isBool
  | .integer, t => t.isInteger

/-- The unary operations that keep the type of their operand. -/
inductive UnaryKind where
  | negate | exponential | exponentialMinusOne | log | logPlusOne | sqrt | rsqrt | cbrt | tanh
  | logistic | sine | cosine | floor | ceil | roundNearestAfz | roundNearestEven | sign | not
  | popcnt | countLeadingZeros
  deriving DecidableEq, Repr, Inhabited

namespace UnaryKind

/-- All unary operations in the order of the catalog. -/
def all : List UnaryKind :=
  [.negate, .exponential, .exponentialMinusOne, .log, .logPlusOne, .sqrt, .rsqrt, .cbrt, .tanh,
    .logistic, .sine, .cosine, .floor, .ceil, .roundNearestAfz, .roundNearestEven, .sign, .not,
    .popcnt, .countLeadingZeros]

/-- The name of the operation. -/
def name : UnaryKind → String
  | .negate => "negate"
  | .exponential => "exponential"
  | .exponentialMinusOne => "exponential_minus_one"
  | .log => "log"
  | .logPlusOne => "log_plus_one"
  | .sqrt => "sqrt"
  | .rsqrt => "rsqrt"
  | .cbrt => "cbrt"
  | .tanh => "tanh"
  | .logistic => "logistic"
  | .sine => "sine"
  | .cosine => "cosine"
  | .floor => "floor"
  | .ceil => "ceil"
  | .roundNearestAfz => "round_nearest_afz"
  | .roundNearestEven => "round_nearest_even"
  | .sign => "sign"
  | .not => "not"
  | .popcnt => "popcnt"
  | .countLeadingZeros => "count_leading_zeros"

/-- The element types that the operation accepts. -/
def elements : UnaryKind → ElementClass
  | .negate | .sign => .numeric
  | .floor | .ceil | .roundNearestAfz | .roundNearestEven => .realFloat
  | .not => .integerOrBool
  | .popcnt | .countLeadingZeros => .integer
  | _ => .floatLike

/-- The operation of the given name. -/
def ofName? (name : String) : Option UnaryKind := all.find? fun kind => kind.name == name

end UnaryKind

/-- The binary operations on operands of one type. -/
inductive BinaryKind where
  | add | subtract | multiply | divide | remainder | maximum | minimum | power | atan2 | and | or
  | xor | shiftLeft | shiftRightArithmetic | shiftRightLogical
  deriving DecidableEq, Repr, Inhabited

namespace BinaryKind

/-- All binary operations in the order of the catalog. -/
def all : List BinaryKind :=
  [.add, .subtract, .multiply, .divide, .remainder, .maximum, .minimum, .power, .atan2, .and, .or,
    .xor, .shiftLeft, .shiftRightArithmetic, .shiftRightLogical]

/-- The name of the operation. -/
def name : BinaryKind → String
  | .add => "add"
  | .subtract => "subtract"
  | .multiply => "multiply"
  | .divide => "divide"
  | .remainder => "remainder"
  | .maximum => "maximum"
  | .minimum => "minimum"
  | .power => "power"
  | .atan2 => "atan2"
  | .and => "and"
  | .or => "or"
  | .xor => "xor"
  | .shiftLeft => "shift_left"
  | .shiftRightArithmetic => "shift_right_arithmetic"
  | .shiftRightLogical => "shift_right_logical"

/-- The element types that the operation accepts. -/
def elements : BinaryKind → ElementClass
  | .add | .multiply | .maximum | .minimum => .any
  | .subtract | .divide | .remainder | .power => .numeric
  | .atan2 => .floatLike
  | .and | .or | .xor => .integerOrBool
  | .shiftLeft | .shiftRightArithmetic | .shiftRightLogical => .integer

/-- The operation of the given name. -/
def ofName? (name : String) : Option BinaryKind := all.find? fun kind => kind.name == name

end BinaryKind

/-! ### Shared checks -/

/-- The operation accepts the elements of the tensor. -/
def ensureElement (t : Tensor) (elements : ElementClass) (operation : String) : Check Unit :=
  ensure (elements.admits t.element) .incompatibleElementType
    s!"{operation} does not support element type {t.element.render}"

/-- What the operands, all of them tensors of one element type, say together. -/
def unifyOperands (operands : List Ty) (what : String) : Check Tensor := do
  Ty.unifyTensorList (← collect (Ty.needTensor · what) operands) what

/-! ### Rules -/

/-- A unary operation keeps the type of its operand. -/
def inferUnary (kind : UnaryKind) (operand : Ty) : Check (List Ty) := do
  let operand ← operand.needTensor "operand"
  ensureElement operand kind.elements kind.name
  return [operand.ty]

/-- A binary operation, with or without implicit broadcasting of its operands. -/
structure Binary where
  kind : BinaryKind
  lhs : Ty
  rhs : Ty
  broadcast : Bool := false
  deriving Repr, Inhabited

/-- A binary operation on operands of one element type. -/
def Binary.infer (op : Binary) : Check (List Ty) := do
  let name := op.kind.name
  let lhs ← op.lhs.needTensor "lhs"
  let rhs ← op.rhs.needTensor "rhs"
  ensureElement lhs op.kind.elements name
  ensure (lhs.element.same rhs.element) .incompatibleElementType
    (s!"{name} operands have different element types: {lhs.element.render} and " ++
      s!"{rhs.element.render}")
  if op.broadcast then
    let shape ← Broadcast.shapes lhs.shape rhs.shape
    return [(Tensor.mk lhs.element shape).ty]
  else
    return [(← unifyOperands [lhs.ty, rhs.ty] s!"{name} operands").ty]

/-- The absolute value; that of a complex number is real. -/
def inferAbs (operand : Ty) : Check (List Ty) := do
  let operand ← operand.needTensor "operand"
  ensureElement operand .numeric "abs"
  match operand.element with
  | .complex component => return [.tensor (.float component) operand.shape]
  | _ => return [operand.ty]

/-- The directions of a comparison. -/
def comparisonDirections : List String := ["EQ", "NE", "GE", "GT", "LE", "LT"]

/-- The types of a comparison. -/
def comparisonTypes : List String := ["NOTYPE", "FLOAT", "TOTALORDER", "SIGNED", "UNSIGNED"]

/-- A comparison. The type of the comparison may be left out. -/
structure Compare where
  lhs : Ty
  rhs : Ty
  direction : Payload := .text "EQ"
  compareType : Payload := .null
  deriving Repr, Inhabited

/-- A comparison of two operands of one type gives predicates. -/
def Compare.infer (op : Compare) : Check (List Ty) := do
  let directions := ", ".intercalate comparisonDirections
  ensure (op.direction.isOneOf comparisonDirections) .invalidAttributeValue
    s!"unknown comparison_direction {op.direction.quoted}, expected one of {directions}"
  let types := ", ".intercalate comparisonTypes
  ensure (op.compareType matches .null ∨ op.compareType.isOneOf comparisonTypes)
    .invalidAttributeValue
    s!"unknown compare_type {op.compareType.quoted}, expected one of {types}"
  let unified ← unifyOperands [op.lhs, op.rhs] "compare operands"
  return [.tensor .i1 unified.shape]

/-- The test whether numbers are finite. -/
def inferIsFinite (operand : Ty) : Check (List Ty) := do
  let operand ← operand.needTensor "x"
  ensureElement operand .realFloat "is_finite"
  return [.tensor .i1 operand.shape]

/-- A choice between two tensors by a predicate. -/
structure Select where
  pred : Ty
  onTrue : Ty
  onFalse : Ty
  deriving Repr, Inhabited

/-- A choice by a scalar predicate, or by one predicate for each element. -/
def Select.infer (op : Select) : Check (List Ty) := do
  let pred ← op.pred.needTensor "pred"
  ensure (pred.element.same .i1) .incompatibleElementType
    s!"select expects an i1 predicate, got {pred.element.render}"
  let result ← unifyOperands [op.onTrue, op.onFalse] "select branches"
  if pred.shape = .scalar then
    return [result.ty]
  else
    ensure (pred.shape.compatible result.shape) .incompatibleShape
      (s!"requires the same shape for all operands: pred {pred.shape.text} " ++
        s!"vs {result.shape.text}")
    let refined ← Ty.unifyTensorList [result, ⟨result.element, pred.shape⟩] "select operands"
    return [refined.ty]

/-- A restriction of values to an interval. -/
structure Clamp where
  min : Ty
  operand : Ty
  max : Ty
  deriving Repr, Inhabited

/-- A bound of an interval is a scalar or has the shape of the operand. -/
def Clamp.verifyBound (operand : Tensor) (name : String) (bound : Ty) : Check Unit := do
  let bound ← bound.needTensor name
  ensure (bound.element.same operand.element) .incompatibleElementType
    (s!"clamp {name} has element type {bound.element.render}, operand has " ++
      s!"{operand.element.render}")
  ensure (bound.shape = .scalar ∨ bound.shape.compatible operand.shape) .incompatibleShape
    (s!"{name} shape {bound.shape.text} is not scalar and is not " ++
      s!"compatible with operand shape {operand.shape.text}")

/-- A restricted tensor keeps its type. -/
def Clamp.infer (op : Clamp) : Check (List Ty) := do
  let operand ← op.operand.needTensor "operand"
  verifyBound operand "min" op.min
  verifyBound operand "max" op.max
  return [operand.ty]

end Op

end TensorTyping
