import TensorTyping.Ty.Basic

/-!
# Compatibility and unification of types

Two types are compatible when they may describe the same values: tensors with compatible shapes and
compatible elements, tuples of compatible types, tokens, and compatible elements. Under the relaxed
policy all floating-point types are compatible elements. Unifying compatible types keeps everything
that is known of their shapes.
-/

namespace TensorTyping

namespace Ty

/-! ### Compatibility -/

/-- The element types are the same, or floating-point types under the relaxed policy, or quantized
    types of one storage type with compatible expressed types. A tensor stands for its elements. -/
def compatibleElements (relaxed : Bool) : Ty → Ty → Bool
  | .tensor element _, b => compatibleElements relaxed element b
  | .quantized storage expressed scale zeroPoint, b =>
      match b.elementType with
      | .quantized storage' expressed' scale' zeroPoint' =>
          (Ty.quantized storage expressed scale zeroPoint).same
              (.quantized storage' expressed' scale' zeroPoint') ||
            (storage.same storage' && compatibleElements relaxed expressed expressed')
      | _ => false
  | a, b => a.same b.elementType || (relaxed && a.isFloat && b.elementType.isFloat)

/-- The types may describe the same values. -/
def compatible (relaxed : Bool) : Ty → Ty → Bool
  | .tensor element shape, .tensor element' shape' =>
      shape.compatible shape' && compatibleElements relaxed element element'
  | .tuple items, .tuple items' => compatibleAll items items'
  | .token, .token => true
  | .tensor .., _ | .tuple _, _ | .token, _ => false
  | _, .tensor .. | _, .tuple _ | _, .token => false
  | a, b => a.isElement && b.isElement && compatibleElements relaxed a b
where
  /-- The lists have one length and pairwise compatible types. -/
  compatibleAll : List Ty → List Ty → Bool
  | [], [] => true
  | item :: rest, item' :: rest' => compatible relaxed item item' && compatibleAll rest rest'
  | _, _ => false

/-- Comparing the two types asks for the kind of a missing type. The second type is asked only when
    the first one is an element type or a token, and the items of tuples are compared from the left
    up to the first pair that is not compatible. -/
def asksMissing (relaxed : Bool) : Ty → Ty → Bool
  | .missing, _ => true
  | .tuple items, .tuple items' => items.length == items'.length && asksMissingAll items items'
  | .tensor .., _ | .tuple _, _ => false
  | _, .missing => true
  | _, _ => false
where
  /-- The same for the items of two tuples. -/
  asksMissingAll : List Ty → List Ty → Bool
  | item :: rest, item' :: rest' =>
      asksMissing relaxed item item' ||
        (compatible relaxed item item' && asksMissingAll rest rest')
  | _, _ => false

/-- Decides whether the types are compatible, unless a missing type is asked for its kind. -/
def checkCompatible (a b : Ty) (relaxed : Bool := false) : Check Bool :=
  if asksMissing relaxed a b then misuse .missingPart else .ok (compatible relaxed a b)

/-! ### Unification -/

/-- What two tensor types say together. The element type is that of the first. -/
def unifyTensors (what : String) (relaxed : Bool) (a b : Tensor) : Check Tensor := do
  ensure (compatibleElements relaxed a.element b.element) .incompatibleElementType
    s!"{what} have different element types: {a.element.render} and {b.element.render}"
  ensure (a.shape.compatible b.shape) .incompatibleShape
    s!"{what} have incompatible shapes: {a.shape.text} and {b.shape.text}"
  return ⟨a.element, a.shape.refine b.shape⟩

/-- What two types other than tensors and tuples say together. -/
def unifyAtoms (what : String) (relaxed : Bool) (a b : Ty) : Check Ty := do
  let kind ← needPart a.kind?
  if kind = .token then
    let kind' ← needPart b.kind?
    ensure (kind' = .token) .incompatibleShape
      s!"{what} have incompatible kinds: {a.render} and {b.render}"
  else if a.isElement then
    let _ ← needPart b.kind?
    ensure b.isElement .incompatibleShape
      s!"{what} have incompatible kinds: {a.render} and {b.render}"
    ensure (compatibleElements relaxed a b) .incompatibleElementType
      s!"{what} have different element types: {a.render} and {b.render}"
  else
    reject .incompatibleShape s!"{what} have incompatible kinds: {a.render} and {b.render}"
  return a

/-- What two types say together. -/
def unify (what : String) (relaxed : Bool) : Ty → Ty → Check Ty
  | .tensor element shape, .tensor element' shape' =>
      (unifyTensors what relaxed ⟨element, shape⟩ ⟨element', shape'⟩).map Tensor.ty
  | .tuple items, .tuple items' =>
      if items.length = items'.length then
        (unifyAll items items').map Ty.tuple
      else
        let sides := (Ty.tuple items).render ++ " and " ++ (Ty.tuple items').render
        reject .incompatibleShape s!"{what} have tuples of different sizes: {sides}"
  | a, b => unifyAtoms what relaxed a b
where
  /-- What two lists of types say together, position by position. -/
  unifyAll : List Ty → List Ty → Check (List Ty)
  | item :: rest, item' :: rest' => do
      let first ← unify what relaxed item item'
      let others ← unifyAll rest rest'
      return first :: others
  | _, _ => return []

/-- What the types say together; there has to be at least one. -/
def unifyList (types : List Ty) (what : String := "types") (relaxed : Bool := false) : Check Ty :=
  match types with
  | [] => reject .invalidOperand s!"expects at least one of {what} to unify"
  | first :: rest => rest.foldlM (unify what relaxed) first

/-- What the tensor types say together; there has to be at least one. -/
def unifyTensorList (tensors : List Tensor) (what : String) : Check Tensor :=
  match tensors with
  | [] => reject .invalidOperand s!"expects at least one of {what} to unify"
  | first :: rest => rest.foldlM (unifyTensors what false) first

/-- Lists of types of one length, unified position by position. -/
def unifyLists (lists : List (List Ty)) (what : String) : Check (List Ty) := do
  let lengths := lists.map List.length
  let count := lengths.headD 0
  ensure (lengths.all (· == count)) .incompatibleShape
    s!"{what} return different numbers of values: {intsText (lengths.map Int.ofNat)}"
  collect
    (fun (i : Nat) => do unifyList (← collect (itemAt · i) lists) s!"{what} result {i}")
    (List.range count)

/-- The inferred type refined by the declared one, with which it has to be compatible. -/
def settle (inferred : Ty) (declared : Option Ty) (operation : String) : Check Ty := do
  match declared with
  | none => return inferred
  | some declared =>
      let agree ← checkCompatible inferred declared
      ensure agree .incompatibleShape
        (s!"{operation}: inferred type {inferred.render} is incompatible with declared " ++
          s!"result type {declared.render}")
      unifyList [declared, inferred] s!"{operation} result"

end Ty

end TensorTyping
