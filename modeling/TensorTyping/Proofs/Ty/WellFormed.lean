import TensorTyping.Proofs.Check
import TensorTyping.Proofs.Ty.Same
import TensorTyping.Ty.Form

/-!
# Types that can be formed

The types whose tensors have elements of an element type and extents that are not negative, and in
which nothing is missing. Well-formedness can be decided.
-/

namespace TensorTyping

/-- The extent is unknown or not negative. -/
def Extent.WellFormed (dim : Extent) : Prop := ∀ n, dim = some n → 0 ≤ n

/-- No extent is negative. -/
def Shape.WellFormed (s : Shape) : Prop := ∀ dims, s = .ranked dims → ∀ dim ∈ dims, dim.WellFormed

/-- The type can be formed: tensors have elements of an element type and no negative extents, and no
    part of the type is missing. -/
inductive Ty.WellFormed : Ty → Prop
  | int (width : IntWidth) (signed : Bool) : Ty.WellFormed (.int width signed)
  | bool : Ty.WellFormed .bool
  | float (format : FloatFormat) : Ty.WellFormed (.float format)
  | complex (component : FloatFormat) : Ty.WellFormed (.complex component)
  | quantized {storage expressed : Ty} (scale : Binary64) (zeroPoint : Int) :
      storage.WellFormed → expressed.WellFormed →
        Ty.WellFormed (.quantized storage expressed scale zeroPoint)
  | tensor {element : Ty} {shape : Shape} :
      element.isElement = true → element.WellFormed → shape.WellFormed →
        Ty.WellFormed (.tensor element shape)
  | tuple {items : List Ty} : (∀ item ∈ items, Ty.WellFormed item) → Ty.WellFormed (.tuple items)
  | token : Ty.WellFormed .token

namespace Ty

variable {a : Ty}

theorem WellFormed.elementType (h : a.WellFormed) : a.elementType.WellFormed := by
  cases h with
  | tensor _ element _ => exact element
  | _ => constructor <;> assumption

/-- The elements of a type that can be formed are no tensors. -/
theorem WellFormed.elementType_ne_tensor (h : a.WellFormed) (element : Ty) (shape : Shape) :
    a.elementType ≠ .tensor element shape := by
  cases h with
  | tensor isElement _ _ =>
    rintro rfl
    simp at isElement
  | _ => simp [Ty.elementType]

/-! ### Deciding well-formedness -/

/-- Decides whether the type can be formed. -/
def isWellFormed : Ty → Bool
  | .quantized storage expressed _ _ => storage.isWellFormed && expressed.isWellFormed
  | .tensor element shape =>
      element.isElement && element.isWellFormed && shape.badExtent?.isNone
  | .tuple items => allWellFormed items
  | .missing => false
  | _ => true
where
  /-- Decides whether all items of a tuple can be formed. -/
  allWellFormed : List Ty → Bool
  | [] => true
  | item :: rest => item.isWellFormed && allWellFormed rest

theorem allWellFormed_iff {items : List Ty} :
    isWellFormed.allWellFormed items = true ↔ ∀ item ∈ items, item.isWellFormed = true := by
  induction items with
  | nil => simp [isWellFormed.allWellFormed]
  | cons item rest ih => simp [isWellFormed.allWellFormed, ih]

end Ty

theorem Shape.badExtent?_eq_none {s : Shape} : s.badExtent? = none ↔ s.WellFormed := by
  cases s with
  | unranked => simp [badExtent?, WellFormed]
  | ranked dims =>
    simp only [badExtent?, List.findSome?_eq_none_iff, WellFormed, ranked.injEq, forall_eq',
      Extent.WellFormed]
    refine forall₂_congr fun dim _ => ?_
    cases dim with
    | none => simp
    | some n => simp

theorem Ty.isWellFormed_iff {t : Ty} : t.isWellFormed = true ↔ t.WellFormed := by
  induction t using induct with
  | quantized storage expressed scale zeroPoint hs he =>
    rw [isWellFormed, Bool.and_eq_true, hs, he]
    constructor
    · rintro ⟨hs, he⟩
      exact .quantized scale zeroPoint hs he
    · rintro (_ | _)
      constructor <;> assumption
  | tensor element shape ih =>
    rw [isWellFormed, Bool.and_eq_true, Bool.and_eq_true, ih, Option.isNone_iff_eq_none,
      Shape.badExtent?_eq_none]
    constructor
    · rintro ⟨⟨isElement, formed⟩, extents⟩
      exact .tensor isElement formed extents
    · rintro (_ | _)
      exact ⟨⟨‹_›, ‹_›⟩, ‹_›⟩
  | tuple items ih =>
    rw [isWellFormed, allWellFormed_iff]
    constructor
    · intro all
      exact .tuple fun item member => (ih item member).mp (all item member)
    · rintro (_ | _)
      intro item member
      exact (ih item member).mpr (‹∀ item ∈ items, item.WellFormed› item member)
  | missing =>
    constructor
    · intro h
      simp [isWellFormed] at h
    · rintro ⟨⟩
  | _ =>
    constructor
    · intro _
      constructor
    · intro _
      rfl

instance (t : Ty) : Decidable t.WellFormed := decidable_of_iff _ Ty.isWellFormed_iff

/-! ### Tensors -/

theorem Ty.tensor?_of_isElement {t : Ty} (h : t.isElement = true) : t.tensor? = none := by
  cases t <;> simp_all [Ty.tensor?]

theorem Ty.tensor?_eq_some {t : Ty} {view : Tensor} : t.tensor? = some view ↔ t = view.ty := by
  unfold Tensor.ty
  cases t with
  | tensor element shape =>
    obtain ⟨element', shape'⟩ := view
    simp [Ty.tensor?]
  | _ => simp [Ty.tensor?]

theorem Ty.needTensor_eq_ok {what : String} {t : Ty} {view : Tensor} :
    t.needTensor what = .ok view ↔ t = view.ty := by
  rw [← tensor?_eq_some, needTensor]
  cases t.tensor? <;> simp

theorem Ty.needTensor_tensor (element : Ty) (shape : Shape) (what : String) :
    (Ty.tensor element shape).needTensor what = .ok ⟨element, shape⟩ :=
  rfl

@[simp] theorem Tensor.needTensor_ty (t : Tensor) (what : String) : t.ty.needTensor what = .ok t :=
  Ty.needTensor_eq_ok.mpr rfl

theorem Ty.collect_needTensor_eq_ok {what : String} {types : List Ty} {tensors : List Tensor} :
    collect (Ty.needTensor · what) types = .ok tensors ↔ types = tensors.map Tensor.ty :=
  Check.collect_eq_ok_iff_map fun _ _ => needTensor_eq_ok

theorem Tensor.ty_injective : Function.Injective Tensor.ty := by
  rintro ⟨element, shape⟩ ⟨element', shape'⟩ same
  simpa [ty] using same

/-- What is compatible with a tensor is a tensor. -/
theorem Tensor.exists_of_compatible {relaxed : Bool} {t : Tensor} {other : Ty}
    (agree : Ty.compatible relaxed t.ty other = true) : ∃ view : Tensor, other = view.ty := by
  cases other with
  | tensor element shape => exact ⟨⟨element, shape⟩, rfl⟩
  | _ => simp [Ty.compatible, ty] at agree

theorem Tensor.nonneg_of_wellFormed {t : Tensor} {dims : List Int} (form : t.ty.WellFormed)
    (shape : t.shape = .ranked (dims.map some)) : ∀ extent ∈ dims, 0 ≤ extent := by
  cases form with
  | tensor _ _ extents =>
    intro extent member
    exact extents _ shape (some extent) (List.mem_map_of_mem member) extent rfl

theorem Tensor.form_eq_ok {element : Ty} {shape : Shape} {t : Tensor} :
    Tensor.form element shape = .ok t ↔
      element.isElement = true ∧ shape.WellFormed ∧ ⟨element, shape⟩ = t := by
  rw [← Shape.badExtent?_eq_none]
  unfold Tensor.form
  cases element.isElement with
  | false => simp
  | true => cases shape.badExtent? <;> simp

end TensorTyping
