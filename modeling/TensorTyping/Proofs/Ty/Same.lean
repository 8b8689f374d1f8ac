import Mathlib.Data.List.Forall2
import TensorTyping.Ty.Compat

/-!
# Sameness of types

`Ty.same` is an equivalence relation, and what the library asks of an element type (its kind, its
width, whether it is compatible with another one) does not tell types apart that are the same.
-/

namespace TensorTyping

theorem Binary64.same_refl (x : Binary64) : x.same x = true := by
  simp [Binary64.same]

theorem Binary64.same_comm (x y : Binary64) : x.same y = y.same x := by
  unfold Binary64.same
  rw [Bool.beq_comm, Bool.and_comm]

theorem Binary64.same_trans {x y z : Binary64} (hxy : x.same y = true) (hyz : y.same z = true) :
    x.same z = true := by
  simp only [Binary64.same, Bool.or_eq_true, beq_iff_eq, Bool.and_eq_true] at *
  rcases hxy with rfl | ⟨hx, hy⟩
  · exact hyz
  · rcases hyz with rfl | ⟨-, hz⟩
    · exact Or.inr ⟨hx, hy⟩
    · exact Or.inr ⟨hx, hz⟩

namespace Ty

/-- Induction on a type, in which the items of a tuple are reached through membership. -/
theorem induct {motive : Ty → Prop}
    (int : ∀ width signed, motive (.int width signed)) (bool : motive .bool)
    (float : ∀ format, motive (.float format)) (complex : ∀ component, motive (.complex component))
    (quantized : ∀ storage expressed scale zeroPoint, motive storage → motive expressed →
      motive (.quantized storage expressed scale zeroPoint))
    (tensor : ∀ element shape, motive element → motive (.tensor element shape))
    (tuple : ∀ items, (∀ item ∈ items, motive item) → motive (.tuple items))
    (token : motive .token) (missing : motive .missing) (t : Ty) : motive t :=
  @Ty.rec motive (fun items => ∀ item ∈ items, motive item) int bool float complex quantized tensor
    tuple token missing (fun _ member => absurd member List.not_mem_nil)
    (fun _ _ first others => List.forall_mem_cons.mpr ⟨first, others⟩) t

/-- A relation between the items of two tuples is turned around where it is between single items. -/
theorem forall₂_swap {related related' : Ty → Ty → Prop} {items items' : List Ty}
    (all : List.Forall₂ related items items')
    (swap : ∀ a ∈ items, ∀ b ∈ items', related a b → related' b a) :
    List.Forall₂ related' items' items := by
  induction all with
  | nil => exact .nil
  | cons first _ ih =>
    refine .cons (swap _ List.mem_cons_self _ List.mem_cons_self first) (ih ?_)
    intro a inside b inside'
    exact swap a (List.mem_cons_of_mem _ inside) b (List.mem_cons_of_mem _ inside')

/-- Relations between the items of three tuples compose where those between single items do. -/
theorem forall₂_comp {related related' both : Ty → Ty → Prop} {items items' items'' : List Ty}
    (all : List.Forall₂ related items items') (all' : List.Forall₂ related' items' items'')
    (compose : ∀ a ∈ items, ∀ b ∈ items', ∀ c ∈ items'', related a b → related' b c → both a c) :
    List.Forall₂ both items items'' := by
  induction all generalizing items'' with
  | nil =>
    cases all' with
    | nil => exact .nil
  | cons first _ ih =>
    cases all' with
    | cons first' others =>
      refine .cons (compose _ List.mem_cons_self _ List.mem_cons_self _ List.mem_cons_self first
        first') (ih others ?_)
      intro a inside b inside' c inside''
      exact compose a (List.mem_cons_of_mem _ inside) b (List.mem_cons_of_mem _ inside') c
        (List.mem_cons_of_mem _ inside'')

/-! ### An equivalence relation -/

attribute [local simp] same same.sameAll

theorem sameAll_iff {a b : List Ty} :
    same.sameAll a b = true ↔ List.Forall₂ (fun x y => x.same y = true) a b := by
  induction a generalizing b with
  | nil => cases b <;> simp
  | cons x xs ih => cases b <;> simp [ih]

theorem same_refl (t : Ty) : t.same t = true := by
  induction t using induct with
  | quantized storage expressed scale zeroPoint hs he => simp [hs, he, Binary64.same_refl]
  | tensor element shape h => simp [h]
  | tuple items h => simpa [sameAll_iff, List.forall₂_same] using h
  | _ => simp

theorem same_symm {a b : Ty} (h : a.same b = true) : b.same a = true := by
  induction a using induct generalizing b with
  | quantized storage expressed scale zeroPoint hs he =>
    cases b <;> simp only [same, Bool.false_eq_true, Bool.and_eq_true, beq_iff_eq] at h ⊢
    obtain ⟨⟨⟨hstorage, hexpressed⟩, hscale⟩, rfl⟩ := h
    rw [Binary64.same_comm]
    exact ⟨⟨⟨hs hstorage, he hexpressed⟩, hscale⟩, rfl⟩
  | tensor element shape ih =>
    cases b <;> simp only [same, Bool.false_eq_true, Bool.and_eq_true, beq_iff_eq] at h ⊢
    exact ⟨ih h.1, h.2.symm⟩
  | tuple items ih =>
    cases b with
    | tuple items' =>
      simp only [same, sameAll_iff] at h ⊢
      exact forall₂_swap h fun item member _ _ => ih item member
    | _ => simp at h
  | _ => cases b <;> simp_all

theorem same_trans {a b c : Ty} (hab : a.same b = true) (hbc : b.same c = true) :
    a.same c = true := by
  induction a using induct generalizing b c with
  | quantized storage expressed scale zeroPoint hs he =>
    cases b <;> simp only [same, Bool.false_eq_true, Bool.and_eq_true, beq_iff_eq] at hab
    cases c <;> simp only [same, Bool.false_eq_true, Bool.and_eq_true, beq_iff_eq] at hbc ⊢
    obtain ⟨⟨⟨hstorage, hexpressed⟩, hscale⟩, rfl⟩ := hab
    obtain ⟨⟨⟨hstorage', hexpressed'⟩, hscale'⟩, rfl⟩ := hbc
    exact ⟨⟨⟨hs hstorage hstorage', he hexpressed hexpressed'⟩,
      Binary64.same_trans hscale hscale'⟩, rfl⟩
  | tensor element shape ih =>
    cases b <;> simp only [same, Bool.false_eq_true, Bool.and_eq_true, beq_iff_eq] at hab
    cases c <;> simp only [same, Bool.false_eq_true, Bool.and_eq_true, beq_iff_eq] at hbc ⊢
    exact ⟨ih hab.1 hbc.1, hab.2.trans hbc.2⟩
  | tuple items ih =>
    cases b <;> simp only [same, Bool.false_eq_true, sameAll_iff] at hab
    cases c <;> simp only [same, Bool.false_eq_true, sameAll_iff] at hbc ⊢
    exact forall₂_comp hab hbc fun item member _ _ _ _ => ih item member
  | _ => cases b <;> cases c <;> simp_all

theorem same_congr {a a' b b' : Ty} (ha : a'.same a = true) (hb : b'.same b = true) :
    a'.same b' = a.same b :=
  Bool.eq_iff_iff.mpr
    ⟨fun h => same_trans (same_symm ha) (same_trans h hb),
      fun h => same_trans ha (same_trans h (same_symm hb))⟩

/-! ### What does not tell same types apart -/

variable {a b : Ty}

theorem kind?_of_same (h : a.same b = true) : a.kind? = b.kind? := by
  cases a <;> cases b <;> simp_all [kind?]

theorem isInteger_eq (t : Ty) : t.isInteger = decide (t.kind? = some .integer) := by
  cases t <;> rfl

theorem isBool_eq (t : Ty) : t.isBool = decide (t.kind? = some .boolean) := by
  cases t <;> rfl

theorem isFloat_eq (t : Ty) : t.isFloat = decide (t.kind? = some .float) := by
  cases t <;> rfl

theorem isComplex_eq (t : Ty) : t.isComplex = decide (t.kind? = some .complex) := by
  cases t <;> rfl

theorem isQuantized_eq (t : Ty) : t.isQuantized = decide (t.kind? = some .quantized) := by
  cases t <;> rfl

@[simp] theorem isElement_int (width : IntWidth) (signed : Bool) :
    (Ty.int width signed).isElement = true := rfl

@[simp] theorem isElement_bool : Ty.bool.isElement = true := rfl

@[simp] theorem isElement_float (format : FloatFormat) : (Ty.float format).isElement = true := rfl

@[simp] theorem isElement_complex (component : FloatFormat) :
    (Ty.complex component).isElement = true := rfl

@[simp] theorem isElement_quantized (storage expressed : Ty) (scale : Binary64) (zeroPoint : Int) :
    (Ty.quantized storage expressed scale zeroPoint).isElement = true := rfl

@[simp] theorem isElement_tensor (element : Ty) (shape : Shape) :
    (Ty.tensor element shape).isElement = false := rfl

@[simp] theorem isElement_tuple (items : List Ty) : (Ty.tuple items).isElement = false := rfl

@[simp] theorem isElement_token : Ty.token.isElement = false := rfl

@[simp] theorem isElement_missing : Ty.missing.isElement = false := rfl

theorem isElement_of_same (h : a.same b = true) : a.isElement = b.isElement := by
  simp only [isElement, isInteger_eq, isBool_eq, isFloat_eq, isComplex_eq, isQuantized_eq,
    kind?_of_same h]

theorem bitwidth?_of_same (h : a.same b = true) : a.bitwidth? = b.bitwidth? := by
  induction a using induct generalizing b with
  | quantized storage expressed scale zeroPoint hs he =>
    cases b <;> simp only [same, Bool.false_eq_true, Bool.and_eq_true] at h
    simpa only [bitwidth?] using hs h.1.1.1
  | _ => cases b <;> simp_all [bitwidth?]

/-- Only quantized types, tensors and tuples have parts that may differ. -/
theorem eq_of_same_float {format : FloatFormat} (h : a.same (.float format) = true) :
    a = .float format := by
  cases a <;> simp_all

theorem eq_of_same_complex {component : FloatFormat} (h : a.same (.complex component) = true) :
    a = .complex component := by
  cases a <;> simp_all

theorem elementType_same (h : a.same b = true) : a.elementType.same b.elementType = true := by
  cases a <;> cases b <;> simp_all [elementType]

end Ty

end TensorTyping
