import TensorTyping.Proofs.Ty.UnifyList

/-!
# Types without misuse

The parts of a well-formed type can be asked for everything that a rule asks for. The checks on
types that the rules share therefore end in a value or in a diagnostic, and where they give types,
these are well-formed again.
-/

namespace TensorTyping

open Check

variable {excused : Misuse → Prop}

/-! ### Extents and shapes -/

@[simp] theorem Extent.wellFormed_none : Extent.WellFormed none := by
  intro n known
  cases known

@[simp] theorem Extent.wellFormed_some {n : Int} : Extent.WellFormed (some n) ↔ 0 ≤ n := by
  simp [Extent.WellFormed]

theorem Extent.WellFormed.refine {a b : Extent} (ha : a.WellFormed) (hb : b.WellFormed) :
    (a.refine b).WellFormed := by
  cases a with
  | none => exact hb
  | some n => exact ha

/-- An extent at some position of a list, or unknown beyond it. -/
theorem Extent.WellFormed.getElem?_join {dims : List Extent}
    (all : ∀ dim ∈ dims, dim.WellFormed) (i : Nat) : Extent.WellFormed dims[i]?.join := by
  cases found : dims[i]? with
  | none => exact Extent.wellFormed_none
  | some dim => exact all dim (List.mem_of_getElem? found)

@[simp] theorem Shape.wellFormed_unranked : Shape.WellFormed .unranked := by
  intro dims ranked
  cases ranked

@[simp] theorem Shape.wellFormed_ranked {dims : List Extent} :
    Shape.WellFormed (.ranked dims) ↔ ∀ dim ∈ dims, dim.WellFormed := by
  simp [Shape.WellFormed]

theorem Shape.WellFormed.extent {s : Shape} (form : s.WellFormed) (i : Nat) :
    (s.extent i).WellFormed := by
  cases s with
  | unranked => exact Extent.wellFormed_none
  | ranked dims => exact Extent.WellFormed.getElem?_join (form dims rfl) i

theorem Extent.WellFormed.without {dims : List Extent} (all : ∀ dim ∈ dims, dim.WellFormed)
    (positions : List Int) : ∀ dim ∈ Shape.without dims positions, dim.WellFormed := by
  intro dim member
  obtain ⟨⟨dim', i⟩, inside, rfl⟩ := List.mem_map.mp member
  exact all dim' (List.fst_mem_of_mem_zipIdx (List.mem_filter.mp inside).1)

/-! ### Tensors -/

/-- The tensor can be formed. -/
structure Tensor.WellFormed (t : Tensor) : Prop where
  isElement : t.element.isElement = true
  element : t.element.WellFormed
  shape : t.shape.WellFormed

theorem Tensor.WellFormed.ty {t : Tensor} (form : t.WellFormed) : t.ty.WellFormed :=
  .tensor form.isElement form.element form.shape

theorem Ty.WellFormed.tensor? {t : Ty} {view : Tensor} (form : t.WellFormed)
    (found : t = view.ty) : view.WellFormed := by
  subst found
  cases form with
  | tensor isElement element shape => exact ⟨isElement, element, shape⟩

/-- A tensor over the elements of another one. -/
theorem Tensor.WellFormed.withShape {t : Tensor} (form : t.WellFormed) {shape : Shape}
    (formed : shape.WellFormed) : (Ty.tensor t.element shape).WellFormed :=
  .tensor form.isElement form.element formed

theorem Tensor.WellFormed.unranked {t : Tensor} (form : t.WellFormed) :
    (Tensor.unranked t.element).WellFormed :=
  ⟨form.isElement, form.element, Shape.wellFormed_unranked⟩

theorem Tensor.WellFormed.dim {t : Tensor} (form : t.WellFormed) {d : Int} (has : t.HasDim d) :
    Meets excused Extent.WellFormed (t.dim d) :=
  .of_ok has.dim_eq (form.shape.extent d.toNat)

theorem Tensor.scalar_wellFormed {element : Ty} (isElement : element.isElement = true)
    (form : element.WellFormed) : (Tensor.scalar element).WellFormed :=
  ⟨isElement, form, Shape.wellFormed_ranked.mpr (by simp)⟩

theorem Ty.needTensor_meets {t : Ty} (form : t.WellFormed) (what : String) :
    Meets excused Tensor.WellFormed (t.needTensor what) := by
  unfold Ty.needTensor
  cases found : t.tensor? with
  | none => exact .reject _ _ _
  | some view =>
    refine form.tensor? ?_
    cases t with
    | tensor element shape => exact congrArg Tensor.ty (Option.some.inj found)
    | _ => cases found

theorem Tensor.form_meets {element : Ty} {shape : Shape} (isElement : element.isElement = true)
    (formed : element.WellFormed) (shapeForm : shape.WellFormed) :
    Meets excused Tensor.WellFormed (Tensor.form element shape) := by
  have success := Tensor.form_eq_ok.mpr ⟨isElement, shapeForm, rfl⟩
  exact .of_ok success ⟨isElement, formed, shapeForm⟩

/-- All types are well-formed. -/
def Ty.FormedAll (types : List Ty) : Prop := ∀ t ∈ types, t.WellFormed

theorem collect_needTensor_meets {types : List Ty} (all : Ty.FormedAll types) (what : String) :
    Meets excused (fun tensors => ∀ t ∈ tensors, t.WellFormed)
      (collect (Ty.needTensor · what) types) :=
  .collect fun t member => Ty.needTensor_meets (all t member) what

theorem Ty.FormedAll.single {t : Ty} (form : t.WellFormed) : Ty.FormedAll [t] := by
  intro t' member
  rwa [List.mem_singleton.mp member]

/-- Quantized elements are stored as integers and express floating-point numbers. -/
def Ty.Calibrated (t : Ty) : Prop :=
  ∀ storage expressed scale zeroPoint,
    t.elementType = .quantized storage expressed scale zeroPoint →
      storage.isInteger = true ∧ expressed.isFloat = true

/-! ### Compatibility and unification -/

namespace Ty

variable {a b : Ty} {relaxed : Bool} {what : String}

theorem WellFormed.kind? (form : a.WellFormed) : ∃ kind, a.kind? = some kind := by
  cases form <;> exact ⟨_, rfl⟩

theorem asksMissing_of_wellFormed (ha : a.WellFormed) (hb : b.WellFormed) :
    asksMissing relaxed a b = false := by
  induction a using induct generalizing b with
  | tuple items ih =>
    cases hb with
    | tuple formed' =>
      cases ha with
      | tuple formed =>
        rename_i items'
        rw [asksMissing]
        have items_asked : asksMissing.asksMissingAll relaxed items items' = false := by
          induction items generalizing items' with
          | nil => rfl
          | cons item rest others =>
            cases items' with
            | nil => rfl
            | cons item' rest' =>
              simp only [List.forall_mem_cons] at ih formed formed'
              simp [asksMissing.asksMissingAll, ih.1 formed.1 formed'.1,
                others ih.2 formed'.2 formed.2]
        rw [items_asked, Bool.and_false]
    | _ => rfl
  | missing => cases ha
  | _ => cases hb <;> rfl

theorem checkCompatible_meets (ha : a.WellFormed) (hb : b.WellFormed) :
    Meets excused (fun agree => agree = compatible relaxed a b) (checkCompatible a b relaxed) := by
  unfold checkCompatible
  rw [asksMissing_of_wellFormed ha hb]
  exact rfl

theorem unifyTensors_meets {s t : Tensor} (hs : s.WellFormed) (ht : t.WellFormed) :
    Meets excused Tensor.WellFormed (unifyTensors what relaxed s t) := by
  apply Meets.ensure.andThen
  apply Meets.ensure.andThen
  exact ⟨hs.isElement, hs.element, hs.shape.refine ht.shape⟩

theorem unifyAtoms_meets (ha : a.WellFormed) (hb : b.WellFormed) :
    Meets excused Ty.WellFormed (unifyAtoms what relaxed a b) := by
  obtain ⟨kind, found⟩ := ha.kind?
  obtain ⟨kind', found'⟩ := hb.kind?
  simp only [unifyAtoms, found, found', needPart, ok_bind]
  split
  · apply Meets.ensure.andThen
    exact ha
  · split
    · apply Meets.ensure.andThen
      apply Meets.ensure.andThen
      exact ha
    · trivial

theorem unify_meets (ha : a.WellFormed) (hb : b.WellFormed) :
    Meets excused Ty.WellFormed (unify what relaxed a b) := by
  induction a using induct generalizing b with
  | tensor element shape ih =>
    cases hb with
    | tensor isElement' element' shape' =>
      rw [unify]
      apply (unifyTensors_meets (ha.tensor? rfl) ⟨isElement', element', shape'⟩).map
      intro t _ form
      exact form.ty
    | _ => exact unifyAtoms_meets ha (by constructor <;> assumption)
  | tuple items ih =>
    cases hb with
    | tuple formed' =>
      cases ha with
      | tuple formed =>
        rename_i items'
        have each : Meets excused (fun types => ∀ t ∈ types, t.WellFormed)
            (unify.unifyAll what relaxed items items') := by
          induction items generalizing items' with
          | nil => simp [unify.unifyAll, Meets]
          | cons item rest others =>
            cases items' with
            | nil => simp [unify.unifyAll, Meets]
            | cons item' rest' =>
              simp only [List.forall_mem_cons] at ih formed formed'
              rw [unify.unifyAll]
              apply (ih.1 formed.1 formed'.1).bind
              intro first _ firstForm
              apply (others ih.2 formed'.2 formed.2).bind
              intro types _ form
              exact List.forall_mem_cons.mpr ⟨firstForm, form⟩
        rw [unify]
        split
        · apply each.map
          intro types _ form
          exact .tuple form
        · trivial
    | _ => exact unifyAtoms_meets ha (by constructor <;> assumption)
  | missing => cases ha
  | _ => cases hb <;> exact unifyAtoms_meets ha (by constructor <;> assumption)

theorem unifyList_meets {types : List Ty} (all : FormedAll types) :
    Meets excused Ty.WellFormed (unifyList types what relaxed) := by
  cases types with
  | nil => trivial
  | cons first rest =>
    rw [FormedAll, List.forall_mem_cons] at all
    apply Meets.foldlM all.1
    intro t form item member
    exact unify_meets form (all.2 item member)

theorem unifyTensorList_meets {tensors : List Tensor} (all : ∀ t ∈ tensors, t.WellFormed) :
    Meets excused Tensor.WellFormed (unifyTensorList tensors what) := by
  cases tensors with
  | nil => trivial
  | cons first rest =>
    rw [List.forall_mem_cons] at all
    apply Meets.foldlM all.1
    intro t form item member
    exact unifyTensors_meets form (all.2 item member)

theorem unifyLists_meets {lists : List (List Ty)} (all : ∀ types ∈ lists, FormedAll types) :
    Meets excused FormedAll (unifyLists lists what) := by
  apply Meets.ensure_bind
  intro same
  apply Meets.collect
  intro i inside
  have each : Meets excused FormedAll (collect (fun types => itemAt types i) lists) := by
    apply Meets.collect
    intro types member
    have length : types.length = (lists.map List.length).headD 0 := by
      have equal := List.all_eq_true.mp same _ (List.mem_map_of_mem member)
      exact beq_iff_eq.mp equal
    refine Meets.itemAt (all types member) (Int.natCast_nonneg i) ?_
    rw [length]
    exact Int.ofNat_lt.mpr (List.mem_range.mp inside)
  apply each.bind
  intro types _ formed
  exact unifyList_meets formed

theorem settle_meets {inferred : Ty} {declared : Option Ty} (form : inferred.WellFormed)
    (declaredForm : ∀ t ∈ declared, t.WellFormed) (operation : String) :
    Meets excused Ty.WellFormed (inferred.settle declared operation) := by
  cases declared with
  | none => exact form
  | some t =>
    have formed := declaredForm t rfl
    apply (checkCompatible_meets form formed).bind
    intro agree _ _
    apply Meets.ensure.andThen
    apply unifyList_meets
    simp [FormedAll, form, formed]

end Ty

end TensorTyping
