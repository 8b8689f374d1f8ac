import TensorTyping.Proofs.Check
import TensorTyping.Proofs.Ty.Elements
import TensorTyping.Proofs.Ty.Refinement

/-!
# Unification

Unifying two types succeeds when they are compatible, and gives `Ty.merge`, which keeps what is
known of either. A list of types is unified from the left. That this decides whether the types are
pairwise compatible rests on one fact: what agrees with two compatible types agrees with their
merge. The result is the least upper bound of the list in the refinement order.
-/

namespace TensorTyping

/-! ### Agreement of shapes -/

/-- Whatever agrees with two extents that agree is what agrees with their refinement. -/
theorem Extent.compatible_refine {a b : Extent} (agree : a.compatible b = true) (c : Extent) :
    (a.refine b).compatible c = true ↔ a.compatible c = true ∧ b.compatible c = true := by
  cases a <;> cases b <;> cases c <;> simp_all [Extent.compatible, Extent.refine]

namespace Shape

theorem compatibleDims_comm (a b : List Extent) : compatibleDims a b = compatibleDims b a := by
  induction a generalizing b with
  | nil => cases b <;> rfl
  | cons dim rest ih =>
    cases b with
    | nil => rfl
    | cons dim' rest' => simp only [compatibleDims, Extent.compatible_comm dim, ih]

theorem compatible_comm (s t : Shape) : s.compatible t = t.compatible s := by
  cases s <;> cases t <;> simp [compatible, compatibleDims_comm]

@[simp] theorem compatible_self (s : Shape) : s.compatible s = true := by
  cases s with
  | unranked => rfl
  | ranked dims =>
    rw [compatible]
    induction dims with
    | nil => rfl
    | cons dim rest ih => simp [compatibleDims, ih]

theorem compatibleDims_refineDims {a b : List Extent} (agree : compatibleDims a b = true)
    (c : List Extent) :
    compatibleDims (refineDims a b) c = true ↔
      compatibleDims a c = true ∧ compatibleDims b c = true := by
  induction a generalizing b c with
  | nil =>
    cases b with
    | nil => simp [refineDims]
    | cons => simp [compatibleDims] at agree
  | cons dim rest ih =>
    cases b with
    | nil => simp [compatibleDims] at agree
    | cons dim' rest' =>
      simp only [compatibleDims, Bool.and_eq_true] at agree
      cases c with
      | nil => simp [refineDims, compatibleDims]
      | cons dim'' rest'' =>
        have others := ih agree.2 rest''
        simp only [refineDims] at others
        simp only [refineDims, List.zipWith_cons_cons, compatibleDims, Bool.and_eq_true,
          Extent.compatible_refine agree.1, others]
        exact and_and_and_comm

theorem compatible_refine {s t : Shape} (agree : s.compatible t = true) (u : Shape) :
    (s.refine t).compatible u = true ↔ s.compatible u = true ∧ t.compatible u = true := by
  cases s <;> cases t <;> cases u <;>
    simp_all [compatible, refine, compatibleDims_refineDims]

end Shape

namespace Ty

variable {a b c : Ty} {relaxed : Bool} {what : String}

/-! ### Unifying two types -/

/-- What two compatible types say together, with the element types of the first. -/
def merge : Ty → Ty → Ty
  | .tensor element shape, .tensor _ shape' => .tensor element (shape.refine shape')
  | .tuple items, .tuple items' => .tuple (mergeAll items items')
  | a, _ => a
where
  /-- What two lists of types say together. -/
  mergeAll : List Ty → List Ty → List Ty
  | item :: rest, item' :: rest' => merge item item' :: mergeAll rest rest'
  | _, _ => []

attribute [local simp] compatible compatible.compatibleAll unify unify.unifyAll merge
  merge.mergeAll

/-- A tensor is compatible with tensors only, of compatible shapes and elements. -/
theorem compatible_tensor_iff {element : Ty} {shape : Shape} :
    compatible relaxed (.tensor element shape) b = true ↔
      ∃ element' shape', b = .tensor element' shape' ∧ shape.compatible shape' = true ∧
        compatibleElements relaxed element element' = true := by
  cases b with
  | tensor element' shape' => simp
  | _ => simp

theorem compatibleAll_iff {items items' : List Ty} :
    compatible.compatibleAll relaxed items items' = true ↔
      List.Forall₂ (fun x y => compatible relaxed x y = true) items items' := by
  induction items generalizing items' with
  | nil => cases items' <;> simp
  | cons item rest ih => cases items' <;> simp [ih]

theorem unifyTensors_eq_ok {s t u : Tensor} :
    unifyTensors what relaxed s t = .ok u ↔
      compatibleElements relaxed s.element t.element = true ∧ s.shape.compatible t.shape = true ∧
        u = ⟨s.element, s.shape.refine t.shape⟩ := by
  simp only [unifyTensors, Check.bind_eq_ok, Check.ensure_eq_ok, Check.pure_eq, Except.ok.injEq]
  constructor
  · rintro ⟨_, elements, _, shapes, rfl⟩
    exact ⟨elements, shapes, rfl⟩
  · rintro ⟨elements, shapes, rfl⟩
    exact ⟨(), elements, (), shapes, rfl⟩

theorem unifyAtoms_eq_ok :
    unifyAtoms what relaxed a b = .ok c ↔
      (a = .token ∧ b = .token ∨
        a.isElement = true ∧ b.isElement = true ∧ compatibleElements relaxed a b = true) ∧
      a = c := by
  unfold unifyAtoms
  cases a with
  | missing => simp [kind?, Check.bind_eq_ok]
  | token =>
    cases b <;> simp [kind?, Check.bind_eq_ok]
  | tensor => simp [kind?, Check.bind_eq_ok]
  | tuple => simp [kind?, Check.bind_eq_ok]
  | _ =>
    cases b <;> simp [kind?, Check.bind_eq_ok]

theorem unifyAll_eq_ok {items items' types : List Ty} (sizes : items.length = items'.length)
    (each : ∀ item ∈ items, ∀ item' t, unify what relaxed item item' = .ok t ↔
      compatible relaxed item item' = true ∧ merge item item' = t) :
    unify.unifyAll what relaxed items items' = .ok types ↔
      List.Forall₂ (fun x y => compatible relaxed x y = true) items items' ∧
        merge.mergeAll items items' = types := by
  induction items generalizing items' types with
  | nil =>
    obtain rfl := List.length_eq_zero_iff.mp sizes.symm
    simp
  | cons item rest ih =>
    cases items' with
    | nil => simp at sizes
    | cons item' rest' =>
      have others := fun types => @ih rest' types (Nat.succ.inj sizes)
        fun x member => each x (List.mem_cons_of_mem _ member)
      simp only [unify.unifyAll, merge.mergeAll, Check.bind_eq_ok, others,
        each item List.mem_cons_self, List.forall₂_cons, Check.pure_eq, Except.ok.injEq]
      constructor
      · rintro ⟨_, ⟨first, rfl⟩, _, ⟨rest, rfl⟩, rfl⟩
        exact ⟨⟨first, rest⟩, rfl⟩
      · rintro ⟨⟨first, rest⟩, rfl⟩
        exact ⟨_, ⟨first, rfl⟩, _, ⟨rest, rfl⟩, rfl⟩

/-- Two types can be unified when they are compatible, and their merge is the result. -/
theorem unify_eq_ok :
    unify what relaxed a b = .ok c ↔ compatible relaxed a b = true ∧ merge a b = c := by
  induction a using induct generalizing b c with
  | tensor element shape ih =>
    cases b with
    | tensor element' shape' =>
      simp only [unify, Check.map_eq_ok, unifyTensors_eq_ok, compatible, merge, Bool.and_eq_true]
      constructor
      · rintro ⟨_, ⟨elements, shapes, rfl⟩, rfl⟩
        exact ⟨⟨shapes, elements⟩, rfl⟩
      · rintro ⟨⟨shapes, elements⟩, rfl⟩
        exact ⟨_, ⟨elements, shapes, rfl⟩, rfl⟩
    | _ => simp [unifyAtoms_eq_ok]
  | tuple items ih =>
    cases b with
    | tuple items' =>
      simp only [unify, compatible, merge, compatibleAll_iff]
      by_cases sizes : items.length = items'.length
      · simp only [sizes, if_true, Check.map_eq_ok,
          unifyAll_eq_ok sizes fun item member item' t => ih item member]
        constructor
        · rintro ⟨_, ⟨all, rfl⟩, rfl⟩
          exact ⟨all, rfl⟩
        · rintro ⟨all, rfl⟩
          exact ⟨_, ⟨all, rfl⟩, rfl⟩
      · simp only [sizes, if_false, Check.reject_ne_ok, false_iff, not_and]
        intro all
        exact absurd all.length_eq sizes
    | _ => simp [unifyAtoms_eq_ok]
  | _ => cases b <;> simp [unifyAtoms_eq_ok]

/-! ### Agreement of types -/

theorem compatible_of_isElement (h : a.isElement = true) :
    compatible relaxed a b = (b.isElement && compatibleElements relaxed a b) := by
  cases a <;> cases b <;> simp_all

theorem compatible_refl (h : a.WellFormed) : compatible relaxed a a = true := by
  induction a using induct with
  | tensor element shape ih =>
    cases h with
    | tensor _ formed _ => simp [compatibleElements_refl formed]
  | tuple items ih =>
    cases h with
    | tuple formed =>
      rw [compatible, compatibleAll_iff, List.forall₂_same]
      intro item member
      exact ih item member (formed item member)
  | token => rfl
  | missing => cases h
  | _ => simp [compatibleElements_refl h]

theorem compatible_symm (ha : a.WellFormed) (hb : b.WellFormed)
    (h : compatible relaxed a b = true) : compatible relaxed b a = true := by
  induction a using induct generalizing b with
  | tensor element shape ih =>
    cases hb with
    | tensor _ formed' _ =>
      cases ha with
      | tensor _ formed _ =>
        simp only [compatible, Bool.and_eq_true] at h ⊢
        rw [Shape.compatible_comm]
        exact ⟨h.1, compatibleElements_symm formed formed' h.2⟩
    | _ => simp at h
  | tuple items ih =>
    cases hb with
    | tuple formed' =>
      cases ha with
      | tuple formed =>
        simp only [compatible, compatibleAll_iff] at h ⊢
        refine forall₂_swap h fun item member item' member' => ?_
        exact ih item member (formed item member) (formed' item' member')
    | _ => simp at h
  | token => cases b <;> simp_all
  | missing => cases ha
  | _ =>
    rw [compatible_of_isElement rfl, Bool.and_eq_true] at h
    rw [compatible_of_isElement h.1]
    simp [compatibleElements_symm ha hb h.2]

/-- Elements that agree agree with the same elements. -/
theorem compatibleElements_eq (ha : a.WellFormed) (hb : b.WellFormed) (hc : c.WellFormed)
    (agree : compatibleElements relaxed a b = true) :
    compatibleElements relaxed b c = compatibleElements relaxed a c := by
  apply Bool.eq_iff_iff.mpr
  constructor
  · exact compatibleElements_trans hb hc agree
  · exact compatibleElements_trans ha hc (compatibleElements_symm ha hb agree)

theorem merge_of_isElement (h : a.isElement = true) (b : Ty) : merge a b = a := by
  cases a <;> cases b <;> simp_all

theorem forall₂_compatible_mergeAll {as bs cs : List Ty}
    (agree : List.Forall₂ (fun x y => compatible relaxed x y = true) as bs)
    (each : ∀ x ∈ as, ∀ y ∈ bs, ∀ z ∈ cs, compatible relaxed x y = true →
      (compatible relaxed (merge x y) z = true ↔
        compatible relaxed x z = true ∧ compatible relaxed y z = true)) :
    List.Forall₂ (fun x y => compatible relaxed x y = true) (merge.mergeAll as bs) cs ↔
      List.Forall₂ (fun x y => compatible relaxed x y = true) as cs ∧
        List.Forall₂ (fun x y => compatible relaxed x y = true) bs cs := by
  induction agree generalizing cs with
  | nil => simp
  | cons first _ ih =>
    cases cs with
    | nil => simp
    | cons z zs =>
      simp only [List.forall_mem_cons] at each
      simp only [merge.mergeAll, List.forall₂_cons, each.1.1.1 first,
        ih fun x hx y hy z hz => (each.2 x hx).2 y hy |>.2 z hz]
      exact and_and_and_comm

/-- Whatever agrees with two types that agree is what agrees with their merge. -/
theorem compatible_merge (ha : a.WellFormed) (hb : b.WellFormed) (hc : c.WellFormed)
    (agree : compatible relaxed a b = true) :
    compatible relaxed (merge a b) c = true ↔
      compatible relaxed a c = true ∧ compatible relaxed b c = true := by
  induction a using induct generalizing b c with
  | tensor element shape ih =>
    cases hb with
    | tensor isElement' formed' _ =>
      cases hc with
      | tensor isElement'' formed'' _ =>
        cases ha with
        | tensor _ formed _ =>
          simp only [compatible, Bool.and_eq_true] at agree
          simp only [merge, compatible, Bool.and_eq_true, Shape.compatible_refine agree.1,
            compatibleElements_eq formed formed' formed'' agree.2]
          exact and_and_right
      | _ => simp
    | _ => simp at agree
  | tuple items ih =>
    cases hb with
    | tuple formed' =>
      cases hc with
      | tuple formed'' =>
        cases ha with
        | tuple formed =>
          simp only [compatible, compatibleAll_iff] at agree
          simp only [merge, compatible, compatibleAll_iff]
          refine forall₂_compatible_mergeAll agree fun x hx y hy z hz agree => ?_
          exact ih x hx (formed x hx) (formed' y hy) (formed'' z hz) agree
      | _ => simp
    | _ => simp at agree
  | token =>
    cases b <;> simp at agree
    simp only [merge, and_self]
  | missing => cases ha
  | _ =>
    rw [compatible_of_isElement rfl, Bool.and_eq_true] at agree
    rw [merge_of_isElement rfl, compatible_of_isElement rfl, compatible_of_isElement agree.1,
      compatibleElements_eq ha hb hc agree.2, and_self]

/-! ### Asking for compatibility -/

theorem asksMissing_of_compatible (agree : compatible relaxed a b = true) :
    asksMissing relaxed a b = false := by
  induction a using induct generalizing b with
  | tuple items ih =>
    cases b with
    | tuple items' =>
      rw [compatible, compatibleAll_iff] at agree
      rw [asksMissing, agree.length_eq, beq_self_eq_true, Bool.true_and]
      induction agree with
      | nil => rfl
      | cons first _ rest =>
        simp only [List.forall_mem_cons] at ih
        simp [asksMissing.asksMissingAll, ih.1 first, rest ih.2]
    | _ => simp at agree
  | tensor => cases b <;> simp_all [asksMissing]
  | _ => cases b <;> simp_all [asksMissing]

/-- Types are found compatible when they are; a missing type is not asked for then. -/
theorem checkCompatible_eq_ok_true :
    checkCompatible a b relaxed = .ok true ↔ compatible relaxed a b = true := by
  unfold checkCompatible
  constructor
  · intro h
    split at h
    · simp at h
    · simpa using h
  · intro agree
    simp [asksMissing_of_compatible agree, agree]

/-! ### Merging in the refinement order -/

theorem mergeAll_refines_left {as bs : List Ty}
    (agree : List.Forall₂ (fun x y => compatible relaxed x y = true) as bs)
    (each : ∀ x ∈ as, ∀ y, compatible relaxed x y = true → (merge x y).Refines x) :
    RefinesAll (merge.mergeAll as bs) as := by
  induction agree with
  | nil => exact .nil
  | cons first _ ih =>
    simp only [List.forall_mem_cons] at each
    exact .cons (each.1 _ first) (ih each.2)

/-- What two types say together refines the first of them. -/
theorem merge_refines_left (agree : compatible relaxed a b = true) : (merge a b).Refines a := by
  induction a using induct generalizing b with
  | tensor element shape ih =>
    cases b with
    | tensor element' shape' =>
      simp only [compatible, Bool.and_eq_true] at agree
      exact .tensor (same_refl element) (Shape.refine_refines_left agree.1)
    | _ => simp at agree
  | tuple items ih =>
    cases b with
    | tuple items' =>
      rw [compatible, compatibleAll_iff] at agree
      exact .tuple (mergeAll_refines_left agree fun x member y h => ih x member h)
    | _ => simp at agree
  | _ => cases b <;> exact .refl _

theorem mergeAll_refines_right {as bs : List Ty} {related : Ty → Ty → Prop}
    (agree : List.Forall₂ (fun x y => compatible relaxed x y = true) as bs)
    (each : ∀ x ∈ as, ∀ y, compatible relaxed x y = true → (merge x y).RefinesUpTo related y) :
    List.Forall₂ (RefinesUpTo related) (merge.mergeAll as bs) bs := by
  induction agree with
  | nil => exact .nil
  | cons first _ ih =>
    simp only [List.forall_mem_cons] at each
    exact .cons (each.1 _ first) (ih each.2)

/-- What two types say together refines the second of them, up to compatible elements. -/
theorem merge_refines_right (agree : compatible relaxed a b = true) :
    (merge a b).RefinesUpTo (fun x y => compatibleElements relaxed x y = true) b := by
  induction a using induct generalizing b with
  | tensor element shape ih =>
    cases b with
    | tensor element' shape' =>
      simp only [compatible, Bool.and_eq_true] at agree
      exact .tensor agree.2 (Shape.refine_refines_right agree.1)
    | _ => simp at agree
  | tuple items ih =>
    cases b with
    | tuple items' =>
      rw [compatible, compatibleAll_iff] at agree
      exact .tuple (mergeAll_refines_right agree fun x member y h => ih x member h)
    | _ => simp at agree
  | token =>
    cases b <;> simp at agree
    exact .token
  | missing => cases b <;> simp at agree
  | _ =>
    rw [compatible_of_isElement rfl, Bool.and_eq_true] at agree
    rw [merge_of_isElement rfl]
    exact .element rfl agree.1 agree.2

/-- A type that refines two others refines what they say together. -/
theorem RefinesUpTo.merge_least {related related' : Ty → Ty → Prop}
    (ha : c.RefinesUpTo related a) (hb : c.RefinesUpTo related' b) :
    c.RefinesUpTo related (merge a b) := by
  induction a using induct generalizing b c with
  | tensor element shape ih =>
    cases ha with
    | element _ isElement => simp at isElement
    | tensor elements shapes =>
      cases hb with
      | element isElement => simp at isElement
      | tensor _ shapes' => exact .tensor elements (shapes.refine_least shapes')
  | tuple items ih =>
    cases ha with
    | element _ isElement => simp at isElement
    | tuple all =>
      cases hb with
      | element isElement => simp at isElement
      | tuple all' =>
        refine .tuple ?_
        rename_i fine items'
        induction all generalizing items' with
        | nil => exact .nil
        | cons first _ rest =>
          obtain ⟨_, _, first', others, rfl⟩ := List.forall₂_cons_left_iff.mp all'
          simp only [List.forall_mem_cons] at ih
          exact .cons (ih.1 first first') (rest ih.2 others)
  | token => cases b <;> exact ha
  | missing => cases b <;> exact ha
  | _ =>
    rw [merge_of_isElement rfl]
    exact ha

end Ty

end TensorTyping
