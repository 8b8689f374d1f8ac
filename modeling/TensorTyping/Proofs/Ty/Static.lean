import TensorTyping.Proofs.Refinement.Types

/-!
# Types without unknown extents

Compatibility is not transitive, since an unknown extent agrees with everything. It is transitive
through a type of which every extent is known, and through no other: the unknown extents of any
other type can be filled in in two ways that do not agree.
-/

namespace TensorTyping

/-! ### Agreement through a known shape -/

namespace Shape

theorem compatibleDims_trans {a b c : List Extent} (known : none ∉ b)
    (hab : compatibleDims a b = true) (hbc : compatibleDims b c = true) :
    compatibleDims a c = true := by
  induction b generalizing a c with
  | nil =>
    cases a with
    | nil => exact hbc
    | cons => simp [compatibleDims] at hab
  | cons dim rest ih =>
    cases a with
    | nil => simp [compatibleDims] at hab
    | cons dimA restA =>
      cases c with
      | nil => simp [compatibleDims] at hbc
      | cons dimC restC =>
        rw [List.mem_cons, not_or] at known
        simp only [compatibleDims, Bool.and_eq_true] at hab hbc ⊢
        refine ⟨?_, ih known.2 hab.2 hbc.2⟩
        cases dim with
        | none => exact absurd rfl known.1
        | some n => cases dimA <;> cases dimC <;> simp_all [Extent.compatible]

theorem compatible_trans {s t u : Shape} (static : t.isStatic = true)
    (hst : s.compatible t = true) (htu : t.compatible u = true) : s.compatible u = true := by
  cases t with
  | unranked => cases static
  | ranked dims =>
    cases s with
    | unranked => rfl
    | ranked dimsS =>
      cases u with
      | unranked => rfl
      | ranked dimsU =>
        refine compatibleDims_trans (fun unknown => ?_) hst htu
        have known := List.all_eq_true.mp static none unknown
        cases known

end Shape

namespace Ty

variable {a b c t : Ty} {relaxed : Bool}

/-- Every extent inside the type is known. -/
def isStatic : Ty → Bool
  | .tensor _ shape => shape.isStatic
  | .tuple items => allStatic items
  | _ => true
where
  /-- Every extent inside the items of a tuple is known. -/
  allStatic : List Ty → Bool
  | [] => true
  | item :: rest => item.isStatic && allStatic rest

theorem allStatic_iff {items : List Ty} :
    isStatic.allStatic items = true ↔ ∀ item ∈ items, item.isStatic = true := by
  induction items with
  | nil => simp [isStatic.allStatic]
  | cons item rest ih => simp [isStatic.allStatic, ih]

/-- Compatibility is transitive through a type of which every extent is known. -/
theorem compatible_trans (ha : a.WellFormed) (hb : b.WellFormed) (hc : c.WellFormed)
    (static : b.isStatic = true) (hab : compatible relaxed a b = true)
    (hbc : compatible relaxed b c = true) : compatible relaxed a c = true := by
  induction a using induct generalizing b c with
  | tensor element shape ih =>
    cases hb with
    | tensor _ formedB _ =>
      cases hc with
      | tensor _ formedC _ =>
        simp only [compatible, Bool.and_eq_true] at hab hbc ⊢
        exact ⟨Shape.compatible_trans static hab.1 hbc.1,
          compatibleElements_trans formedB formedC hab.2 hbc.2⟩
      | _ => simp [compatible] at hbc
    | _ => simp [compatible] at hab
  | tuple items ih =>
    cases hb with
    | tuple formedB =>
      cases hc with
      | tuple formedC =>
        cases ha with
        | tuple formedA =>
          rw [isStatic, allStatic_iff] at static
          simp only [compatible, compatibleAll_iff] at hab hbc ⊢
          refine forall₂_comp hab hbc fun item member mid member' last member'' => ?_
          exact ih item member (formedA item member) (formedB mid member') (formedC last member'')
            (static mid member')
      | _ => simp [compatible] at hbc
    | _ => simp [compatible] at hab
  | token =>
    cases b <;> simp [compatible] at hab
    exact hbc
  | missing => cases ha
  | _ =>
    rw [compatible_of_isElement rfl, Bool.and_eq_true] at hab
    rw [compatible_of_isElement hab.1, Bool.and_eq_true] at hbc
    rw [compatible_of_isElement rfl, hbc.1, Bool.true_and]
    exact compatibleElements_trans hb hc hab.2 hbc.2

end Ty

/-! ### Filling in what is unknown -/

/-- The shape with every unknown extent filled in, an unranked one being given one dimension. -/
def Shape.filled (n : Int) : Shape → Shape
  | .unranked => .ranked [some n]
  | .ranked dims => .ranked (dims.map fun dim => some (dim.getD n))

namespace Shape

variable {n m : Int} {s : Shape}

theorem filled_refines (n : Int) (s : Shape) : (s.filled n).Refines s := by
  cases s with
  | unranked => exact .unranked _
  | ranked dims =>
    refine .ranked (List.forall₂_map_left_iff.mpr (List.forall₂_same.mpr fun dim _ => ?_))
    cases dim with
    | none => exact .unknown _
    | some k => exact .refl _

theorem WellFormed.filled (formed : s.WellFormed) (nonneg : 0 ≤ n) : (s.filled n).WellFormed := by
  rintro dims same dim member k rfl
  cases s with
  | unranked =>
    obtain rfl := Shape.ranked.inj same
    obtain rfl : k = n := by simpa using member
    exact nonneg
  | ranked dims' =>
    obtain rfl := Shape.ranked.inj same
    obtain ⟨dim', member', filled⟩ := List.mem_map.mp member
    obtain rfl := Option.some.inj filled
    cases dim' with
    | none => exact nonneg
    | some k => exact formed dims' rfl _ member' k rfl

/-- Two ways to fill in a shape agree only where nothing is unknown. -/
theorem isStatic_of_filled (apart : n ≠ m)
    (agree : (s.filled n).compatible (s.filled m) = true) : s.isStatic = true := by
  cases s with
  | unranked => simp [filled, compatible, compatibleDims, Extent.compatible, apart] at agree
  | ranked dims =>
    rw [isStatic, List.all_eq_true]
    rw [filled, filled, compatible] at agree
    induction dims with
    | nil => simp
    | cons dim rest ih =>
      simp only [List.map_cons, compatibleDims, Bool.and_eq_true] at agree
      refine List.forall_mem_cons.mpr ⟨?_, ih agree.2⟩
      cases dim with
      | none => simp [Extent.compatible, apart] at agree
      | some k => rfl

theorem refinesDims_of_filled {dims dims' : List Extent} (apart : n ≠ m)
    (first : compatibleDims dims' (dims.map fun dim => some (dim.getD n)) = true)
    (second : compatibleDims dims' (dims.map fun dim => some (dim.getD m)) = true) :
    RefinesDims dims dims' := by
  induction dims generalizing dims' with
  | nil =>
    cases dims' with
    | nil => exact .nil
    | cons => simp [compatibleDims] at first
  | cons dim rest ih =>
    cases dims' with
    | nil => simp [compatibleDims] at first
    | cons dim' rest' =>
      simp only [List.map_cons, compatibleDims, Bool.and_eq_true] at first second
      refine .cons ?_ (ih first.2 second.2)
      cases dim' with
      | none => exact .unknown _
      | some k =>
        cases dim with
        | none =>
          simp only [Extent.compatible, Option.getD_none, beq_iff_eq] at first second
          exact absurd (first.1.symm.trans second.1) apart
        | some k' =>
          simp only [Extent.compatible, Option.getD_some, beq_iff_eq] at first
          rw [first.1]
          exact .refl _

/-- A shape refines another one just when the known shapes that agree with it agree with the other
    one as well. -/
theorem refines_iff_static {t : Shape} (formed : s.WellFormed) :
    s.Refines t ↔ ∀ u : List Int, (∀ k ∈ u, 0 ≤ k) →
      s.compatible (.ranked (u.map some)) = true → t.compatible (.ranked (u.map some)) = true := by
  constructor
  · intro refines u _ agree
    exact refines.compatible (.refl _) agree
  · intro all
    cases t with
    | unranked => exact .unranked _
    | ranked dims' =>
      cases s with
      | unranked =>
        -- shapes of any rank agree with an unranked one
        have empty := all [] (by simp) rfl
        have single := all [0] (by simp) rfl
        cases dims' <;> simp [compatible, compatibleDims] at empty single
      | ranked dims =>
        have filled : ∀ n : Int, 0 ≤ n →
            compatibleDims dims' (dims.map fun dim => some (dim.getD n)) = true := by
          intro n nonneg
          have agree := (filled_refines n (.ranked dims)).compatible (.refl _) (compatible_self _)
          have extents : ∀ k ∈ dims.map fun dim => dim.getD n, 0 ≤ k := by
            intro k member
            obtain ⟨dim, member', rfl⟩ := List.mem_map.mp member
            exact formed.filled nonneg _ rfl _ (List.mem_map.mpr ⟨dim, member', rfl⟩) _ rfl
          have same : (dims.map fun dim => dim.getD n).map some =
              dims.map fun dim => some (dim.getD n) := List.map_map
          rw [← same]
          exact all _ extents (by rw [same]; exact agree)
        exact .ranked (refinesDims_of_filled (by decide : (0 : Int) ≠ 1) (filled 0 (by decide))
          (filled 1 (by decide)))

end Shape

namespace Ty

variable {n m : Int} {t : Ty} {relaxed : Bool}

/-- The type with every unknown extent filled in. -/
def filled (n : Int) : Ty → Ty
  | .tensor element shape => .tensor element (shape.filled n)
  | .tuple items => .tuple (filledAll items)
  | other => other
where
  /-- The items of a tuple with every unknown extent filled in. -/
  filledAll : List Ty → List Ty
  | [] => []
  | item :: rest => item.filled n :: filledAll rest

theorem filledAll_eq (n : Int) (items : List Ty) :
    filled.filledAll n items = items.map (filled n) := by
  induction items with
  | nil => rfl
  | cons item rest ih => rw [filled.filledAll, ih, List.map_cons]

theorem filled_refines (n : Int) (t : Ty) : (t.filled n).Refines t := by
  induction t using induct with
  | tensor element shape ih => exact .tensor (same_refl element) (shape.filled_refines n)
  | tuple items ih =>
    rw [filled, filledAll_eq]
    exact .tuple (List.forall₂_map_left_iff.mpr (List.forall₂_same.mpr ih))
  | _ => exact .refl _

theorem WellFormed.filled (formed : t.WellFormed) (nonneg : 0 ≤ n) : (t.filled n).WellFormed := by
  induction t using induct with
  | tensor element shape ih =>
    cases formed with
    | tensor isElement element extents => exact .tensor isElement element (extents.filled nonneg)
  | tuple items ih =>
    cases formed with
    | tuple all =>
      rw [Ty.filled, filledAll_eq]
      refine .tuple fun item member => ?_
      obtain ⟨item', member', rfl⟩ := List.mem_map.mp member
      exact ih item' member' (all item' member')
  | _ => exact formed

/-- A type agrees with itself when its unknown extents are filled in. -/
theorem WellFormed.filled_compatible (formed : t.WellFormed) (nonneg : 0 ≤ n) :
    compatible relaxed (t.filled n) t = true :=
  (Refines.refl _).compatible (filled_refines n t) (compatible_refl (formed.filled nonneg))

/-- Two ways to fill in a type agree only where nothing is unknown. -/
theorem isStatic_of_filled (apart : n ≠ m)
    (agree : compatible relaxed (t.filled n) (t.filled m) = true) : t.isStatic = true := by
  induction t using induct with
  | tensor element shape ih =>
    simp only [filled, compatible, Bool.and_eq_true] at agree
    exact Shape.isStatic_of_filled apart agree.1
  | tuple items ih =>
    rw [filled, filled, filledAll_eq, filledAll_eq, compatible, compatibleAll_iff,
      List.forall₂_map_left_iff, List.forall₂_map_right_iff, List.forall₂_same] at agree
    rw [isStatic, allStatic_iff]
    exact fun item member => ih item member (agree item member)
  | _ => rfl

end Ty

end TensorTyping
