import TensorTyping.Indexing.DynamicSlice
import TensorTyping.Proofs.Check
import TensorTyping.Proofs.Items
import TensorTyping.Proofs.Ty.WellFormed

/-!
# Writing a slice back

A tensor can be written into another one when it has the element type and the rank of the other and
exceeds it nowhere, as far as both are known. A slice at computed positions is such a tensor, so
what was read can be written back at the same positions.
-/

namespace TensorTyping

/-- The first extent does not exceed the second, when both are known. -/
def Extent.AtMost (dim bound : Extent) : Prop := ∀ n m, dim = some n → bound = some m → n ≤ m

theorem Extent.atMost_refl (dim : Extent) : dim.AtMost dim := by
  intro n m known known'
  exact Int.le_of_eq (Option.some.inj (known.symm.trans known'))

/-- A shape that the other one has room for: one of them is unranked, or both have one rank and no
    extent of the first exceeds that of the second. -/
inductive Shape.FitsIn : Shape → Shape → Prop
  | unranked (s : Shape) : Shape.FitsIn .unranked s
  | inUnranked (s : Shape) : Shape.FitsIn s .unranked
  | ranked {dims bounds : List Extent} (each : List.Forall₂ Extent.AtMost dims bounds) :
      Shape.FitsIn (.ranked dims) (.ranked bounds)

theorem Shape.fitsIn_refl (s : Shape) : s.FitsIn s := by
  cases s with
  | unranked => exact .unranked _
  | ranked dims => exact .ranked (List.forall₂_same.mpr fun dim _ => dim.atMost_refl)

namespace DynamicSlice

variable {operand update : Ty} {starts : Option (List Ty)} {t : Tensor}

/-! ### Accepted updates -/

theorem verifyUpdateExtent_eq_ok {i : Nat} {bound dim : Extent} {u : Unit} :
    verifyUpdateExtent i (bound, dim) = .ok u ↔ dim.AtMost bound := by
  cases bound with
  | none => simp [verifyUpdateExtent, Extent.AtMost]
  | some m =>
    cases dim with
    | none => simp [verifyUpdateExtent, Extent.AtMost]
    | some n => simp [verifyUpdateExtent, Extent.AtMost]

theorem verifyUpdateShape_eq_ok {s s' : Shape} {u : Unit} :
    verifyUpdateShape s s' = .ok u ↔ s'.FitsIn s := by
  cases s with
  | unranked => exact iff_of_true rfl (.inUnranked s')
  | ranked bounds =>
    cases s' with
    | unranked => exact iff_of_true rfl (.unranked _)
    | ranked dims =>
      simp only [verifyUpdateShape, Check.bind_eq_ok, Check.ensure_eq_ok, Check.checkEach_eq_ok]
      constructor
      · rintro ⟨-, length, each⟩
        refine .ranked (List.Forall₂.flip (List.forall₂_iff_zip.mpr ⟨length, ?_⟩))
        intro bound dim member
        obtain ⟨i, found⟩ := List.mem_iff_getElem?.mp member
        exact verifyUpdateExtent_eq_ok.mp (each i (bound, dim) found)
      · rintro (_ | _ | each)
        refine ⟨(), each.length_eq.symm, ?_⟩
        rintro i ⟨bound, dim⟩ found
        have within := (List.forall₂_iff_zip.mp each.flip).2 (List.mem_of_getElem? found)
        exact verifyUpdateExtent_eq_ok.mpr within

/-- An update is accepted when it has the elements of the operand and fits into it, and the start
    indices suit the operand. -/
theorem inferUpdate_eq_ok :
    inferUpdate operand update starts = .ok t ↔
      operand = t.ty ∧ verifyStarts t starts = .ok () ∧
        ∃ u : Tensor, update = u.ty ∧ t.element.same u.element = true ∧ u.shape.FitsIn t.shape := by
  simp only [inferUpdate, Check.bind_eq_ok, Ty.needTensor_eq_ok, Check.ensure_eq_ok,
    verifyUpdateShape_eq_ok, Check.pure_eq, Except.ok.injEq]
  constructor
  · rintro ⟨_, rfl, u, rfl, -, same, -, fits, _, verified, rfl⟩
    exact ⟨rfl, verified, u, rfl, same, fits⟩
  · rintro ⟨rfl, verified, u, rfl, same, fits⟩
    exact ⟨t, rfl, u, rfl, (), same, (), fits, (), verified, rfl⟩

/-! ### Accepted slices -/

theorem verifySize_eq_ok {i : Nat} {size : Int} {u : Unit} :
    verifySize t i size = .ok u ↔
      0 ≤ size ∧ t.HasDim i ∧ Extent.AtMost (some size) (t.extent i) := by
  simp only [verifySize, Check.bind_eq_ok, Check.ensure_eq_ok, exists_const,
    Tensor.dim_eq_ok_of_nonneg (Int.natCast_nonneg i), and_assoc, exists_and_left, exists_eq_left',
    Int.toNat_natCast]
  cases t.extent i with
  | none => simp [Extent.AtMost]
  | some bound => simp [Extent.AtMost]

theorem fitsIn_of_sizes {sizes : List Int} (rank : t.hasOtherRank sizes.length = false)
    (within : ∀ (i : Nat) (size : Int), sizes[i]? = some size →
      Extent.AtMost (some size) (t.extent i)) :
    Shape.FitsIn (.ranked (sizes.map some)) t.shape := by
  obtain ⟨element, shape⟩ := t
  cases shape with
  | unranked => exact .inUnranked _
  | ranked bounds =>
    have length : bounds.length = sizes.length := by
      simpa [Tensor.hasOtherRank, Tensor.rank?, Shape.rank?] using rank
    refine .ranked (List.forall₂_map_left_iff.mpr (List.forall₂_iff_get.mpr ⟨length.symm, ?_⟩))
    intro i inside inside'
    have here := within i sizes[i] (List.getElem?_eq_getElem inside)
    rw [Tensor.extent, Shape.extent, List.getElem?_eq_getElem inside', Option.join_some] at here
    exact here

/-- A slice at computed positions has the elements of the operand and fits into it. -/
theorem fitsIn_of_infer {sizes : Option (List Int)} {r : Tensor}
    (accepted : infer operand starts sizes = .ok r) :
    ∃ t : Tensor, operand = t.ty ∧ verifyStarts t starts = .ok () ∧ r.element = t.element ∧
      r.shape.FitsIn t.shape := by
  simp only [infer, Check.bind_eq_ok, Ty.needTensor_eq_ok] at accepted
  obtain ⟨t, rfl, _, verified, accepted⟩ := accepted
  refine ⟨t, rfl, verified, ?_⟩
  cases sizes with
  | none =>
    obtain rfl := Except.ok.inj accepted
    exact ⟨rfl, Shape.fitsIn_refl _⟩
  | some sizes =>
    simp only [Check.bind_eq_ok, Check.ensure_eq_ok, Check.checkEach_eq_ok, Tensor.form_eq_ok,
      verifySize_eq_ok, Bool.not_eq_true'] at accepted
    obtain ⟨-, rank, -, within, -, -, rfl⟩ := accepted
    exact ⟨rfl, fitsIn_of_sizes rank fun i size found => (within i size found).2.2⟩

/-- What was read can be written back: the result of every accepted slice at computed positions is
    accepted as an update at the same positions, and leaves the type of the operand. No accepted
    update with a rank has another rank than an operand with a rank, or exceeds it anywhere. -/
theorem inferUpdate_of_infer_and_atMost (starts : Option (List Ty)) :
    (∀ (operand : Ty) (sizes : Option (List Int)) (r : Tensor),
      infer operand starts sizes = .ok r →
        ∃ t : Tensor, operand = t.ty ∧ inferUpdate operand r.ty starts = .ok t) ∧
    ∀ (element element' : Ty) (bounds dims : List Extent) (t : Tensor),
      inferUpdate (.tensor element (.ranked bounds)) (.tensor element' (.ranked dims)) starts =
          .ok t →
        dims.length = bounds.length ∧
          ∀ (i : Nat) (n m : Int), dims[i]? = some (some n) → bounds[i]? = some (some m) →
            n ≤ m := by
  constructor
  · intro operand sizes r accepted
    obtain ⟨t, rfl, verified, element, fits⟩ := fitsIn_of_infer accepted
    refine ⟨t, rfl, inferUpdate_eq_ok.mpr ⟨rfl, verified, r, rfl, ?_, fits⟩⟩
    rw [element]
    exact Ty.same_refl _
  · intro element element' bounds dims t accepted
    obtain ⟨operand, -, u, update, -, fits⟩ := inferUpdate_eq_ok.mp accepted
    obtain rfl : t = ⟨element, .ranked bounds⟩ := Tensor.ty_injective operand.symm
    obtain rfl : u = ⟨element', .ranked dims⟩ := Tensor.ty_injective update.symm
    cases fits with
    | ranked each =>
      refine ⟨each.length_eq, fun i n m found found' => ?_⟩
      have here := Check.forall₂_getElem? each i
      rw [found, found'] at here
      cases here with
      | some within => exact within n m rfl rfl

/-- A slice of a tensor with an unknown extent, which may be exceeded. -/
theorem inferUpdate_of_infer_and_atMost_unknown :
    let bounds : List Extent := [some 4, none, some 6]
    let dims : List Extent := [some 2, some 9, some 6]
    let operand : Ty := .tensor (.float .f32) (.ranked bounds)
    let starts : Option (List Ty) := some (List.replicate 3 (.tensor .i32 .scalar))
    infer operand starts (some [2, 9, 6]) = .ok ⟨.float .f32, .ranked dims⟩ ∧
      inferUpdate operand (.tensor (.float .f32) (.ranked dims)) starts =
        .ok ⟨.float .f32, .ranked bounds⟩ ∧
      dims.length = bounds.length ∧
      ∀ (i : Nat) (n m : Int), dims[i]? = some (some n) → bounds[i]? = some (some m) → n ≤ m := by
  intro bounds dims operand starts
  obtain ⟨writes, bounded⟩ := inferUpdate_of_infer_and_atMost starts
  have accepted : infer operand starts (some [2, 9, 6]) = .ok ⟨.float .f32, .ranked dims⟩ := rfl
  obtain ⟨t, same, written⟩ := writes operand (some [2, 9, 6]) _ accepted
  obtain rfl : t = ⟨.float .f32, .ranked bounds⟩ := Tensor.ty_injective same.symm
  exact ⟨accepted, written, bounded _ _ bounds dims _ written⟩

end DynamicSlice

end TensorTyping
