import TensorTyping.Indexing.DynamicSlice
import TensorTyping.Proofs.Dimensions
import TensorTyping.Proofs.Indexing.Positions
import TensorTyping.Proofs.Matching

/-!
# A slice at computed positions is a gather

A slice that starts at one scalar per dimension is a gather of one slice: the scalars stand in one
index vector, every dimension of the operand is an offset dimension, and none is collapsed or
batching. The two operations are checked by different functions; they accept the same sizes with the
same result, and refuse all others for the same cause.
-/

namespace TensorTyping

namespace Gather

/-- The mapping of a gather of one slice with the rank of the operand. -/
def sliceDims (rank : Nat) : GatherDims where
  offsetDims := Dimensions.upTo rank
  startIndexMap := Dimensions.upTo rank
  indexVectorDim := .int 0

/-- The start indices of a gather of one slice: a vector with one index for each dimension. -/
def sliceStarts (rank : Nat) (element : Ty) : Tensor := ⟨element, .ranked [some rank]⟩

theorem valid_sliceDims (rank : Nat) (element : Ty) :
    Mapping.Valid (some rank) (sliceStarts rank element) (sliceDims rank) := by
  have sorted := Dimensions.upTo_increasing rank
  have inRange : ∀ d ∈ Dimensions.upTo rank, 0 ≤ d ∧ d < rank :=
    fun _ => Dimensions.mem_upTo.mp
  exact {
    notNegative := rfl
    notBeyond := rfl
    vector := ⟨some rank, rfl, by simp [sliceDims, Extent.compatible]⟩
    offsetSorted := isSorted_iff.mpr (sorted.imp Int.le_of_lt)
    offsetUnique := Dimensions.nodup_upTo rank
    offsetNonneg := fun d member => (inRange d member).1
    collapsedSorted := rfl
    collapsedUnique := List.nodup_nil
    collapsedInRange := by simp [sliceDims]
    batchingSorted := rfl
    batchingUnique := List.nodup_nil
    batchingInRange := by simp [sliceDims]
    collapsedApart := List.disjoint_nil_left _
    mapUnique := Dimensions.nodup_upTo rank
    mapInRange := by
      intro d member
      simpa [Dimensions.isPosition] using inRange d member
    mapApart := List.disjoint_nil_right _
    indicesBatching := ⟨List.nodup_nil, by simp [sliceDims], rfl, rfl⟩ }

/-- All positions are offset positions, so the sizes are the extents of the result. -/
theorem resultDims_sliceDims (starts sizes : List Extent) :
    resultDims sizes.length sizes.length starts sizes (sliceDims sizes.length) = .ok sizes := by
  have offset : itemsAt (listed (Dimensions.upTo sizes.length)) 0 sizes = sizes := by
    apply itemsAt_all
    intro i _ inside
    rw [listed, List.contains_iff_mem, Dimensions.mem_upTo, Int.ofNat_eq_natCast]
    omega
  have others : itemsAt (fun i => !listed (Dimensions.upTo sizes.length) i) 0 sizes = [] := by
    have both := @length_itemsAt_add _ (listed (Dimensions.upTo sizes.length)) 0 sizes
    rw [offset] at both
    exact List.eq_nil_of_length_eq_zero (by omega)
  have kept : itemsAt (fun i => !listed [] i) 0 sizes = sizes := itemsAt_all sizes fun _ _ _ => rfl
  have vector : ∀ m : Nat, (sliceDims sizes.length).indexVectorDim.isInt m = true ↔ m = 0 := by
    intro m
    rw [sliceDims, Payload.isInt, beq_iff_eq]
    omega
  rw [resultDims, keptSizes_eq_ok _ _ _ _ (Nat.zero_add _), Check.ok_bind, List.drop_zero,
    fill_eq_ok vector]
  refine ⟨rfl, ?_, ?_⟩
  · exact (offset.trans kept.symm).symm ▸ List.prefix_rfl
  · exact others.symm ▸ List.nil_prefix

theorem compose_sliceDims (operand : Tensor) (starts : Extent) (sizes : List Extent) :
    compose operand [starts] (sliceDims sizes.length) (some sizes) =
      Tensor.form operand.element (.ranked sizes) := by
  have batchRank : Mapping.batchRank 1 (sliceDims sizes.length).indexVectorDim = .ok 0 := rfl
  have offsets : (sliceDims sizes.length).offsetDims.length = sizes.length :=
    Dimensions.length_upTo _
  have inRange (message : Int → String) : checkAll (fun (d : Int) =>
      ensure (d < (sizes.length : Nat)) .invalidDimensionMapping (message d))
      (sliceDims sizes.length).offsetDims = .ok () := by
    rw [Check.checkAll_eq_ok]
    intro d member
    exact Check.ensure_eq_ok.mpr (Dimensions.mem_upTo.mp member).2
  simp only [compose, List.length_singleton, batchRank, Check.ok_bind, offsets, Nat.add_zero,
    inRange, resultDims_sliceDims]

end Gather

namespace DynamicSlice

/-- One scalar of one integer type for each dimension will do for the start indices. -/
theorem verifyStarts_replicate {operand : Tensor} {rank : Nat} (ranked : operand.rank? = some rank)
    (width : IntWidth) (signed : Bool) :
    verifyStarts operand (some (List.replicate rank (Tensor.scalar (.int width signed)).ty)) =
      .ok () := by
  have elements : collect (fun item => verifyStart item.2 item.1)
      (List.replicate rank (Tensor.scalar (.int width signed)).ty).zipIdx =
        .ok (List.replicate rank (.int width signed)) := by
    rw [Check.collect_eq_ok, List.forall₂_iff_get]
    refine ⟨by simp, fun i inside inside' => ?_⟩
    simp only [List.get_eq_getElem, List.getElem_zipIdx, List.getElem_replicate]
    rfl
  have agree : (List.replicate rank (Ty.int width signed)).all
      ((List.replicate rank (Ty.int width signed)).headD .missing).same = true := by
    rw [List.all_eq_true]
    intro t member
    obtain ⟨positive, rfl⟩ := List.mem_replicate.mp member
    obtain ⟨count, rfl⟩ := Nat.exists_eq_succ_of_ne_zero positive
    exact Ty.same_refl _
  have length : (!operand.hasOtherRank rank) = true := by
    simp [Tensor.hasOtherRank, ranked]
  simp only [verifyStarts, needItems, Check.ok_bind, List.length_replicate, elements,
    Check.bind_eq_ok, Check.ensure_eq_ok]
  exact ⟨(), length, agree⟩

theorem verifySize_matches (operand : Tensor) (i : Nat) (size : Int) :
    Check.Matches (fun _ _ => True) (verifySize operand i size)
      (Gather.verifySize operand i (some size)) := by
  rw [verifySize, Gather.verifySize]
  apply (Check.Matches.ensure Iff.rfl).bind
  intro _ _ _
  apply Check.Matches.bind_same
  intro dim _
  cases dim with
  | none => trivial
  | some bound => exact (Check.Matches.ensure Iff.rfl).mono fun _ _ _ => trivial

/-- A slice at computed positions and a gather of one slice end alike: with the same result, or for
    the same cause. -/
theorem infer_matches_gather (element : Ty) (bounds : List Extent) (width : IntWidth)
    (signed : Bool) (sizes : List Int) :
    Check.Matches Eq
      (infer (.tensor element (.ranked bounds))
        (some (List.replicate bounds.length (Tensor.scalar (.int width signed)).ty)) (some sizes))
      (Gather.infer (.tensor element (.ranked bounds))
        (Gather.sliceStarts bounds.length (.int width signed)).ty
        (some (Gather.sliceDims bounds.length)) (some (sizes.map some))) := by
  let operand : Tensor := ⟨element, .ranked bounds⟩
  let starts := Gather.sliceStarts bounds.length (.int width signed)
  change Check.Matches Eq (infer operand.ty _ _) (Gather.infer operand.ty starts.ty _ _)
  have scalars := @verifyStarts_replicate operand _ rfl width signed
  have integer : starts.element.isInteger = true := rfl
  have mapping : Gather.verifyMapping (some (operand.rank?.getD (sizes.map some).length)) starts
      (Gather.sliceDims bounds.length) = .ok () :=
    Gather.verifyMapping_eq_ok.mpr (Gather.valid_sliceDims _ _)
  have numbered : (!operand.hasOtherRank sizes.length) = true ↔
      (!operand.hasOtherRank (sizes.map some).length) = true := by
    rw [List.length_map]
  have sized : Check.Matches (fun _ _ => True) (checkEach (verifySize operand) sizes)
      (checkEach (Gather.verifySize operand) (sizes.map some)) := by
    apply Check.Matches.checkEach
      (List.forall₂_map_right_iff.mpr (List.forall₂_same.mpr fun _ _ => rfl))
    rintro i size _ rfl
    exact verifySize_matches operand i size
  simp only [infer, Tensor.needTensor_ty, Check.ok_bind, scalars, Gather.infer, needPart,
    Gather.verify, mapping, Gather.verifySizes, bind_assoc]
  apply Check.Matches.bind_right (c := ()) (Check.ensure_eq_ok.mpr integer)
  -- The only length that either side accepts is the rank of the operand.
  apply (Check.Matches.ensure numbered).bind
  intro _ _ fits
  have length : bounds.length = (sizes.map some).length := by
    simpa [operand, Tensor.hasOtherRank, Tensor.rank?, Shape.rank?] using fits
  have total : (Gather.sliceDims bounds.length).offsetDims.length + 0 + 0 =
      (sizes.map some).length := by
    rw [← length]
    exact Dimensions.length_upTo _
  apply Check.Matches.bind_right (c := ()) (Check.ensure_eq_ok.mpr total)
  apply sized.bind
  intro _ _ _
  -- Nothing is collapsed or batching, so the other checks of a gather have nothing to look at.
  change Check.Matches Eq _ (Gather.compose operand [some (bounds.length : Int)]
    (Gather.sliceDims bounds.length) (some (sizes.map some)))
  rw [length, Gather.compose_sliceDims]
  exact (Check.Matches.same _).mono fun _ _ both => both.1

end DynamicSlice

end TensorTyping
