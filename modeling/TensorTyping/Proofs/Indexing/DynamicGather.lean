import TensorTyping.Proofs.Indexing.IntegerIndices
import TensorTyping.Proofs.Indexing.Positions
import TensorTyping.Proofs.Refinement.Indexing

/-!
# Gathers with sizes that are an operand

A gather whose slice sizes are an operand agrees with a gather of fixed sizes. When the sizes are
known the results are the same. When only their number is known, the offset extents of the result
are unknown and the others are kept; when not even that is known, nothing is said of the shape.
-/

namespace TensorTyping

/-- The extents without those at the given positions, which become unknown. -/
def Shape.forgetAt (positions : List Int) (dims : List Extent) : List Extent :=
  dims.mapIdx fun i dim => if listed positions i then none else dim

theorem Shape.refines_forgetAt (positions : List Int) (dims : List Extent) :
    RefinesDims dims (forgetAt positions dims) := by
  refine List.forall₂_iff_get.mpr ⟨by simp [forgetAt], fun i inside inside' => ?_⟩
  simp only [forgetAt, List.get_eq_getElem, List.getElem_mapIdx]
  split
  · exact .unknown _
  · exact .refl _

theorem Shape.WellFormed.forgetAt {dims : List Extent} (form : (Shape.ranked dims).WellFormed)
    (positions : List Int) : (Shape.ranked (forgetAt positions dims)).WellFormed :=
  (Shape.Refines.ranked (refines_forgetAt positions dims)).wellFormed form

theorem Tensor.Refines.refl (t : Tensor) : t.Refines t := ⟨Ty.same_refl _, .refl _⟩

namespace Gather

/-! ### Forgetting the sizes -/

/-- With unknown sizes a result is filled as before, but for its offset extents. -/
theorem fill_forget {starts sizes result : List Extent} {dims : GatherDims}
    {count position next : Nat} (filled : fill starts dims count position sizes next = .ok result) :
    fill starts dims count position (sizes.map fun _ => none) next =
      .ok (result.mapIdx fun i dim =>
        if listed dims.offsetDims (position + i) then none else dim) := by
  induction count generalizing position sizes next result with
  | zero =>
    cases filled
    rfl
  | succ count ih =>
    have shifted (rest : List Extent) :
        (rest.mapIdx fun i dim =>
            if listed dims.offsetDims (position + (i + 1)) then none else dim) =
          rest.mapIdx fun i dim =>
            if listed dims.offsetDims (position + 1 + i) then none else dim := by
      congr 1
      funext i dim
      rw [Nat.add_right_comm, Nat.add_assoc]
    obtain ⟨item, rest, rfl, ⟨marked, sizes', rfl, others⟩ | ⟨unmarked, found, others⟩⟩ :=
      fill_succ_eq_ok.mp filled
    · refine fill_succ_eq_ok.mpr ⟨none, _, ?_, .inl ⟨marked, _, rfl, ih others⟩⟩
      simp only [List.mapIdx_cons, Nat.add_zero, marked, if_true, shifted]
    · refine fill_succ_eq_ok.mpr ⟨item, _, ?_, .inr ⟨unmarked, found, ih others⟩⟩
      simp only [List.mapIdx_cons, Nat.add_zero, unmarked, Bool.false_eq_true, if_false, shifted]

theorem resultDims_forget {starts sizes result : List Extent} {dims : GatherDims} {rank : Nat}
    (composed : resultDims rank sizes.length starts sizes dims = .ok result) :
    resultDims rank sizes.length starts (sizes.map fun _ => none) dims =
      .ok (Shape.forgetAt dims.offsetDims result) := by
  have whole : 0 + sizes.length = sizes.length := Nat.zero_add _
  have whole' : 0 + sizes.length = (sizes.map fun _ => (none : Extent)).length := by simp
  rw [resultDims, keptSizes_eq_ok _ _ _ _ whole, Check.ok_bind] at composed
  rw [resultDims, keptSizes_eq_ok _ _ _ _ whole', Check.ok_bind]
  have filled := fill_forget composed
  simp only [List.drop_zero, Nat.zero_add, ← itemsAt_map] at filled ⊢
  exact filled

theorem verifySizes_forget {operand starts : Tensor} {dims : GatherDims} {sizes : List Extent}
    (fits : verifySizes operand starts dims sizes = .ok ()) :
    verifySizes operand starts dims (sizes.map fun _ => none) = .ok () := by
  have each : checkEach (verifySize operand) (sizes.map fun _ => none) = .ok () := by
    rw [Check.checkEach_eq_ok]
    intro i size found
    obtain ⟨_, -, rfl⟩ := List.mem_map.mp (List.mem_of_getElem? found)
    rfl
  have unit (name : String) (positions : List Int) {u : Unit}
      (small : verifyUnitSizes sizes name positions = .ok u) :
      verifyUnitSizes (sizes.map fun _ => none) name positions = .ok () := by
    rw [verifyUnitSizes, Check.checkAll_eq_ok] at small ⊢
    intro d member
    obtain ⟨size, found, -⟩ := Check.bind_eq_ok.mp (small d member)
    rw [itemAt_map_of_ok _ found]
    rfl
  simp only [verifySizes, Check.bind_eq_ok, Check.ensure_eq_ok, List.length_map] at fits ⊢
  obtain ⟨_, rank, _, total, _, -, _, collapsed, _, units, batching⟩ := fits
  exact ⟨(), rank, (), total, (), each, (), unit _ _ collapsed, (), unit _ _ units, batching⟩

/-- The second tensor is the first one with its offset extents unknown. -/
structure Forgets (dims : GatherDims) (result coarse : Tensor) : Prop where
  element : coarse.element = result.element
  shape : result.shape = .unranked ∧ coarse.shape = .unranked ∨
    ∃ extents, result.shape = .ranked extents ∧
      coarse.shape = .ranked (Shape.forgetAt dims.offsetDims extents)

theorem Forgets.refines {dims : GatherDims} {result coarse : Tensor}
    (h : Forgets dims result coarse) : result.Refines coarse := by
  refine ⟨h.element ▸ Ty.same_refl _, ?_⟩
  rcases h.shape with ⟨-, unranked⟩ | ⟨extents, ranked, forgotten⟩
  · rw [unranked]
    exact .unranked _
  · rw [ranked, forgotten]
    exact .ranked (Shape.refines_forgetAt _ _)

theorem resultTensor_forget {operand starts result : Tensor} {dims : GatherDims}
    {sizes : List Extent} (composed : resultTensor operand starts dims (some sizes) = .ok result) :
    ∃ coarse, resultTensor operand starts dims (some (sizes.map fun _ => none)) = .ok coarse ∧
      Forgets dims result coarse := by
  unfold resultTensor at composed ⊢
  generalize starts.shape = shape at composed
  cases shape with
  | unranked =>
    obtain rfl := Except.ok.inj composed
    exact ⟨_, rfl, rfl, .inl ⟨rfl, rfl⟩⟩
  | ranked startDims =>
    simp only [compose, Check.bind_eq_ok, Tensor.form_eq_ok] at composed ⊢
    obtain ⟨batchRank, counted, _, inRange, extents, filled, element, form, rfl⟩ := composed
    rw [List.length_map]
    exact ⟨_, ⟨batchRank, counted, (), inRange, _, resultDims_forget filled, element,
      form.forgetAt _, rfl⟩, rfl, .inr ⟨extents, rfl, rfl⟩⟩

/-- A gather that is accepted with some sizes is accepted with as many unknown ones. -/
theorem infer_forget {operand starts : Ty} {dims : GatherDims} {sizes : List Extent}
    {result : Tensor} (accepted : infer operand starts (some dims) (some sizes) = .ok result) :
    ∃ coarse, infer operand starts (some dims) (some (sizes.map fun _ => none)) = .ok coarse ∧
      Forgets dims result coarse := by
  simp only [infer, verify, Check.bind_eq_ok, Check.ensure_eq_ok, Check.needPart_eq_ok,
    List.length_map] at accepted ⊢
  obtain ⟨operandTensor, operandView, startsTensor, startsView, _, integer, _, given, _,
    ⟨_, mapping, fits⟩, composed⟩ := accepted
  obtain rfl := Option.some.inj given
  obtain ⟨coarse, composed', forgets⟩ := resultTensor_forget composed
  exact ⟨coarse, ⟨operandTensor, operandView, startsTensor, startsView, (), integer, dims, rfl, (),
    ⟨(), mapping, verifySizes_forget fits⟩, composed'⟩, forgets⟩

/-! ### Sizes that are an operand -/

/-- The tensor may hold the given number of slice sizes: it is a vector of integers, as far as its
    rank and its extent are known. -/
structure MayHold (sizes : Tensor) (count : Nat) : Prop where
  integer : sizes.element.isInteger = true
  shape : sizes.shape = .unranked ∨ sizes.shape = .ranked [none] ∨
    sizes.shape = .ranked [some (count : Int)]

theorem MayHold.hasOtherRank {sizes : Tensor} {count : Nat} (holds : MayHold sizes count) :
    sizes.hasOtherRank 1 = false := by
  rcases holds.shape with shape | shape | shape <;>
    simp [Tensor.hasOtherRank, Tensor.rank?, shape, Shape.rank?]

/-- The number of sizes is as it should be, unless nothing tells it. -/
theorem MayHold.sizeCount {operand sizes : Tensor} {count : Nat} (holds : MayHold sizes count)
    (rank : operand.rank? = none ∨ operand.rank? = some count) :
    ∃ number, Gather.sizeCount operand sizes = .ok number ∧
      (number = none ∧ sizes.extent 0 = none ∧ operand.rank? = none ∨
        number = some (count : Int)) := by
  have vector : (!sizes.hasOtherRank 1) = true := by rw [holds.hasOtherRank, Bool.not_false]
  have extent : sizes.extent 0 = none ∨ sizes.extent 0 = some (count : Int) := by
    rcases holds.shape with shape | shape | shape <;>
      simp [Tensor.extent, shape, Shape.extent]
  refine ⟨_, sizeCount_eq_ok operand vector, ?_⟩
  rcases extent with extent | extent <;> rcases rank with rank | rank <;> simp [extent, rank]

theorem unknownDims_eq_ok {count : Nat} (short : (count : Int) < signedLimit) :
    Dimensions.unknownDims count = .ok (List.replicate count none) := by
  rw [Dimensions.unknownDims, ensureListLength_of_lt (Int.natCast_nonneg count) short,
    Check.ok_bind, Check.pure_eq, Int.toNat_natCast]

/-- An operand that is read with fixed sizes has one dimension for each of them, as far as its rank
    is known. -/
theorem exists_operand_of_infer {operand starts : Ty} {dims : GatherDims} {sizes : List Extent}
    {result : Tensor} (accepted : infer operand starts (some dims) (some sizes) = .ok result) :
    ∃ operandTensor startsTensor : Tensor, operand = operandTensor.ty ∧ starts = startsTensor.ty ∧
      (operandTensor.rank? = none ∨ operandTensor.rank? = some sizes.length) ∧
      verify operandTensor startsTensor dims (some sizes) = .ok () ∧
      result.element = operandTensor.element := by
  simp only [infer, Check.bind_eq_ok, Check.ensure_eq_ok, Check.needPart_eq_ok,
    Ty.needTensor_eq_ok] at accepted
  obtain ⟨operandTensor, rfl, startsTensor, rfl, _, -, _, given, _, verified, composed⟩ := accepted
  obtain rfl := Option.some.inj given
  obtain ⟨_, -, fits⟩ := Check.bind_eq_ok.mp verified
  exact ⟨operandTensor, startsTensor, rfl, rfl, rank?_of_verifySizes fits, verified,
    element_of_resultTensor composed⟩

/-- A gather with sizes that are an operand agrees with a gather of fixed sizes: with these sizes as
    values it has the same result, and without values a result with unknown offset extents, or an
    unranked one when nothing tells how many sizes there are. Without values as many unknown sizes
    are listed, and the length of a list fits into a word. -/
theorem inferDynamic_of_infer {operand starts : Ty} {dims : GatherDims} {values : List Int}
    {result sizes : Tensor}
    (accepted : infer operand starts (some dims) (some (values.map some)) = .ok result)
    (holds : MayHold sizes values.length) :
    inferDynamic operand starts sizes.ty (some dims) (some (values.map some)) = .ok result ∧
      ((values.length : Int) < signedLimit →
        ∃ coarse, inferDynamic operand starts sizes.ty (some dims) none = .ok coarse ∧
          result.Refines coarse ∧ coarse.element = result.element ∧
          (Uncounted operand sizes.ty none ∧ coarse.shape = .unranked ∨
            Forgets dims result coarse)) := by
  obtain ⟨operandTensor, startsTensor, rfl, rfl, rank, verified, element⟩ :=
    exists_operand_of_infer accepted
  rw [List.length_map] at rank
  obtain ⟨number, counted, told⟩ := holds.sizeCount rank
  have agree : Extent.compatible number (operandTensor.rank?.map Int.ofNat) = true := by
    rcases told with ⟨rfl, -⟩ | rfl <;> rcases rank with rank | rank <;>
      simp [rank, Extent.compatible]
  have asMany : Extent.compatible number (some ((values.map some).length : Int)) = true := by
    rcases told with ⟨rfl, -⟩ | rfl <;> simp [Extent.compatible]
  simp only [inferDynamic, Tensor.needTensor_ty, Check.ok_bind, holds.hasOtherRank, holds.integer,
    counted, agree, ensure, Bool.not_false, if_true]
  refine ⟨?_, fun short => ?_⟩
  · simp only [dynamicSizes, asMany, ensure, if_true, Check.ok_bind, Check.pure_eq, accepted]
  rcases told with ⟨rfl, extent, unranked⟩ | rfl
  · obtain ⟨_, mapping, -⟩ :=
      verify_none_carries (.refl _) (.refl _) dims (values.map some) _ verified
    refine ⟨.unranked operandTensor.element, ?_, ?_, element.symm, .inl ⟨?_, rfl⟩⟩
    · simp only [dynamicSizes, Check.pure_eq, Check.ok_bind, needPart, mapping]
    · exact ⟨element ▸ Ty.same_refl _, .unranked _⟩
    · exact ⟨rfl, operandTensor, sizes, rfl, rfl, extent, unranked⟩
  · obtain ⟨coarse, success, forgets⟩ := infer_forget accepted
    rw [List.map_const', List.length_map] at success
    refine ⟨coarse, ?_, forgets.refines, forgets.element, .inr forgets⟩
    simp only [dynamicSizes, unknownDims_eq_ok short, Check.ok_bind, Check.pure_eq]
    exact success

/-- Rows of a matrix, read with known sizes and with a vector of two sizes: the number of columns is
    lost, and the number of rows is kept. -/
theorem inferDynamic_of_infer_rows :
    let operand : Ty := .tensor (.float .f32) (.ranked [some 3, some 4])
    let starts : Ty := .tensor .i32 (.ranked [some 2, some 1])
    let sizes : Tensor := ⟨.i32, .ranked [some 2]⟩
    let dims : GatherDims :=
      { offsetDims := [1], collapsedSliceDims := [0], startIndexMap := [0],
        indexVectorDim := .int 1 }
    let result : Tensor := ⟨.float .f32, .ranked [some 2, some 3]⟩
    infer operand starts (some dims) (some [some 1, some 3]) = .ok result ∧
      inferDynamic operand starts sizes.ty (some dims) (some [some 1, some 3]) = .ok result ∧
      inferDynamic operand starts sizes.ty (some dims) none =
        .ok ⟨.float .f32, .ranked [some 2, none]⟩ ∧
      ∃ coarse, inferDynamic operand starts sizes.ty (some dims) none = .ok coarse ∧
        result.Refines coarse := by
  intro operand starts sizes dims result
  have accepted : infer operand starts (some dims) (some ([1, 3].map some)) = .ok result := rfl
  have holds : MayHold sizes [1, 3].length := ⟨rfl, .inr (.inr rfl)⟩
  obtain ⟨known, fewer⟩ := inferDynamic_of_infer accepted holds
  obtain ⟨coarse, unknown, refines, -⟩ := fewer (by decide)
  exact ⟨accepted, known, rfl, coarse, unknown, refines⟩

end Gather

end TensorTyping
