import TensorTyping.Indexing.DynamicSlice
import TensorTyping.Proofs.Indexing.Mapping
import TensorTyping.Proofs.Items

/-!
# Indices are integers

What an operation takes as positions is a tensor of integers whenever the operation is accepted, and
the start indices of one slice have one element type. The one exception is a gather whose sizes are
an operand, when nothing tells how many sizes there are: then the mapping is checked against the
start indices, and their elements are never looked at.
-/

namespace TensorTyping

/-- The type is a tensor of integers. -/
def Ty.IsIntegerTensor (t : Ty) : Prop :=
  ∃ width signed shape, t = .tensor (.int width signed) shape

/-- The types are tensors over one and the same integer type. -/
def Ty.ShareIntegerType (types : List Ty) : Prop :=
  ∃ width signed, ∀ t ∈ types, ∃ shape, t = .tensor (.int width signed) shape

theorem Ty.isInteger_iff {t : Ty} : t.isInteger = true ↔ ∃ width signed, t = .int width signed := by
  cases t <;> simp [isInteger]

theorem Ty.eq_of_same_int {t : Ty} {width : IntWidth} {signed : Bool}
    (h : t.same (.int width signed) = true) : t = .int width signed := by
  cases t <;> simp_all [same]

theorem Tensor.isIntegerTensor {t : Tensor} (integer : t.element.isInteger = true) :
    t.ty.IsIntegerTensor := by
  obtain ⟨width, signed, element⟩ := Ty.isInteger_iff.mp integer
  exact ⟨width, signed, t.shape, by rw [Tensor.ty, element]⟩

/-! ### Gather -/

namespace Gather

theorem starts_of_infer {operand starts : Ty} {dims : Option GatherDims}
    {sizes : Option (List Extent)} {result : Tensor}
    (accepted : infer operand starts dims sizes = .ok result) : starts.IsIntegerTensor := by
  simp only [infer, Check.bind_eq_ok, Check.ensure_eq_ok, Ty.needTensor_eq_ok] at accepted
  obtain ⟨_, -, startsTensor, rfl, -, integer, -⟩ := accepted
  exact startsTensor.isIntegerTensor integer

/-- Nothing tells how many slice sizes there are: no values are given, and neither the tensor of
    sizes nor the operand has an extent or a rank that would. -/
def Uncounted (operand sizes : Ty) (values : Option (List Extent)) : Prop :=
  values = none ∧ ∃ operandTensor sizesTensor : Tensor, operand = operandTensor.ty ∧
    sizes = sizesTensor.ty ∧ sizesTensor.extent 0 = none ∧ operandTensor.rank? = none

/-- A vector of sizes is counted by its extent or by the rank of the operand. -/
theorem sizeCount_eq_ok {sizes : Tensor} (operand : Tensor)
    (vector : (!sizes.hasOtherRank 1) = true) :
    sizeCount operand sizes = .ok ((sizes.extent 0).or (operand.rank?.map Int.ofNat)) := by
  have first := Tensor.hasDim_of_not_hasOtherRank vector (Int.le_refl 0) (by decide)
  rw [sizeCount, first.dim_eq]
  exact congrArg Except.ok Option.orElse_eq_or

theorem dynamicSizes_eq_none {count : Option Int} {values : Option (List Extent)}
    (unknown : dynamicSizes count values = .ok none) : count = none ∧ values = none := by
  cases values with
  | some sizes => simp [dynamicSizes, Check.bind_eq_ok] at unknown
  | none =>
    cases count with
    | none => exact ⟨rfl, rfl⟩
    | some n => simp [dynamicSizes, Check.bind_eq_ok] at unknown

/-- A gather looks at the elements of its start indices unless the number of its sizes is
    unknown. -/
theorem indices_of_inferDynamic {operand starts sizes : Ty} {dims : Option GatherDims}
    {values : Option (List Extent)} {result : Tensor}
    (accepted : inferDynamic operand starts sizes dims values = .ok result) :
    sizes.IsIntegerTensor ∧ (starts.IsIntegerTensor ∨ Uncounted operand sizes values) := by
  simp only [inferDynamic, Check.bind_eq_ok, Check.ensure_eq_ok, Ty.needTensor_eq_ok] at accepted
  obtain ⟨operandTensor, rfl, sizesTensor, rfl, -, vector, -, integer, count, counted, -, -, known,
    decided, rest⟩ := accepted
  refine ⟨sizesTensor.isIntegerTensor integer, ?_⟩
  cases known with
  | some _ => exact .inl (starts_of_infer rest)
  | none =>
    obtain ⟨rfl, unvalued⟩ := dynamicSizes_eq_none decided
    rw [sizeCount_eq_ok operandTensor vector, Except.ok.injEq, Option.or_eq_none_iff,
      Option.map_eq_none_iff] at counted
    exact .inr ⟨unvalued, operandTensor, sizesTensor, rfl, rfl, counted⟩

/-- When the number of sizes is unknown, start indices of any elements get the same answer. -/
theorem inferDynamic_of_uncounted {operand sizes : Ty} {values : Option (List Extent)}
    (unknown : Uncounted operand sizes values) (dims : Option GatherDims) (shape : Shape)
    (element element' : Ty) :
    inferDynamic operand (.tensor element shape) sizes dims values =
      inferDynamic operand (.tensor element' shape) sizes dims values := by
  obtain ⟨rfl, operandTensor, sizesTensor, rfl, rfl, extent, rank⟩ := unknown
  simp only [inferDynamic, Tensor.needTensor_ty, Check.ok_bind]
  by_cases vector : (!sizesTensor.hasOtherRank 1) = true
  · rw [sizeCount_eq_ok operandTensor vector, extent, rank]
    rfl
  · rw [ensure, if_neg vector]
    rfl

end Gather

/-! ### Scatter -/

theorem Scatter.indices_of_verify {inputs : List Ty} {indices : Ty} {updates : Option (List Ty)}
    {dims : Option ScatterDims} (accepted : verify inputs indices updates dims = .ok ()) :
    indices.IsIntegerTensor := by
  simp only [verify, Check.bind_eq_ok, Check.ensure_eq_ok, Ty.needTensor_eq_ok] at accepted
  obtain ⟨-, -, _, -, -, -, _, -, _, -, indicesTensor, rfl, -, integer, -⟩ := accepted
  exact indicesTensor.isIntegerTensor integer

/-! ### Slices at computed positions -/

namespace DynamicSlice

theorem verifyStart_eq_ok {i : Nat} {index element : Ty}
    (accepted : verifyStart i index = .ok element) :
    ∃ shape, index = .tensor element shape ∧ element.isInteger = true := by
  simp only [verifyStart, Check.bind_eq_ok, Check.ensure_eq_ok, Ty.needTensor_eq_ok,
    Check.pure_eq, Except.ok.injEq] at accepted
  obtain ⟨t, rfl, -, -, -, integer, rfl⟩ := accepted
  exact ⟨t.shape, rfl, integer⟩

/-- The start indices are compared with the first one, so all have its element type. -/
theorem starts_of_verifyStarts {operand : Tensor} {starts : Option (List Ty)}
    (accepted : verifyStarts operand starts = .ok ()) :
    ∃ items, starts = some items ∧ Ty.ShareIntegerType items := by
  simp only [verifyStarts, Check.bind_eq_ok, Check.ensure_eq_ok, Check.needItems_eq_ok,
    Check.collect_eq_ok, List.all_eq_true] at accepted
  obtain ⟨items, rfl, -, -, elements, each, same⟩ := accepted
  have verified : ∀ item ∈ items, ∃ element ∈ elements, ∃ shape,
      item = .tensor element shape ∧ element.isInteger = true := by
    intro item member
    obtain ⟨i, found⟩ := List.mem_iff_getElem?.mp member
    obtain ⟨element, inside, accepted⟩ :=
      Check.exists_left_of_forall₂ each.flip (List.mk_mem_zipIdx_iff_getElem?.mpr found)
    exact ⟨element, inside, verifyStart_eq_ok accepted⟩
  refine ⟨items, rfl, ?_⟩
  cases items with
  | nil => exact ⟨.w32, true, by simp⟩
  | cons first rest =>
    obtain ⟨element, inside, shape, -, integer⟩ := verified first List.mem_cons_self
    obtain ⟨width, signed, rfl⟩ := Ty.isInteger_iff.mp integer
    refine ⟨width, signed, fun item member => ?_⟩
    obtain ⟨element', inside', shape', rfl, -⟩ := verified item member
    have agree := Ty.same_trans (Ty.same_symm (same element' inside')) (same _ inside)
    exact ⟨shape', by rw [Ty.eq_of_same_int agree]⟩

theorem starts_of_infer {operand : Ty} {starts : Option (List Ty)} {sizes : Option (List Int)}
    {result : Tensor} (accepted : infer operand starts sizes = .ok result) :
    ∃ items, starts = some items ∧ Ty.ShareIntegerType items := by
  simp only [infer, Check.bind_eq_ok] at accepted
  obtain ⟨operandTensor, -, _, verified, -⟩ := accepted
  exact starts_of_verifyStarts verified

theorem starts_of_inferUpdate {operand update : Ty} {starts : Option (List Ty)} {result : Tensor}
    (accepted : inferUpdate operand update starts = .ok result) :
    ∃ items, starts = some items ∧ Ty.ShareIntegerType items := by
  simp only [inferUpdate, Check.bind_eq_ok] at accepted
  obtain ⟨operandTensor, -, _, -, _, -, _, -, _, verified, -⟩ := accepted
  exact starts_of_verifyStarts verified

end DynamicSlice

/-- Every operation that takes positions is accepted with positions of integers only, and with start
    indices of one integer type, but for one case: a gather of which nothing tells the number of
    sizes. In that case the elements of its start indices do not matter at all. -/
theorem indices_are_integers (operand indices sizes update : Ty) (inputs : List Ty)
    (updates starts : Option (List Ty)) (gather : Option GatherDims)
    (scatter : Option ScatterDims) (values : Option (List Extent)) (lengths : Option (List Int))
    (result : Tensor) :
    (Gather.infer operand indices gather values = .ok result → indices.IsIntegerTensor) ∧
    (Gather.inferDynamic operand indices sizes gather values = .ok result →
      sizes.IsIntegerTensor ∧
        (indices.IsIntegerTensor ∨ Gather.Uncounted operand sizes values)) ∧
    (Gather.Uncounted operand sizes values → ∀ (shape : Shape) (element element' : Ty),
      Gather.inferDynamic operand (.tensor element shape) sizes gather values =
        Gather.inferDynamic operand (.tensor element' shape) sizes gather values) ∧
    (Scatter.verify inputs indices updates scatter = .ok () → indices.IsIntegerTensor) ∧
    (DynamicSlice.infer operand starts lengths = .ok result →
      ∃ items, starts = some items ∧ Ty.ShareIntegerType items) ∧
    (DynamicSlice.inferUpdate operand update starts = .ok result →
      ∃ items, starts = some items ∧ Ty.ShareIntegerType items) := by
  refine ⟨?_, ?_, ?_, ?_, ?_, ?_⟩
  · exact Gather.starts_of_infer
  · exact Gather.indices_of_inferDynamic
  · intro uncounted
    exact Gather.inferDynamic_of_uncounted uncounted gather
  · exact Scatter.indices_of_verify
  · exact DynamicSlice.starts_of_infer
  · exact DynamicSlice.starts_of_inferUpdate

/-- Real numbers pass for start indices where integers do, when no extent counts the sizes. -/
theorem indices_are_integers_uncounted :
    let operand : Ty := .tensor (.float .f32) .unranked
    let sizes : Ty := .tensor (.int .w32 true) (.ranked [none])
    let starts : Shape := .ranked [some 5, some 3]
    let dims : GatherDims :=
      { offsetDims := [1], collapsedSliceDims := [0, 1], startIndexMap := [0, 1, 2],
        indexVectorDim := .int 1 }
    Gather.Uncounted operand sizes none ∧
      Gather.inferDynamic operand (.tensor .i32 starts) sizes (some dims) none =
        .ok (.unranked (.float .f32)) ∧
      Gather.inferDynamic operand (.tensor (.float .f32) starts) sizes (some dims) none =
        .ok (.unranked (.float .f32)) := by
  intro operand sizes starts dims
  have uncounted : Gather.Uncounted operand sizes none :=
    ⟨rfl, ⟨.float .f32, .unranked⟩, ⟨.int .w32 true, .ranked [none]⟩, rfl, rfl, rfl, rfl⟩
  have accepted : Gather.inferDynamic operand (.tensor .i32 starts) sizes (some dims) none =
      .ok (.unranked (.float .f32)) := rfl
  obtain ⟨-, -, unread, -⟩ := indices_are_integers operand (.tensor .i32 starts) sizes operand []
    none none (some dims) none none none (.unranked (.float .f32))
  refine ⟨uncounted, accepted, ?_⟩
  rw [← accepted]
  exact unread uncounted starts (.float .f32) .i32

end TensorTyping
