import TensorTyping.Indexing.Gather
import TensorTyping.Indexing.Scatter
import TensorTyping.Proofs.Ty.WellFormed

/-!
# Valid mappings

When the checks on the mapping of a gather or a scatter succeed. Both mappings are valid under the
same conditions, `Mapping.Valid`, which are checked in different orders; a scatter also checks
whether its mapping covers the rank of the operand. The index vector dimension of a valid mapping
stands for one position of the indices, or for the one just after the last.
-/

namespace TensorTyping

namespace Mapping

variable {dims other : List Int} {bound : Option Nat} {u : Unit} {name range nameB : String}

@[simp] theorem ensureSorted_eq_ok :
    ensureSorted dims name = .ok u ↔ Dimensions.isSorted dims = true := by
  simp [ensureSorted]

@[simp] theorem ensureUnique_eq_ok : ensureUnique dims name = .ok u ↔ dims.Nodup := by
  simp [ensureUnique]

@[simp] theorem ensureInRange_eq_ok :
    ensureInRange dims bound name range = .ok u ↔
      ∀ d ∈ dims, Dimensions.isPosition bound d = true := by
  simp [ensureInRange, Check.checkAll_eq_ok]

@[simp] theorem ensureDisjoint_eq_ok :
    ensureDisjoint dims other name nameB = .ok u ↔ dims.Disjoint other := by
  unfold ensureDisjoint Dimensions.leastCommon?
  cases common : dims.filter other.contains with
  | nil =>
    simp only [List.filter_eq_nil_iff] at common
    simpa [List.Disjoint] using common
  | cons first rest =>
    have member : first ∈ dims.filter other.contains := by simp [common]
    have both : first ∈ dims ∧ first ∈ other := by simpa using member
    simp only [Check.reject_ne_ok, false_iff]
    exact fun disjoint => disjoint both.1 both.2

theorem ensureIndexVectorDim_eq_ok {indices : Tensor} {indexVectorDim : Payload} :
    ensureIndexVectorDim indices indexVectorDim name = .ok u ↔
      indexVectorDim.isBelow 0 = .ok false ∧
        isBeyond indexVectorDim indices.rank? = .ok false := by
  simp only [ensureIndexVectorDim, Check.bind_eq_ok, Check.ensure_eq_ok, Bool.and_eq_true,
    Bool.not_eq_true']
  constructor
  · rintro ⟨_, below, _, beyond, rfl, rfl⟩
    exact ⟨below, beyond⟩
  · rintro ⟨below, beyond⟩
    exact ⟨_, below, _, beyond, rfl, rfl⟩

/-- The batching dimensions of the indices are distinct positions other than the index vector
    dimension, and there are as many as there are operand dimensions. -/
structure ValidBatching (indices : Tensor) (dims operandDims : List Int)
    (indexVectorDim : Payload) : Prop where
  unique : dims.Nodup
  inRange : ∀ rank, indices.rank? = some rank →
    ∀ d ∈ dims, Dimensions.isPosition (some rank) d = true
  apart : (!dims.any indexVectorDim.isInt) = true
  length : dims.length = operandDims.length

theorem ensureIndicesBatching_eq_ok {indices : Tensor} {indexVectorDim : Payload} :
    ensureIndicesBatching indices dims other indexVectorDim name nameB = .ok u ↔
      ValidBatching indices dims other indexVectorDim := by
  have positions : ∀ v : Unit, ensureIndicesPositions dims indices.rank? name = .ok v ↔
      ∀ rank, indices.rank? = some rank →
        ∀ d ∈ dims, Dimensions.isPosition (some rank) d = true := by
    intro v
    cases indices.rank? <;> simp [ensureIndicesPositions]
  simp only [ensureIndicesBatching, Check.bind_eq_ok, Check.ensure_eq_ok, ensureUnique_eq_ok,
    positions]
  constructor
  · rintro ⟨-, unique, -, inRange, -, apart, length⟩
    exact ⟨unique, inRange, apart, length⟩
  · rintro ⟨unique, inRange, apart, length⟩
    exact ⟨(), unique, (), inRange, (), apart, length⟩

/-- The mapping is consistent with an operand of the given rank and with the indices. -/
structure Valid (rank : Option Nat) (indices : Tensor) (dims : GatherDims) : Prop where
  notNegative : dims.indexVectorDim.isBelow 0 = .ok false
  notBeyond : isBeyond dims.indexVectorDim indices.rank? = .ok false
  vector : ∃ extent, indexVectorExtent indices dims.indexVectorDim = .ok extent ∧
    extent.compatible (some dims.startIndexMap.length) = true
  offsetSorted : Dimensions.isSorted dims.offsetDims = true
  offsetUnique : dims.offsetDims.Nodup
  offsetNonneg : ∀ d ∈ dims.offsetDims, 0 ≤ d
  collapsedSorted : Dimensions.isSorted dims.collapsedSliceDims = true
  collapsedUnique : dims.collapsedSliceDims.Nodup
  collapsedInRange : ∀ d ∈ dims.collapsedSliceDims, Dimensions.isPosition rank d = true
  batchingSorted : Dimensions.isSorted dims.operandBatchingDims = true
  batchingUnique : dims.operandBatchingDims.Nodup
  batchingInRange : ∀ d ∈ dims.operandBatchingDims, Dimensions.isPosition rank d = true
  collapsedApart : dims.collapsedSliceDims.Disjoint dims.operandBatchingDims
  mapUnique : dims.startIndexMap.Nodup
  mapInRange : ∀ d ∈ dims.startIndexMap, Dimensions.isPosition rank d = true
  mapApart : dims.startIndexMap.Disjoint dims.operandBatchingDims
  indicesBatching : ValidBatching indices dims.startIndicesBatchingDims dims.operandBatchingDims
    dims.indexVectorDim

end Mapping

theorem Gather.verifyMapping_eq_ok {rank : Option Nat} {starts : Tensor} {dims : GatherDims}
    {u : Unit} : verifyMapping rank starts dims = .ok u ↔ Mapping.Valid rank starts dims := by
  simp only [verifyMapping, Check.bind_eq_ok, Mapping.ensureIndexVectorDim_eq_ok,
    Check.ensure_eq_ok, Mapping.ensureSorted_eq_ok, Mapping.ensureUnique_eq_ok,
    Check.checkAll_eq_ok, Mapping.ensureInRange_eq_ok, Mapping.ensureDisjoint_eq_ok,
    Mapping.ensureIndicesBatching_eq_ok]
  constructor
  · rintro ⟨-, ⟨below, beyond⟩, vector, extent, -, agree, -, offsetSorted, -, offsetUnique, -,
      offsetNonneg, -, collapsedSorted, -, collapsedUnique, -, collapsedInRange, -, batchingSorted,
      -, batchingUnique, -, batchingInRange, -, collapsedApart, -, mapUnique, -, mapInRange, -,
      mapApart, batching⟩
    exact ⟨below, beyond, ⟨vector, extent, agree⟩, offsetSorted, offsetUnique, offsetNonneg,
      collapsedSorted, collapsedUnique, collapsedInRange, batchingSorted, batchingUnique,
      batchingInRange, collapsedApart, mapUnique, mapInRange, mapApart, batching⟩
  · intro h
    obtain ⟨vector, extent, agree⟩ := h.vector
    exact ⟨(), ⟨h.notNegative, h.notBeyond⟩, vector, extent, (), agree, (), h.offsetSorted, (),
      h.offsetUnique, (), h.offsetNonneg, (), h.collapsedSorted, (), h.collapsedUnique, (),
      h.collapsedInRange, (), h.batchingSorted, (), h.batchingUnique, (), h.batchingInRange, (),
      h.collapsedApart, (), h.mapUnique, (), h.mapInRange, (), h.mapApart, h.indicesBatching⟩

/-! ### The index vector dimension -/

theorem Binary64.ratio_pos (x : Binary64) : 0 < x.ratio.2 := by
  unfold ratio
  split
  · exact Nat.two_pow_pos _
  · exact Nat.one_pos

/-- A real number is one integer at most. -/
theorem Binary64.isInt_unique {x : Binary64} {m n : Int} (first : x.isInt m = true)
    (second : x.isInt n = true) : m = n := by
  simp only [isInt, beq_iff_eq, compareInt?] at first second
  by_cases undefined : x.isUndefined = true
  · simp [undefined] at first
  by_cases finite : x.isFinite = true
  · simp only [undefined, finite, if_true, Bool.false_eq_true, if_false, Option.some.injEq,
      Std.compare_eq_iff_eq] at first second
    have positive : (0 : Int) < x.ratio.2 := Int.natCast_pos.mpr x.ratio_pos
    exact Int.eq_of_mul_eq_mul_right (Int.ne_of_gt positive) (first.symm.trans second)
  · cases sign : x.negative <;> simp [undefined, finite, sign] at first

/-- A payload counts as an integer, or is a real number, or has no order. -/
theorem Payload.integer_or_real (payload : Payload) :
    (∃ v : Int, (∀ n, payload.isInt n = true ↔ n = v) ∧
      (∀ bound, payload.isBelow bound = .ok (v < bound)) ∧
      ∀ bound, payload.isAbove bound = .ok (bound < v)) ∨
    (∃ x, payload = .real x) ∨ ∀ bound, payload.isBelow bound = misuse .wrongSort := by
  cases payload with
  | int v => exact .inl ⟨v, fun n => beq_iff_eq.trans eq_comm, fun _ => rfl, fun _ => rfl⟩
  | bool value =>
    exact .inl ⟨if value then 1 else 0, fun n => beq_iff_eq.trans eq_comm, fun _ => rfl,
      fun _ => rfl⟩
  | real x => exact .inr (.inl ⟨x, rfl⟩)
  | _ => exact .inr (.inr fun _ => rfl)

/-- The index vector dimension of a valid mapping is one position of the indices or the one just
    after the last, and the batch dimensions are the other positions. -/
theorem Mapping.Valid.exists_vectorDim {rank : Option Nat} {indices : Tensor} {dims : GatherDims}
    {starts : List Extent} (h : Valid rank indices dims)
    (ranked : indices.shape = .ranked starts) :
    ∃ d ≤ starts.length, (∀ m : Nat, dims.indexVectorDim.isInt m = true ↔ m = d) ∧
      batchRank starts.length dims.indexVectorDim = .ok (starts.eraseIdx d).length := by
  have known : indices.rank? = some starts.length := by rw [Tensor.rank?, ranked, Shape.rank?]
  have notNegative := h.notNegative
  have notBeyond := h.notBeyond
  rw [known, isBeyond] at notBeyond
  rcases dims.indexVectorDim.integer_or_real with ⟨v, isInt, isBelow, isAbove⟩ | ⟨x, real⟩ | none
  · rw [isBelow, Except.ok.injEq, decide_eq_false_iff_not] at notNegative
    rw [isAbove, Except.ok.injEq, decide_eq_false_iff_not] at notBeyond
    refine ⟨v.toNat, by omega, ?_, ?_⟩
    · intro m
      rw [isInt]
      omega
    · rw [batchRank, isBelow, Check.ok_bind, Check.pure_eq, List.length_eraseIdx]
      congr 1
      simp only [decide_eq_true_eq]
      split <;> split <;> omega
  · obtain ⟨extent, success, -⟩ := h.vector
    have whole : x.isInt starts.length = true := by
      rw [indexVectorExtent, known, real] at success
      by_contra other
      simp [Payload.isInt, other, Tensor.dimAt, ranked, Payload.needInt,
        Check.bind_eq_ok] at success
    refine ⟨starts.length, Nat.le_refl _, ?_, ?_⟩
    · intro m
      rw [real, Payload.isInt]
      constructor
      · intro same
        exact Int.ofNat_inj.mp (Binary64.isInt_unique same whole)
      · rintro rfl
        exact whole
    · have notBelow : x.isBelow starts.length = false := by
        simp only [Binary64.isInt, beq_iff_eq] at whole
        simp [Binary64.isBelow, whole]
      rw [batchRank, real, Payload.isBelow, Payload.test, notBelow, List.length_eraseIdx]
      simp
  · rw [none] at notNegative
    exact absurd notNegative (Check.misuse_ne_ok _ _)

/-- The mapping of the scatter that writes where a gather reads. -/
def GatherDims.dual (dims : GatherDims) : ScatterDims where
  updateWindowDims := dims.offsetDims
  insertedWindowDims := dims.collapsedSliceDims
  scatterDimsToOperandDims := dims.startIndexMap
  indexVectorDim := dims.indexVectorDim
  inputBatchingDims := dims.operandBatchingDims
  scatterIndicesBatchingDims := dims.startIndicesBatchingDims

/-- Every mapping of a scatter is that of a gather. -/
theorem ScatterDims.exists_dual (dims : ScatterDims) :
    ∃ mapping : GatherDims, mapping.dual = dims :=
  ⟨⟨dims.updateWindowDims, dims.insertedWindowDims, dims.scatterDimsToOperandDims,
    dims.indexVectorDim, dims.inputBatchingDims, dims.scatterIndicesBatchingDims⟩, rfl⟩

/-- A scatter also asks that each dimension of the operand is spanned by the window, or inserted, or
    a batching dimension. -/
theorem Scatter.verifyMapping_eq_ok {operand indices : Tensor} {dims : GatherDims} {u : Unit} :
    verifyMapping operand indices dims.dual = .ok u ↔
      Mapping.Valid operand.rank? indices dims ∧ ∀ rank, operand.rank? = some rank →
        dims.offsetDims.length + dims.collapsedSliceDims.length +
          dims.operandBatchingDims.length = rank := by
  have covered : ∀ v : Unit, ensureCovered operand.rank? dims.dual = .ok v ↔
      ∀ rank, operand.rank? = some rank → dims.offsetDims.length +
        dims.collapsedSliceDims.length + dims.operandBatchingDims.length = rank := by
    intro v
    cases operand.rank? <;> simp [ensureCovered, GatherDims.dual]
  simp only [verifyMapping, Check.bind_eq_ok, Mapping.ensureIndexVectorDim_eq_ok,
    Check.ensure_eq_ok, Mapping.ensureSorted_eq_ok, Mapping.ensureUnique_eq_ok,
    Check.checkAll_eq_ok, Mapping.ensureInRange_eq_ok, Mapping.ensureDisjoint_eq_ok,
    Mapping.ensureIndicesBatching_eq_ok, covered]
  constructor
  · rintro ⟨-, ⟨below, beyond⟩, -, offsetSorted, -, offsetUnique, -, offsetNonneg, -,
      collapsedSorted, -, collapsedUnique, -, collapsedInRange, -, batchingSorted, -,
      batchingUnique, -, batchingInRange, -, collapsedApart, vector, extent, -, agree, -, mapUnique,
      -, mapInRange, -, mapApart, -, batching, total⟩
    exact ⟨⟨below, beyond, ⟨vector, extent, agree⟩, offsetSorted, offsetUnique, offsetNonneg,
      collapsedSorted, collapsedUnique, collapsedInRange, batchingSorted, batchingUnique,
      batchingInRange, collapsedApart, mapUnique, mapInRange, mapApart, batching⟩, total⟩
  · rintro ⟨h, total⟩
    obtain ⟨vector, extent, agree⟩ := h.vector
    exact ⟨(), ⟨h.notNegative, h.notBeyond⟩, (), h.offsetSorted, (), h.offsetUnique, (),
      h.offsetNonneg, (), h.collapsedSorted, (), h.collapsedUnique, (), h.collapsedInRange, (),
      h.batchingSorted, (), h.batchingUnique, (), h.batchingInRange, (), h.collapsedApart, vector,
      extent, (), agree, (), h.mapUnique, (), h.mapInRange, (), h.mapApart, (), h.indicesBatching,
      total⟩

/-- A scatter of one update into one operand. -/
theorem Scatter.verify_singleton_eq_ok {input index update : Ty} {dims : Option ScatterDims}
    {u : Unit} :
    verify [input] index (some [update]) dims = .ok u ↔
      ∃ operand indices window mapping, input = operand.ty ∧ index = indices.ty ∧
        update = window.ty ∧ indices.element.isInteger = true ∧ dims = some mapping ∧
        verifyTensors operand indices window mapping = .ok () := by
  have single : ∀ (t : Ty) (what : String) (tensors : List Tensor),
      collect (Ty.needTensor · what) [t] = .ok tensors ↔
        ∃ view, t = view.ty ∧ tensors = [view] := by
    intro t what tensors
    simp [Check.collect_eq_ok, List.forall₂_cons_left_iff, Ty.needTensor_eq_ok]
  have first : ∀ t : Tensor, firstRanked t [t] = t := by
    intro t
    unfold firstRanked
    cases ranked : t.hasRank <;> simp [ranked]
  simp only [verify, Check.bind_eq_ok, single, Check.ensure_eq_ok, Check.needItems_eq_ok,
    Ty.needTensor_eq_ok]
  constructor
  · rintro ⟨-, -, updates, given, -, -, inputs, ⟨operand, rfl, rfl⟩, windows, collected, indices,
      rfl, -, integer, success⟩
    obtain rfl := Option.some.inj given
    obtain ⟨window, rfl, rfl⟩ := (single _ _ _).mp collected
    simp only [ensureAlike, Check.bind_eq_ok, Check.needPart_eq_ok, first] at success
    obtain ⟨-, -, -, -, mapping, rfl, success⟩ := success
    exact ⟨operand, indices, window, mapping, rfl, rfl, rfl, integer, rfl, success⟩
  · rintro ⟨operand, indices, window, mapping, rfl, rfl, rfl, integer, rfl, success⟩
    refine ⟨(), rfl, [window.ty], rfl, (), rfl, [operand], ⟨operand, rfl, rfl⟩, [window],
      (single _ _ _).mpr ⟨window, rfl, rfl⟩, indices, rfl, (), integer, ?_⟩
    simp only [ensureAlike, Check.bind_eq_ok, Check.needPart_eq_ok, first]
    exact ⟨(), rfl, (), rfl, mapping, rfl, success⟩

end TensorTyping
