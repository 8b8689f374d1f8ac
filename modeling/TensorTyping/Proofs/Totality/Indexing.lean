import TensorTyping.Op.Indexing
import TensorTyping.Proofs.Indexing.Positions
import TensorTyping.Proofs.Totality.Reduction
import TensorTyping.Proofs.Totality.Reshaping

/-!
# Gathers, scatters and dynamic slices without misuse

A valid mapping leaves exactly as many slice sizes as there are offset dimensions, and the start
indices supply all other dimensions of a gather; a scatter counts the dimensions of its update in
the same way. All other positions that are read were found to be in range. So no position is looked
up that is not there.
-/

namespace TensorTyping

open Check

variable {excused : Misuse → Prop}

namespace Mapping

variable {indexVectorDim : Payload} {indices : Tensor} {n : Int}

theorem ensureIndexVectorDim_meets (value : indexVectorDim.needInt = .ok n) (indices : Tensor)
    (what : String) :
    Meets excused (fun _ => 0 ≤ n ∧ ∀ rank : Nat, indices.rank? = some rank → n ≤ rank)
      (ensureIndexVectorDim indices indexVectorDim what) := by
  have compared : Meets excused
      (fun beyond => beyond = false → ∀ rank : Nat, indices.rank? = some rank → n ≤ rank)
      (isBeyond indexVectorDim indices.rank?) := by
    cases indices.rank? with
    | none => simp [isBeyond, Meets]
    | some rank =>
      refine .of_ok (Payload.test_of_needInt value _ _) fun notAbove => ?_
      simpa using notAbove
  apply Meets.bind_ok (Payload.test_of_needInt value _ _)
  apply compared.bind
  intro beyond _ bound
  apply Meets.ensure.mono
  intro _ _ inside
  simp only [Bool.and_eq_true, Bool.not_eq_true', decide_eq_false_iff_not, Int.not_lt] at inside
  exact ⟨inside.1, bound inside.2⟩

/-- A vector dimension that is not just after the last one is a position of the indices. -/
theorem indexVectorExtent_meets (value : indexVectorDim.needInt = .ok n) (nonneg : 0 ≤ n)
    (bound : ∀ rank : Nat, indices.rank? = some rank → n ≤ rank) :
    Meets excused (fun _ => True) (indexVectorExtent indices indexVectorDim) := by
  unfold indexVectorExtent
  cases known : indices.rank? with
  | none => trivial
  | some rank =>
    dsimp only
    split
    · trivial
    · rename_i other
      rw [Payload.isInt_of_needInt value, decide_eq_true_eq] at other
      have within := bound rank known
      have has : indices.HasDim n := Tensor.hasDim_of_rank known nonneg (by omega)
      rw [Tensor.dimAt_of_needInt value, has.dim_eq]
      trivial

theorem batchRank_meets (rank : Nat) (number : indexVectorDim.Integral) :
    Meets excused (fun _ => True) (batchRank rank indexVectorDim) := by
  apply (number.numeric.test _ _).bind
  intro below _ _
  trivial

theorem ensureInRange_meets (dims : List Int) (bound : Option Nat) (name range : String) :
    Meets excused (fun _ => ∀ d ∈ dims, Dimensions.isPosition bound d = true)
      (ensureInRange dims bound name range) :=
  .checkAll_forall fun _ _ => Meets.ensure

theorem ensureDisjoint_meets (a b : List Int) (nameA nameB : String) :
    Meets excused (fun _ => True) (ensureDisjoint a b nameA nameB) := by
  unfold ensureDisjoint
  split <;> trivial

theorem ensureIndicesBatching_meets (indices : Tensor) (dims operandDims : List Int)
    (indexVectorDim : Payload) (name operandName : String) :
    Meets excused (fun _ => True)
      (ensureIndicesBatching indices dims operandDims indexVectorDim name operandName) := by
  have positions : Meets excused (fun _ => True)
      (ensureIndicesPositions dims indices.rank? name) := by
    cases indices.rank? with
    | none => trivial
    | some rank => exact (ensureInRange_meets ..).weaken
  apply Meets.ensure.andThen
  apply positions.andThen
  apply Meets.ensure.andThen
  exact Meets.ensure.weaken

theorem ValidBatching.hasDim {dims operandDims : List Int}
    (valid : ValidBatching indices dims operandDims indexVectorDim) :
    ∀ d ∈ dims, indices.HasDim d := by
  intro d member rank known
  exact Dimensions.isPosition_some.mp (valid.inRange rank known d member)

theorem ensureBatchingExtents_meets {operand : Tensor} {operandDims indicesDims : List Int}
    (ofOperand : ∀ d ∈ operandDims, operand.HasDim d)
    (ofIndices : ∀ d ∈ indicesDims, indices.HasDim d) :
    Meets excused (fun _ => True)
      (ensureBatchingExtents operand indices operandDims indicesDims) := by
  apply Meets.checkAll
  rintro ⟨operandDim, indicesDim⟩ member
  have inside := List.of_mem_zip member
  apply Meets.bind_ok (ofOperand operandDim inside.1).dim_eq
  apply Meets.bind_ok (ofIndices indicesDim inside.2).dim_eq
  exact Meets.ensure.weaken

end Mapping

/-! ### Gathers -/

namespace Gather

variable {operand starts : Tensor} {dims : GatherDims}

theorem verifyMapping_meets (rank : Option Nat) (number : dims.indexVectorDim.Integral) :
    Meets excused (fun _ => Mapping.Valid rank starts dims) (verifyMapping rank starts dims) := by
  have accepted : Meets excused (fun _ => True) (verifyMapping rank starts dims) := by
    obtain ⟨n, value⟩ := number
    apply (Mapping.ensureIndexVectorDim_meets value starts _).bind
    rintro _ _ ⟨nonneg, bound⟩
    apply (Mapping.indexVectorExtent_meets value nonneg bound).bind
    intro vector _ _
    apply Meets.ensure.andThen
    apply Meets.ensure.andThen
    apply Meets.ensure.andThen
    apply (Meets.checkAll fun _ _ => Meets.ensure.weaken).andThen
    apply Meets.ensure.andThen
    apply Meets.ensure.andThen
    apply (Mapping.ensureInRange_meets ..).andThen
    apply Meets.ensure.andThen
    apply Meets.ensure.andThen
    apply (Mapping.ensureInRange_meets ..).andThen
    apply (Mapping.ensureDisjoint_meets ..).andThen
    apply Meets.ensure.andThen
    apply (Mapping.ensureInRange_meets ..).andThen
    apply (Mapping.ensureDisjoint_meets ..).andThen
    exact Mapping.ensureIndicesBatching_meets ..
  apply accepted.mono
  intro _ success _
  exact verifyMapping_eq_ok.mp success

theorem verifySize_meets {i : Nat} (has : operand.HasDim i) (size : Extent) :
    Meets excused (fun _ => size.WellFormed) (verifySize operand i size) := by
  cases size with
  | none => exact Extent.wellFormed_none
  | some n =>
    apply Meets.ensure_bind
    intro nonneg
    have form : Extent.WellFormed (some n) := Extent.wellFormed_some.mpr nonneg
    apply Meets.bind_ok has.dim_eq
    split
    · exact form
    · exact Meets.ensure.mono fun _ _ _ => form

theorem verifyUnitSizes_meets {sizes : List Extent} {positions : List Int} (name : String)
    (inRange : ∀ d ∈ positions, Dimensions.isPosition (some sizes.length) d = true) :
    Meets excused (fun _ => True) (verifyUnitSizes sizes name positions) := by
  apply Meets.checkAll
  intro d member
  obtain ⟨nonneg, below⟩ := Dimensions.isPosition_some.mp (inRange d member)
  apply (Meets.itemAt (fun _ _ => trivial) nonneg below).bind
  intro size _ _
  split
  · trivial
  · exact Meets.ensure.weaken

/-- The sizes are well-formed extents, one for each dimension that the mapping speaks of, and those
    that are not dropped are as many as the offset dimensions. -/
structure ValidSizes (starts : Tensor) (dims : GatherDims) (sizes : List Extent) : Prop where
  mapping : Mapping.Valid (some sizes.length) starts dims
  total : dims.offsetDims.length + dims.collapsedSliceDims.length +
    dims.operandBatchingDims.length = sizes.length
  formed : ∀ size ∈ sizes, size.WellFormed

theorem verifySizes_meets {sizes : List Extent}
    (valid : Mapping.Valid (some (operand.rank?.getD sizes.length)) starts dims) :
    Meets excused (fun _ => ValidSizes starts dims sizes)
      (verifySizes operand starts dims sizes) := by
  apply Meets.ensure_bind
  intro rank
  have same : operand.rank?.getD sizes.length = sizes.length := by
    cases known : operand.rank? with
    | none => rfl
    | some n => simpa [Tensor.hasOtherRank, known] using rank
  rw [same] at valid
  have hasDim : ∀ d : Int, 0 ≤ d → d < sizes.length → operand.HasDim d :=
    fun _ => Tensor.hasDim_of_not_hasOtherRank rank
  apply Meets.ensure_bind
  intro total
  have sized : ∀ i size, sizes[i]? = some size →
      Meets excused (fun _ => size.WellFormed) (verifySize operand i size) := by
    intro i size found
    have inside := (List.getElem?_eq_some_iff.mp found).1
    exact verifySize_meets (hasDim i (Int.natCast_nonneg i) (Int.ofNat_lt.mpr inside)) size
  apply (Meets.checkEach_forall sized).bind
  intro _ _ formed
  apply (verifyUnitSizes_meets _ valid.collapsedInRange).andThen
  apply (verifyUnitSizes_meets _ valid.batchingInRange).andThen
  have batching : ∀ d ∈ dims.operandBatchingDims, operand.HasDim d := by
    intro d member
    obtain ⟨nonneg, below⟩ := Dimensions.isPosition_some.mp (valid.batchingInRange d member)
    exact hasDim d nonneg below
  apply (Mapping.ensureBatchingExtents_meets batching valid.indicesBatching.hasDim).mono
  intro _ _ _
  exact ⟨valid, total, formed⟩

/-- No position of the result goes without an item, as long as there are enough sizes and start
    indices for the positions that are left. -/
theorem fill_meets {α : Type} {property : α → Prop} {starts : List α} {d : Nat}
    (vector : ∀ m : Nat, dims.indexVectorDim.isInt m = true ↔ m = d)
    (start : ∀ item ∈ starts, property item) {count position : Nat} {sizes : List α} {next : Nat}
    (size : ∀ item ∈ sizes, property item)
    (offset : (List.range' position count).countP (listed dims.offsetDims) ≤ sizes.length)
    (batch : (List.range' position count).countP (fun i => !listed dims.offsetDims i) ≤
      (batchFrom d starts next).length) :
    Meets excused (fun result => ∀ item ∈ result, property item)
      (fill starts dims count position sizes next) := by
  induction count generalizing position sizes next with
  | zero => exact List.forall_mem_nil _
  | succ count ih =>
    have source := ite_isInt_eq_sourceFrom vector next
    rw [List.range'_succ, List.countP_cons] at offset batch
    unfold fill
    change Meets excused _ (if listed dims.offsetDims position = true then _ else _)
    cases marked : listed dims.offsetDims position with
    | true =>
      simp only [marked, if_true, Bool.not_true, Bool.false_eq_true, if_false] at offset batch ⊢
      cases sizes with
      | nil => exact absurd offset (Nat.not_succ_le_zero _)
      | cons first sizes =>
        obtain ⟨firstHolds, sizesHold⟩ := List.forall_mem_cons.mp size
        apply (ih sizesHold (Nat.le_of_succ_le_succ offset) batch).bind
        intro rest _ restHold
        exact List.forall_mem_cons.mpr ⟨firstHolds, restHold⟩
    | false =>
      simp only [marked, if_true, Bool.not_false, Bool.false_eq_true, if_false, source]
        at offset batch ⊢
      cases found : starts[sourceFrom d next]? with
      | none =>
        rw [batchFrom_of_none found] at batch
        exact absurd batch (Nat.not_succ_le_zero _)
      | some item =>
        rw [batchFrom_of_some found] at batch
        apply Meets.bind_ok (itemAt_natCast_eq_ok.mpr found)
        apply (ih size offset (Nat.le_of_succ_le_succ batch)).bind
        intro rest _ restHold
        exact List.forall_mem_cons.mpr ⟨start item (List.mem_of_getElem? found), restHold⟩

/-- The sizes that are kept and the start indices cover the result of a valid gather. -/
theorem resultDims_meets {property : Extent → Prop} {startDims sizes : List Extent} {rank : Nat}
    (valid : ValidSizes starts dims sizes) (shape : starts.shape = .ranked startDims)
    (counted : Mapping.batchRank startDims.length dims.indexVectorDim = .ok rank)
    (inRange : ∀ k ∈ dims.offsetDims, k < ((dims.offsetDims.length + rank : Nat) : Int))
    (start : ∀ dim ∈ startDims, property dim) (size : ∀ dim ∈ sizes, property dim) :
    Meets excused (fun result => ∀ dim ∈ result, property dim)
      (resultDims (dims.offsetDims.length + rank) sizes.length startDims sizes dims) := by
  obtain ⟨d, -, vector, batchRank⟩ := valid.mapping.exists_vectorDim shape
  obtain rfl : (startDims.eraseIdx d).length = rank :=
    Except.ok.inj (batchRank.symm.trans counted)
  apply Meets.bind_ok (keptSizes_eq_ok _ sizes _ _ (Nat.zero_add _))
  have kept := valid.mapping.length_kept valid.total sizes rfl
  have offset := countP_listed valid.mapping.offsetUnique
    fun k member => ⟨valid.mapping.offsetNonneg k member, inRange k member⟩
  have both := List.length_eq_countP_add_countP (listed dims.offsetDims)
    (l := List.range' 0 (dims.offsetDims.length + (startDims.eraseIdx d).length))
  simp only [List.length_range', Bool.not_eq_true, Bool.decide_eq_false] at both
  apply fill_meets vector start
  · intro dim member
    exact size dim (mem_of_mem_itemsAt member)
  · rw [List.drop_zero]
    change _ ≤ (itemsAt (fun i => !listed (Mapping.dropped dims) i) 0 sizes).length
    omega
  · rw [batchFrom_zero]
    omega

theorem compose_meets {startDims sizes : List Extent} (operandForm : operand.WellFormed)
    (startsForm : starts.WellFormed) (shape : starts.shape = .ranked startDims)
    (number : dims.indexVectorDim.Integral) (valid : ValidSizes starts dims sizes) :
    Meets excused Tensor.WellFormed (compose operand startDims dims (some sizes)) := by
  apply (Mapping.batchRank_meets startDims.length number).bind
  intro rank counted _
  apply (Meets.checkAll_forall fun _ _ => Meets.ensure).bind
  intro _ _ inRange
  apply (resultDims_meets valid shape counted inRange (startsForm.shape startDims shape)
    valid.formed).bind
  intro extents _ form
  exact Tensor.form_meets operandForm.isElement operandForm.element
    (Shape.wellFormed_ranked.mpr form)

theorem infer_meets {operand starts : Ty} {mapping : Option GatherDims} {sizes : List Extent}
    (operandForm : operand.WellFormed) (startsForm : starts.WellFormed)
    (given : ∃ dims, mapping = some dims ∧ dims.indexVectorDim.Integral) :
    Meets excused Tensor.WellFormed (infer operand starts mapping (some sizes)) := by
  obtain ⟨dims, found, number⟩ := given
  apply (Ty.needTensor_meets operandForm _).bind
  intro operand _ operandForm
  apply (Ty.needTensor_meets startsForm _).bind
  intro starts _ startsForm
  apply Meets.ensure.andThen
  apply Meets.bind_ok (needPart_eq_ok.mpr found)
  have accepted : Meets excused (fun _ => ValidSizes starts dims sizes)
      (verify operand starts dims (some sizes)) := by
    apply (verifyMapping_meets _ number).bind
    intro _ _ valid
    exact verifySizes_meets valid
  apply accepted.bind
  intro _ _ valid
  cases shape : starts.shape with
  | unranked =>
    rw [resultTensor, shape]
    exact operandForm.unranked
  | ranked startDims =>
    rw [resultTensor, shape]
    exact compose_meets operandForm startsForm shape number valid

/-! ### Slice sizes as an operand -/

theorem sizeCount_meets {sizes : Tensor} (operand : Tensor) (form : sizes.WellFormed)
    (vector : (!sizes.hasOtherRank 1) = true) :
    Meets excused Extent.WellFormed (sizeCount operand sizes) := by
  apply (form.dim (Tensor.hasDim_of_not_hasOtherRank vector (Int.le_refl 0) (by decide))).bind
  intro dim _ known
  cases dim with
  | some n => exact known
  | none =>
    cases operand.rank? with
    | none => exact Extent.wellFormed_none
    | some rank => exact Extent.wellFormed_some.mpr (Int.natCast_nonneg rank)

/-- The number of slice sizes is known, though no sizes are, and more than a list may hold. -/
def Outgrows (operand sizes : Ty) (values : Option (List Extent)) : Prop :=
  ∃ (operandTensor sizesTensor : Tensor) (n : Int), values = none ∧ operand = operandTensor.ty ∧
    sizes = sizesTensor.ty ∧ sizesTensor.hasOtherRank 1 = false ∧
    sizesTensor.element.isInteger = true ∧
    sizeCount operandTensor sizesTensor = .ok (some n) ∧
    Extent.compatible (some n) (operandTensor.rank?.map Int.ofNat) = true ∧ signedLimit ≤ n

theorem inferDynamic_meets {operand starts sizes : Ty} {mapping : Option GatherDims}
    {values : Option (List Extent)} (operandForm : operand.WellFormed)
    (startsForm : starts.WellFormed) (sizesForm : sizes.WellFormed)
    (given : ∃ dims, mapping = some dims ∧ dims.indexVectorDim.Integral)
    (long : Outgrows operand sizes values → excused .overflow) :
    Meets excused Tensor.WellFormed (inferDynamic operand starts sizes mapping values) := by
  apply (Ty.needTensor_meets operandForm _).bind
  intro operandTensor operandView operandTensorForm
  apply (Ty.needTensor_meets sizesForm _).bind
  intro sizesTensor sizesView sizesTensorForm
  apply Meets.ensure_bind
  intro vector
  apply Meets.ensure_bind
  intro integer
  apply (sizeCount_meets operandTensor sizesTensorForm vector).bind
  intro count counted countForm
  apply Meets.ensure_bind
  intro agree
  have decided : Meets excused (fun _ => True) (dynamicSizes count values) := by
    cases values with
    | some sizes => exact Meets.ensure_bind fun _ => trivial
    | none =>
      unfold dynamicSizes
      cases count with
      | none => trivial
      | some n =>
        have tooLong (length : signedLimit ≤ n) : excused .overflow :=
          long ⟨operandTensor, sizesTensor, n, rfl, Ty.needTensor_eq_ok.mp operandView,
            Ty.needTensor_eq_ok.mp sizesView, by simpa using vector, integer, counted, agree,
            length⟩
        apply (Dimensions.unknownDims_meets (Extent.wellFormed_some.mp countForm) tooLong).bind
        intro dims _ _
        trivial
  apply decided.bind
  intro sizes _ _
  cases sizes with
  | some sizes => exact infer_meets operandForm startsForm given
  | none =>
    obtain ⟨dims, found, number⟩ := given
    apply (Ty.needTensor_meets startsForm _).bind
    intro starts _ startsForm
    apply Meets.bind_ok (needPart_eq_ok.mpr found)
    apply (verifyMapping_meets _ number).andThen
    exact operandTensorForm.unranked

end Gather

/-! ### Scatters -/

namespace Scatter

variable {operand indices : Tensor}

theorem verifyMapping_meets {dims : GatherDims} (operand indices : Tensor)
    (number : dims.indexVectorDim.Integral) :
    Meets excused (fun _ => Mapping.Valid operand.rank? indices dims)
      (verifyMapping operand indices dims.dual) := by
  have covered : Meets excused (fun _ => True) (ensureCovered operand.rank? dims.dual) := by
    cases operand.rank? with
    | none => trivial
    | some rank => exact Meets.ensure.weaken
  have accepted : Meets excused (fun _ => True) (verifyMapping operand indices dims.dual) := by
    obtain ⟨n, value⟩ := number
    apply (Mapping.ensureIndexVectorDim_meets value indices _).bind
    rintro _ _ ⟨nonneg, bound⟩
    apply Meets.ensure.andThen
    apply Meets.ensure.andThen
    apply (Meets.checkAll fun _ _ => Meets.ensure.weaken).andThen
    apply Meets.ensure.andThen
    apply Meets.ensure.andThen
    apply (Mapping.ensureInRange_meets ..).andThen
    apply Meets.ensure.andThen
    apply Meets.ensure.andThen
    apply (Mapping.ensureInRange_meets ..).andThen
    apply (Mapping.ensureDisjoint_meets ..).andThen
    apply (Mapping.indexVectorExtent_meets value nonneg bound).bind
    intro vector _ _
    apply Meets.ensure.andThen
    apply Meets.ensure.andThen
    apply (Mapping.ensureInRange_meets ..).andThen
    apply (Mapping.ensureDisjoint_meets ..).andThen
    apply (Mapping.ensureIndicesBatching_meets ..).andThen
    exact covered
  apply accepted.mono
  intro _ success _
  exact (verifyMapping_eq_ok.mp success).1

theorem verifyWindows_meets {dims : ScatterDims} {update : List Extent} (operand : Shape)
    (inRange : ∀ d ∈ dims.updateWindowDims, 0 ≤ d ∧ d < update.length) :
    Meets excused (fun _ => True) (verifyWindows operand update dims) := by
  cases operand with
  | unranked => trivial
  | ranked bounds =>
    apply Meets.checkAll
    rintro ⟨bound, d⟩ member
    obtain ⟨nonneg, below⟩ := inRange d (List.of_mem_zip member).2
    apply (Meets.itemAt (fun _ _ => trivial) nonneg below).bind
    intro extent _ _
    split
    · exact Meets.ensure.weaken
    · trivial

/-- No dimension of the indices is looked up that is not there, as long as there are enough of them
    for the dimensions of the update that are left. -/
theorem verifyBatch_meets {dims : ScatterDims} {startDims update : List Extent} {d : Nat}
    (shape : indices.shape = .ranked startDims)
    (vector : ∀ m : Nat, dims.indexVectorDim.isInt m = true ↔ m = d) {position next : Nat}
    (fits : (itemsAt (fun i => !listed dims.updateWindowDims i) position update).length ≤
      (batchFrom d startDims next).length) :
    Meets excused (fun _ => True)
      (verifyBatch indices dims (update.zipIdx position) next) := by
  induction update generalizing position next with
  | nil => trivial
  | cons extent rest ih =>
    have source := ite_isInt_eq_sourceFrom vector next
    rw [List.zipIdx_cons, verifyBatch]
    change Meets excused _ (if listed dims.updateWindowDims position = true then _ else _)
    rw [itemsAt_cons] at fits
    cases marked : listed dims.updateWindowDims position with
    | true =>
      simp only [marked, Bool.not_true, Bool.false_eq_true, if_false] at fits
      exact ih fits
    | false =>
      simp only [marked, Bool.not_false, if_true, List.length_cons] at fits
      cases found : startDims[sourceFrom d next]? with
      | none =>
        rw [batchFrom_of_none found] at fits
        exact absurd fits (Nat.not_succ_le_zero _)
      | some bound =>
        have read : indices.dim (sourceFrom d next) = .ok bound := by
          rw [Tensor.dim, shape]
          exact itemAt_natCast_eq_ok.mpr found
        rw [batchFrom_of_some found] at fits
        simp only [Bool.false_eq_true, if_false, source]
        apply Meets.bind_ok read
        apply Meets.ensure.andThen
        exact ih (Nat.le_of_succ_le_succ fits)

theorem verifyUpdate_meets {dims : GatherDims} {startDims : List Extent} (update : List Extent)
    (valid : Mapping.Valid operand.rank? indices dims)
    (shape : indices.shape = .ranked startDims) :
    Meets excused (fun _ => True)
      (verifyUpdate operand indices update startDims.length dims.dual) := by
  obtain ⟨d, -, vector, batchRank⟩ := valid.exists_vectorDim shape
  apply Meets.bind_ok batchRank
  apply Meets.ensure_bind
  intro rank
  change update.length = dims.offsetDims.length + (startDims.eraseIdx d).length at rank
  apply (Mapping.ensureInRange_meets ..).bind
  intro _ _ positions
  have inRange : ∀ k ∈ dims.offsetDims, 0 ≤ k ∧ k < update.length :=
    fun k member => Dimensions.isPosition_some.mp (positions k member)
  apply (verifyWindows_meets operand.shape inRange).andThen
  have fits : (itemsAt (fun i => !listed dims.offsetDims i) 0 update).length ≤
      (batchFrom d startDims 0).length := by
    have window := valid.length_offset fun k member => (inRange k member).2
    have both := @length_itemsAt_add _ (listed dims.offsetDims) 0 update
    rw [batchFrom_zero]
    omega
  apply (verifyBatch_meets shape vector fits).andThen
  split
  · apply Mapping.ensureBatchingExtents_meets
    · exact fun k member => Dimensions.hasDim_of_isPosition (valid.batchingInRange k member)
    · exact valid.indicesBatching.hasDim
  · trivial

theorem verifyTensors_meets {dims : ScatterDims} (operand indices update : Tensor)
    (number : dims.indexVectorDim.Integral) :
    Meets excused (fun _ => True) (verifyTensors operand indices update dims) := by
  obtain ⟨mapping, rfl⟩ := dims.exists_dual
  apply (verifyMapping_meets operand indices number).bind
  intro _ _ valid
  cases shape : indices.shape with
  | unranked => simp [Tensor.rank?, shape, Shape.rank?, Meets]
  | ranked startDims =>
    have known : indices.rank? = some startDims.length := by rw [Tensor.rank?, shape, Shape.rank?]
    rw [known]
    split
    · rename_i same _
      obtain rfl := Option.some.inj same
      exact verifyUpdate_meets _ valid shape
    · trivial

theorem verify_meets {inputs : List Ty} {indices : Ty} {updates : Option (List Ty)}
    {mapping : Option ScatterDims} (inputsForm : Ty.FormedAll inputs)
    (indicesForm : indices.WellFormed) (updatesGiven : Op.TypesGiven updates)
    (given : ∃ dims, mapping = some dims ∧ dims.indexVectorDim.Integral) :
    Meets excused (fun _ => True) (verify inputs indices updates mapping) := by
  obtain ⟨types, typesFound, typesForm⟩ := updatesGiven
  obtain ⟨dims, found, number⟩ := given
  apply Meets.ensure_bind
  intro present
  apply Meets.bind_ok (needItems_eq_ok.mpr typesFound)
  apply Meets.ensure_bind
  intro sameLength
  apply (collect_needTensor_meets inputsForm _).bind
  intro tensors collected _
  apply (collect_needTensor_meets typesForm _).bind
  intro windows collected' _
  apply (Ty.needTensor_meets indicesForm _).bind
  intro indices _ _
  apply Meets.ensure.andThen
  have someInput := Op.length_pos_of_needTensor present collected
  have someUpdate : 0 < windows.length := by
    rw [length_of_collect collected', ← sameLength, ← length_of_collect collected]
    exact someInput
  obtain ⟨input, otherInputs, rfl⟩ := List.exists_cons_of_length_pos someInput
  obtain ⟨update, otherUpdates, rfl⟩ := List.exists_cons_of_length_pos someUpdate
  apply (Meets.checkAll fun _ _ => Meets.ensure.weaken).andThen
  apply (Meets.checkAll fun _ _ => Meets.ensure.weaken).andThen
  apply Meets.bind_ok (needPart_eq_ok.mpr found)
  exact verifyTensors_meets _ indices _ number

end Scatter

/-! ### Slices at computed positions -/

namespace DynamicSlice

theorem verifyStarts_meets {starts : Option (List Ty)} (operand : Tensor)
    (given : Op.TypesGiven starts) :
    Meets excused (fun _ => True) (verifyStarts operand starts) := by
  obtain ⟨types, found, form⟩ := given
  apply Meets.bind_ok (needItems_eq_ok.mpr found)
  apply Meets.ensure.andThen
  have each : ∀ item ∈ types.zipIdx,
      Meets excused (fun _ => True) (verifyStart item.2 item.1) := by
    rintro ⟨type, i⟩ member
    apply (Ty.needTensor_meets (form type (List.fst_mem_of_mem_zipIdx member)) _).bind
    intro index _ _
    apply Meets.ensure.andThen
    apply Meets.ensure.andThen
    trivial
  apply (Meets.collect each).bind
  intro elements _ _
  exact Meets.ensure.weaken

theorem verifySize_meets {operand : Tensor} {i : Nat} (has : operand.HasDim i) (size : Int) :
    Meets excused (fun _ => 0 ≤ size) (verifySize operand i size) := by
  apply Meets.ensure_bind
  intro nonneg
  apply Meets.bind_ok has.dim_eq
  split
  · exact nonneg
  · exact Meets.ensure.mono fun _ _ _ => nonneg

theorem infer_meets {operand : Ty} {starts : Option (List Ty)} (sizes : Option (List Int))
    (form : operand.WellFormed) (given : Op.TypesGiven starts) :
    Meets excused Tensor.WellFormed (infer operand starts sizes) := by
  apply (Ty.needTensor_meets form _).bind
  intro operand _ form
  apply (verifyStarts_meets operand given).andThen
  cases sizes with
  | none => exact form
  | some sizes =>
    apply Meets.ensure_bind
    intro rank
    have sized : ∀ i size, sizes[i]? = some size →
        Meets excused (fun _ => 0 ≤ size) (verifySize operand i size) := by
      intro i size found
      have inside := (List.getElem?_eq_some_iff.mp found).1
      exact verifySize_meets (Tensor.hasDim_of_not_hasOtherRank rank (Int.natCast_nonneg i)
        (Int.ofNat_lt.mpr inside)) size
    apply (Meets.checkEach_forall sized).bind
    intro _ _ nonneg
    apply Tensor.form_meets form.isElement form.element
    refine Shape.wellFormed_ranked.mpr (List.forall_mem_map.mpr fun size member => ?_)
    exact Extent.wellFormed_some.mpr (nonneg size member)

theorem verifyUpdateShape_meets (operand update : Shape) :
    Meets excused (fun _ => True) (verifyUpdateShape operand update) := by
  unfold verifyUpdateShape
  split
  · apply Meets.ensure.andThen
    apply Meets.checkEach
    rintro i ⟨bound, extent⟩ _
    unfold verifyUpdateExtent
    split
    · exact Meets.ensure.weaken
    · trivial
  · trivial

theorem inferUpdate_meets {operand update : Ty} {starts : Option (List Ty)}
    (operandForm : operand.WellFormed) (updateForm : update.WellFormed)
    (given : Op.TypesGiven starts) :
    Meets excused Tensor.WellFormed (inferUpdate operand update starts) := by
  apply (Ty.needTensor_meets operandForm _).bind
  intro operand _ operandForm
  apply (Ty.needTensor_meets updateForm _).bind
  intro update _ _
  apply Meets.ensure.andThen
  apply (verifyUpdateShape_meets ..).andThen
  apply (verifyStarts_meets operand given).andThen
  exact operandForm

end DynamicSlice

namespace Op

open Ty

theorem decodeOptional_meets {payload : Payload} (timed : payload.TimedIsExcused excused)
    (name : String) : Meets excused (fun _ => True) (decodeOptional payload name) := by
  unfold decodeOptional
  split
  · trivial
  · exact (payload.decodeInts_meets timed _ _).bind fun _ _ _ => trivial

theorem GatherSlices.infer_meets {op : GatherSlices} (operand : op.operand.WellFormed)
    (starts : op.starts.WellFormed)
    (dimensions : ∃ dims, op.dimensions = some dims ∧ dims.indexVectorDim.Integral)
    (timed : op.sizes.TimedIsExcused excused) : Meets excused FormedAll op.infer := by
  apply (Payload.decodeInts_meets timed _ _).bind
  intro sizes _ _
  apply (Gather.infer_meets operand starts dimensions).bind
  intro t _ form
  exact .single form.ty

/-- The number of slice sizes is known, though no sizes are given, and more than a list may hold. -/
def DynamicGather.Outgrows (op : DynamicGather) : Prop :=
  op.sizeValues.isAbsent = true ∧ Gather.Outgrows op.operand op.sizes none

theorem DynamicGather.infer_meets {op : DynamicGather} (operand : op.operand.WellFormed)
    (starts : op.starts.WellFormed) (sizes : op.sizes.WellFormed)
    (dimensions : ∃ dims, op.dimensions = some dims ∧ dims.indexVectorDim.Integral)
    (timed : op.sizeValues.TimedIsExcused excused) (long : op.Outgrows → excused .overflow) :
    Meets excused FormedAll op.infer := by
  apply (decodeOptional_meets timed _).bind
  intro values decoded _
  have tooLong (outgrown : Gather.Outgrows op.operand op.sizes (values.map (List.map some))) :
      excused .overflow := by
    have absent : op.sizeValues.isAbsent = true := by
      by_contra given
      obtain ⟨_, _, _, none, _⟩ := outgrown
      obtain rfl := Option.map_eq_none_iff.mp none
      simp [decodeOptional, given, bind_eq_ok] at decoded
    rw [decodeOptional, if_pos absent] at decoded
    obtain rfl := Except.ok.inj decoded
    exact long ⟨absent, outgrown⟩
  apply (Gather.inferDynamic_meets operand starts sizes dimensions tooLong).bind
  intro t _ form
  exact .single form.ty

theorem ScatterUpdates.infer_meets {op : ScatterUpdates} (inputs : FormedAll op.inputs)
    (indices : op.indices.WellFormed) (updates : TypesGiven op.updates)
    (dimensions : ∃ dims, op.dimensions = some dims ∧ dims.indexVectorDim.Integral)
    (body : Region.Given op.body) : Meets excused FormedAll op.infer := by
  apply (Scatter.verify_meets inputs indices updates dimensions).andThen
  obtain ⟨types, found, form⟩ := updates
  apply (collect_needTensor_meets inputs _).bind
  intro inputs _ inputsForm
  apply Meets.bind_ok (needItems_eq_ok.mpr found)
  apply (collect_needTensor_meets form _).bind
  intro updates _ _
  apply (Reducer.verify_meets body (Payload.integral_int _)).andThen
  exact List.forall_mem_map.mpr fun t member => (inputsForm t member).ty

theorem SliceAt.infer_meets {op : SliceAt} (operand : op.operand.WellFormed)
    (starts : TypesGiven op.starts) (timed : op.sizes.TimedIsExcused excused) :
    Meets excused FormedAll op.infer := by
  apply (decodeOptional_meets timed _).bind
  intro sizes _ _
  apply (DynamicSlice.infer_meets sizes operand starts).bind
  intro t _ form
  exact .single form.ty

theorem inferDynamicUpdateSlice_meets {operand update : Ty} {starts : Option (List Ty)}
    (operandForm : operand.WellFormed) (updateForm : update.WellFormed)
    (given : TypesGiven starts) :
    Meets excused FormedAll (inferDynamicUpdateSlice operand update starts) := by
  apply (DynamicSlice.inferUpdate_meets operandForm updateForm given).bind
  intro t _ form
  exact .single form.ty

end Op

end TensorTyping
