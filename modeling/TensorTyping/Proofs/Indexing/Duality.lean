import Mathlib.Data.List.InsertIdx
import Mathlib.Data.List.Zip
import TensorTyping.Proofs.Indexing.Positions
import TensorTyping.Proofs.Ty.Refinement

/-!
# Scatter is the dual of gather

A scatter accepts an update exactly when a gather with the dual mapping reads slices that put
together a result of the shape of the update. Both sides come down to `Mapping.Fits`: the extents
of the update at offset positions stay within the extents of the operand that are kept, and its
other extents are those of the indices without the index vector dimension.
-/

namespace TensorTyping

/-- The size of a slice of an extent. -/
def SizeOf (size bound : Int) : Prop := 0 ≤ size ∧ size ≤ bound

/-- Sizes of all extents from sizes of the kept ones: nothing is taken of the others. -/
theorem exists_sizes {kept : Nat → Bool} {start : Nat} {window bounds : List Int}
    (nonneg : ∀ bound ∈ bounds, 0 ≤ bound)
    (fits : List.Forall₂ SizeOf window (itemsAt kept start bounds)) :
    ∃ sizes, List.Forall₂ SizeOf sizes bounds ∧ itemsAt kept start sizes = window ∧
      ∀ i, kept (start + i) = false → ∀ size, sizes[i]? = some size → size ≤ 1 := by
  induction bounds generalizing start window with
  | nil =>
    cases fits
    exact ⟨[], .nil, rfl, by simp⟩
  | cons bound rest ih =>
    have nonnegRest : ∀ bound ∈ rest, 0 ≤ bound :=
      fun bound member => nonneg bound (List.mem_cons_of_mem _ member)
    have shifted (i : Nat) : start + (i + 1) = start + 1 + i := by omega
    rw [itemsAt_cons] at fits
    cases marked : kept start with
    | true =>
      rw [marked, if_pos rfl] at fits
      obtain ⟨size, others, first, fitsRest, rfl⟩ := List.forall₂_cons_right_iff.mp fits
      obtain ⟨sizes, within, items, small⟩ := ih nonnegRest fitsRest
      refine ⟨size :: sizes, .cons first within, by rw [itemsAt_cons, marked, items]; rfl, ?_⟩
      intro i unmarked size' found
      cases i with
      | zero => simp [marked] at unmarked
      | succ i => exact small i (shifted i ▸ unmarked) size' (by simpa using found)
    | false =>
      rw [marked, if_neg Bool.false_ne_true] at fits
      obtain ⟨sizes, within, items, small⟩ := ih nonnegRest fits
      have none : SizeOf 0 bound := ⟨Int.le_refl 0, nonneg bound List.mem_cons_self⟩
      refine ⟨0 :: sizes, .cons none within, by rw [itemsAt_cons, marked, items]; rfl, ?_⟩
      intro i unmarked size' found
      cases i with
      | zero =>
        obtain rfl : 0 = size' := by simpa using found
        decide
      | succ i => exact small i (shifted i ▸ unmarked) size' (by simpa using found)

namespace Mapping

/-- An update with the given extents fits an operand and indices of static shapes, of which `d` is
    the index vector dimension. -/
structure Fits (bounds starts update : List Int) (dims : GatherDims) (d : Nat) : Prop where
  rank : update.length = dims.offsetDims.length + (starts.eraseIdx d).length
  inRange : ∀ k ∈ dims.offsetDims, k < update.length
  window : List.Forall₂ SizeOf (itemsAt (listed dims.offsetDims) 0 update)
    (itemsAt (fun i => !listed (dropped dims) i) 0 bounds)
  batch : itemsAt (fun i => !listed dims.offsetDims i) 0 update = starts.eraseIdx d

end Mapping

section Static

variable {operand indices : Tensor} {bounds starts update : List Int} {dims : GatherDims} {d : Nat}

theorem Scatter.verifyWindows_iff (valid : Mapping.Valid (some bounds.length) indices dims)
    (total : dims.offsetDims.length + dims.collapsedSliceDims.length +
      dims.operandBatchingDims.length = bounds.length)
    (nonneg : ∀ extent ∈ update, 0 ≤ extent)
    (inRange : ∀ k ∈ dims.offsetDims, k < update.length) :
    verifyWindows (.ranked (bounds.map some)) (update.map some) dims.dual = .ok () ↔
      List.Forall₂ SizeOf (itemsAt (listed dims.offsetDims) 0 update)
        (itemsAt (fun i => !listed (Mapping.dropped dims) i) 0 bounds) := by
  have positions : ∀ k ∈ dims.dual.updateWindowDims, 0 ≤ k ∧ k < update.length :=
    fun k member => ⟨valid.offsetNonneg k member, inRange k member⟩
  rw [verifyWindows_eq_ok valid.offset_increasing positions, List.forall₂_iff_zip]
  constructor
  · intro within
    refine ⟨(valid.length_offset inRange).trans (valid.length_kept total bounds rfl).symm, ?_⟩
    intro extent bound member
    have extentMember := mem_of_mem_itemsAt (List.of_mem_zip member).1
    have swapped := List.mem_map_of_mem (f := Prod.swap) member
    rw [List.zip_swap] at swapped
    exact ⟨nonneg extent extentMember, within (bound, extent) swapped⟩
  · rintro ⟨-, within⟩ ⟨bound, extent⟩ member
    have swapped := List.mem_map_of_mem (f := Prod.swap) member
    rw [List.zip_swap] at swapped
    exact (within swapped).2

theorem Scatter.verifyBatch_iff {rank : Option Nat} (valid : Mapping.Valid rank indices dims)
    (indicesShape : indices.shape = .ranked (starts.map some))
    (vector : ∀ m : Nat, dims.indexVectorDim.isInt m = true ↔ m = d)
    (inRange : ∀ k ∈ dims.offsetDims, k < update.length)
    (length : update.length = dims.offsetDims.length + (starts.eraseIdx d).length) :
    verifyBatch indices dims.dual (update.map some).zipIdx 0 = .ok () ↔
      itemsAt (fun i => !listed dims.offsetDims i) 0 update = starts.eraseIdx d := by
  have count : (itemsAt (fun i => !listed dims.offsetDims i) 0 update).length =
      (starts.eraseIdx d).length := by
    have offset := valid.length_offset inRange
    have both := @length_itemsAt_add _ (listed dims.offsetDims) 0 update
    omega
  rw [verifyBatch_eq_ok indicesShape vector (by rw [batchFrom_zero]; exact count.le),
    batchFrom_zero]
  exact ⟨fun start => start.eq_of_length count, fun same => same ▸ List.prefix_rfl⟩

theorem Scatter.verifyUpdate_eq_ok (valid : Mapping.Valid (some bounds.length) indices dims)
    (total : dims.offsetDims.length + dims.collapsedSliceDims.length +
      dims.operandBatchingDims.length = bounds.length)
    (operandShape : operand.shape = .ranked (bounds.map some))
    (indicesShape : indices.shape = .ranked (starts.map some))
    (vector : ∀ m : Nat, dims.indexVectorDim.isInt m = true ↔ m = d)
    (batchRank : Mapping.batchRank starts.length dims.indexVectorDim =
      .ok (starts.eraseIdx d).length) (nonneg : ∀ extent ∈ update, 0 ≤ extent) :
    verifyUpdate operand indices (update.map some) starts.length dims.dual = .ok () ↔
      Mapping.Fits bounds starts update dims d ∧
        Mapping.ensureBatchingExtents operand indices dims.operandBatchingDims
          dims.startIndicesBatchingDims = .ok () := by
  have ranked : operand.hasRank = true := by rw [Tensor.hasRank, operandShape, Shape.hasRank]
  have kept := valid.length_kept total bounds rfl
  have batchRank' : Mapping.batchRank starts.length dims.dual.indexVectorDim = _ := batchRank
  simp only [verifyUpdate, batchRank', Check.ok_bind, ranked, operandShape, if_true,
    Check.bind_eq_ok, Check.ensure_eq_ok, Mapping.ensureInRange_eq_ok]
  constructor
  · rintro ⟨-, rank, -, positions, _, windows, _, batch, extents⟩
    rw [List.length_map] at rank positions
    have inRange : ∀ k ∈ dims.offsetDims, k < update.length := by
      intro k member
      have position := positions k member
      simp only [Dimensions.isPosition, Bool.and_eq_true, decide_eq_true_eq] at position
      exact position.2
    exact ⟨⟨rank, inRange, (verifyWindows_iff valid total nonneg inRange).mp windows,
      (verifyBatch_iff valid indicesShape vector inRange rank).mp batch⟩, extents⟩
  · rintro ⟨fits, extents⟩
    have positions : ∀ k ∈ dims.offsetDims,
        Dimensions.isPosition (some (update.map some).length) k = true := by
      intro k member
      simpa [Dimensions.isPosition] using
        ⟨valid.offsetNonneg k member, fits.inRange k member⟩
    exact ⟨(), by rw [List.length_map]; exact fits.rank, (), positions, (),
      (verifyWindows_iff valid total nonneg fits.inRange).mpr fits.window, (),
      (verifyBatch_iff valid indicesShape vector fits.inRange fits.rank).mpr fits.batch, extents⟩

theorem Gather.verifySize_eq_ok {i : Nat} {size bound : Int}
    (found : operand.dim i = .ok (some bound)) {u : Unit} :
    verifySize operand i (some size) = .ok u ↔ SizeOf size bound := by
  simp only [verifySize, found, Check.ok_bind, Check.bind_eq_ok, Check.ensure_eq_ok, exists_const,
    SizeOf]

theorem Gather.verifyUnitSizes_eq_ok {name : String} {positions : List Int} {sizes : List Int}
    (inRange : ∀ k ∈ positions, 0 ≤ k ∧ k < sizes.length) {u : Unit} :
    verifyUnitSizes (sizes.map some) name positions = .ok u ↔
      ∀ k ∈ positions, ∀ size, sizes[k.toNat]? = some size → size ≤ 1 := by
  rw [verifyUnitSizes, Check.checkAll_eq_ok]
  refine forall₂_congr fun k member => ?_
  obtain ⟨nonneg, below⟩ := inRange k member
  rw [itemAt_eq_join nonneg (by rwa [List.length_map]), List.getElem?_map, Check.ok_bind]
  cases sizes[k.toNat]? <;> simp

theorem Gather.verifyEachSize_eq_ok (operandShape : operand.shape = .ranked (bounds.map some))
    {sizes : List Int} (length : sizes.length = bounds.length) {u : Unit} :
    checkEach (verifySize operand) (sizes.map some) = .ok u ↔
      List.Forall₂ SizeOf sizes bounds := by
  have read (i : Nat) (inside : i < bounds.length) :
      operand.dim i = .ok (some (bounds.get ⟨i, inside⟩)) := by
    rw [Tensor.dim, operandShape]
    exact itemAt_natCast_eq_ok.mpr (by simp [inside])
  rw [Check.checkEach_eq_ok, List.forall₂_iff_get]
  constructor
  · intro each
    refine ⟨length, fun i inside inside' => ?_⟩
    have found : (sizes.map some)[i]? = some (some (sizes.get ⟨i, inside⟩)) := by simp [inside]
    exact (verifySize_eq_ok (read i inside')).mp (each i _ found)
  · rintro ⟨-, each⟩ i size found
    obtain ⟨n, inside, rfl⟩ : ∃ n, sizes[i]? = some n ∧ some n = size := by simpa using found
    obtain ⟨below, rfl⟩ := List.getElem?_eq_some_iff.mp inside
    exact (verifySize_eq_ok (read i (length ▸ below))).mpr (each i below (length ▸ below))

/-- The known sizes of a gather with a valid mapping are valid. -/
theorem Gather.verifySizes_eq_ok (valid : Mapping.Valid (some bounds.length) indices dims)
    (operandShape : operand.shape = .ranked (bounds.map some)) {sizes : List Int} :
    verifySizes operand indices dims (sizes.map some) = .ok () ↔
      dims.offsetDims.length + dims.collapsedSliceDims.length +
        dims.operandBatchingDims.length = bounds.length ∧
      List.Forall₂ SizeOf sizes bounds ∧
      (∀ k ∈ Mapping.dropped dims, ∀ size, sizes[k.toNat]? = some size → size ≤ 1) ∧
      Mapping.ensureBatchingExtents operand indices dims.operandBatchingDims
        dims.startIndicesBatchingDims = .ok () := by
  have rank : (!operand.hasOtherRank (sizes.map some).length) = true ↔
      bounds.length = sizes.length := by
    simp [Tensor.hasOtherRank, Tensor.rank?, operandShape, Shape.rank?]
  have units (length : sizes.length = bounds.length) :
      (verifyUnitSizes (sizes.map some) "collapsed" dims.collapsedSliceDims = .ok () ∧
        verifyUnitSizes (sizes.map some) "batching" dims.operandBatchingDims = .ok ()) ↔
      ∀ k ∈ Mapping.dropped dims, ∀ size, sizes[k.toNat]? = some size → size ≤ 1 := by
    obtain ⟨collapsed, batching⟩ := List.forall_mem_append.mp (length ▸ valid.dropped_inRange)
    rw [verifyUnitSizes_eq_ok collapsed, verifyUnitSizes_eq_ok batching, Mapping.dropped,
      List.forall_mem_append]
  simp only [verifySizes, Check.bind_eq_ok, Check.ensure_eq_ok, rank]
  constructor
  · rintro ⟨-, length, -, total, _, each, _, collapsed, _, batching, extents⟩
    rw [List.length_map, ← length] at total
    exact ⟨total, (verifyEachSize_eq_ok operandShape length.symm).mp each,
      (units length.symm).mp ⟨collapsed, batching⟩, extents⟩
  · rintro ⟨total, within, small, extents⟩
    have length := within.length_eq
    obtain ⟨collapsed, batching⟩ := (units length).mpr small
    exact ⟨(), length.symm, (), by rw [List.length_map, length]; exact total, (),
      (verifyEachSize_eq_ok operandShape length).mpr within, (), collapsed, (), batching, extents⟩

/-- A gather of known sizes puts an update together exactly when the parts of the update are the
    sizes that are kept and the extents of the start indices. -/
theorem Gather.resultDims_map_some (valid : Mapping.Valid (some bounds.length) indices dims)
    (total : dims.offsetDims.length + dims.collapsedSliceDims.length +
      dims.operandBatchingDims.length = bounds.length)
    (vector : ∀ m : Nat, dims.indexVectorDim.isInt m = true ↔ m = d) {sizes : List Int}
    (length : sizes.length = bounds.length) {rank : Nat}
    (counted : rank = dims.offsetDims.length + (starts.eraseIdx d).length)
    (inRange : ∀ k ∈ dims.offsetDims, k < rank) :
    resultDims rank sizes.length (starts.map some) (sizes.map some) dims =
        .ok (update.map some) ↔
      update.length = rank ∧
        itemsAt (listed dims.offsetDims) 0 update =
          itemsAt (fun i => !listed (Mapping.dropped dims) i) 0 sizes ∧
        itemsAt (fun i => !listed dims.offsetDims i) 0 update = starts.eraseIdx d := by
  have injective : Function.Injective (List.map (some : Int → Option Int)) :=
    List.map_injective_iff.mpr fun _ _ => Option.some.inj
  have same : (sizes.map some).length = bounds.length := by rw [List.length_map, length]
  have composed := @resultDims_eq_ok dims d _ indices (starts.map some) (sizes.map some)
    (update.map some) (same ▸ valid) (same ▸ total) vector rank
    (by rw [List.eraseIdx_map, List.length_map, counted]) inRange
  simpa only [List.length_map, itemsAt_map, List.eraseIdx_map, injective.eq_iff] using composed

/-- A gather of known sizes succeeds when its mapping and sizes are valid and a result can be
    composed. -/
theorem Gather.infer_eq_ok (operandShape : operand.shape = .ranked (bounds.map some))
    (indicesShape : indices.shape = .ranked (starts.map some)) {sizes : List Int}
    {result : Tensor} :
    infer operand.ty indices.ty (some dims) (some (sizes.map some)) = .ok result ↔
      indices.element.isInteger = true ∧ Mapping.Valid (some bounds.length) indices dims ∧
        verifySizes operand indices dims (sizes.map some) = .ok () ∧
        compose operand (starts.map some) dims (some (sizes.map some)) = .ok result := by
  have rank : operand.rank?.getD (sizes.map some).length = bounds.length := by
    simp [Tensor.rank?, operandShape, Shape.rank?]
  simp only [infer, Tensor.needTensor_ty, Check.ok_bind, Check.bind_eq_ok, Check.ensure_eq_ok,
    Check.needPart_eq_ok, verify, rank, verifyMapping_eq_ok, resultTensor, indicesShape]
  constructor
  · rintro ⟨-, integer, mapping, same, _, ⟨-, valid, sized⟩, success⟩
    obtain rfl := Option.some.inj same
    exact ⟨integer, valid, sized, success⟩
  · rintro ⟨integer, valid, sized, success⟩
    exact ⟨(), integer, dims, rfl, (), ⟨(), valid, sized⟩, success⟩

/-- A gather with some sizes gives the update exactly when the update fits. -/
theorem Gather.exists_infer_iff (valid : Mapping.Valid (some bounds.length) indices dims)
    (total : dims.offsetDims.length + dims.collapsedSliceDims.length +
      dims.operandBatchingDims.length = bounds.length)
    (operandShape : operand.shape = .ranked (bounds.map some))
    (indicesShape : indices.shape = .ranked (starts.map some))
    (vector : ∀ m : Nat, dims.indexVectorDim.isInt m = true ↔ m = d)
    (batchRank : Mapping.batchRank starts.length dims.indexVectorDim =
      .ok (starts.eraseIdx d).length)
    (integer : indices.element.isInteger = true) (element : operand.element.isElement = true)
    (bounded : ∀ bound ∈ bounds, 0 ≤ bound) (nonneg : ∀ extent ∈ update, 0 ≤ extent) :
    (∃ (sizes : List Int) (result : Tensor),
        infer operand.ty indices.ty (some dims) (some (sizes.map some)) = .ok result ∧
          result.shape = .ranked (update.map some)) ↔
      Mapping.Fits bounds starts update dims d ∧
        Mapping.ensureBatchingExtents operand indices dims.operandBatchingDims
          dims.startIndicesBatchingDims = .ok () := by
  have form : (Shape.ranked (update.map some)).WellFormed := by
    rintro _ same dim member n rfl
    obtain rfl := Shape.ranked.inj same
    obtain ⟨extent, inside, known⟩ := List.mem_map.mp member
    exact Option.some.inj known ▸ nonneg extent inside
  simp only [infer_eq_ok operandShape indicesShape, verifySizes_eq_ok valid operandShape, compose,
    List.length_map, batchRank, Check.ok_bind, Check.bind_eq_ok, Check.checkAll_eq_ok,
    Check.ensure_eq_ok, Tensor.form_eq_ok]
  constructor
  · rintro ⟨sizes, result, ⟨-, -, ⟨-, within, small, extents⟩, -, inRange, shape, composed, -, -,
      rfl⟩, same⟩
    obtain rfl := Shape.ranked.inj same
    obtain ⟨rank, window, batch⟩ :=
      (resultDims_map_some valid total vector within.length_eq rfl inRange).mp composed
    refine ⟨⟨rank, by rw [rank]; exact inRange, ?_, batch⟩, extents⟩
    rw [window]
    exact forall₂_itemsAt within 0
  · rintro ⟨fits, extents⟩
    obtain ⟨sizes, within, window, small⟩ := exists_sizes bounded fits.window
    have unit : ∀ k ∈ Mapping.dropped dims, ∀ size, sizes[k.toNat]? = some size → size ≤ 1 := by
      intro k member
      have position := (valid.dropped_inRange k member).1
      refine small k.toNat ?_
      have same : Int.ofNat k.toNat = k := Int.toNat_of_nonneg position
      have marked : listed (Mapping.dropped dims) k.toNat = true := by
        rw [listed, List.contains_iff_mem, same]
        exact member
      rw [Nat.zero_add, marked, Bool.not_true]
    have inRange := fits.inRange
    rw [fits.rank] at inRange
    exact ⟨sizes, ⟨operand.element, .ranked (update.map some)⟩, ⟨integer, valid,
      ⟨total, within, unit, extents⟩, (), inRange, update.map some,
      (resultDims_map_some valid total vector within.length_eq rfl inRange).mpr
        ⟨fits.rank, window.symm, fits.batch⟩, element, form, rfl⟩, rfl⟩

end Static

/-- A scatter accepts a static update exactly when a gather with the dual mapping and some slice
    sizes has a result of the shape of the update. -/
theorem Scatter.verify_dual_iff_exists_gather {operand indices update : Tensor} (dims : GatherDims)
    (operandForm : operand.ty.WellFormed) (updateForm : update.ty.WellFormed)
    (operandStatic : operand.shape.isStatic = true)
    (indicesStatic : indices.shape.isStatic = true)
    (updateStatic : update.shape.isStatic = true)
    (integer : indices.element.isInteger = true) :
    verify [operand.ty] indices.ty (some [update.ty]) (some dims.dual) = .ok () ↔
      ∃ (sizes : List Int) (result : Tensor),
        Gather.infer operand.ty indices.ty (some dims) (some (sizes.map some)) = .ok result ∧
          result.shape = update.shape := by
  obtain ⟨bounds, operandShape⟩ := Shape.exists_of_isStatic operandStatic
  obtain ⟨starts, indicesShape⟩ := Shape.exists_of_isStatic indicesStatic
  obtain ⟨extents, updateShape⟩ := Shape.exists_of_isStatic updateStatic
  have element : operand.element.isElement = true := by
    cases operandForm with
    | tensor isElement _ _ => exact isElement
  have bounded := Tensor.nonneg_of_wellFormed operandForm operandShape
  have nonneg := Tensor.nonneg_of_wellFormed updateForm updateShape
  have rank : operand.rank? = some bounds.length := by
    simp [Tensor.rank?, operandShape, Shape.rank?]
  have indicesRank : indices.rank? = some starts.length := by
    simp [Tensor.rank?, indicesShape, Shape.rank?]
  have accepts : verify [operand.ty] indices.ty (some [update.ty]) (some dims.dual) = .ok () ↔
      verifyTensors operand indices update dims.dual = .ok () := by
    rw [verify_singleton_eq_ok]
    constructor
    · rintro ⟨_, _, _, _, operandSame, indicesSame, updateSame, -, mappingSame, success⟩
      rwa [Tensor.ty_injective operandSame, Tensor.ty_injective indicesSame,
        Tensor.ty_injective updateSame, Option.some.inj mappingSame]
    · intro success
      exact ⟨_, _, _, _, rfl, rfl, rfl, integer, rfl, success⟩
  simp only [accepts, verifyTensors, Check.bind_eq_ok, verifyMapping_eq_ok, rank, indicesRank,
    updateShape]
  constructor
  · rintro ⟨-, ⟨valid, covered⟩, fits⟩
    have total := covered _ rfl
    obtain ⟨d, -, vector, batchRank⟩ := valid.exists_vectorDim indicesShape
    rw [List.length_map, List.eraseIdx_map, List.length_map] at batchRank
    rw [verifyUpdate_eq_ok valid total operandShape indicesShape vector batchRank nonneg] at fits
    rwa [Gather.exists_infer_iff valid total operandShape indicesShape vector batchRank integer
      element bounded nonneg]
  · intro gathered
    obtain ⟨valid, total⟩ : Mapping.Valid (some bounds.length) indices dims ∧
        dims.offsetDims.length + dims.collapsedSliceDims.length +
          dims.operandBatchingDims.length = bounds.length := by
      obtain ⟨sizes, result, success, -⟩ := gathered
      obtain ⟨-, valid, sized, -⟩ := (Gather.infer_eq_ok operandShape indicesShape).mp success
      exact ⟨valid, ((Gather.verifySizes_eq_ok valid operandShape).mp sized).1⟩
    obtain ⟨d, -, vector, batchRank⟩ := valid.exists_vectorDim indicesShape
    rw [List.length_map, List.eraseIdx_map, List.length_map] at batchRank
    rw [Gather.exists_infer_iff valid total operandShape indicesShape vector batchRank integer
      element bounded nonneg] at gathered
    have fits := (verifyUpdate_eq_ok valid total operandShape indicesShape vector batchRank
      nonneg).mpr gathered
    exact ⟨(), ⟨valid, fun _ same => Option.some.inj same ▸ total⟩, fits⟩

/-- Rows of a matrix are written where a gather reads rows of no more columns. -/
theorem Scatter.verify_dual_iff_exists_gather_rows :
    let operand : Tensor := ⟨.float .f32, .ranked [some 3, some 4]⟩
    let indices : Tensor := ⟨.int .w32 true, .ranked [some 2, some 1]⟩
    let update : Tensor := ⟨.float .f32, .ranked [some 2, some 3]⟩
    let dims : GatherDims :=
      { offsetDims := [1], collapsedSliceDims := [0], startIndexMap := [0],
        indexVectorDim := .int 1 }
    verify [operand.ty] indices.ty (some [update.ty]) (some dims.dual) = .ok () ∧
      ∃ (sizes : List Int) (result : Tensor),
        Gather.infer operand.ty indices.ty (some dims) (some (sizes.map some)) = .ok result ∧
          result.shape = update.shape := by
  intro operand indices update dims
  have accepted : verify [operand.ty] indices.ty (some [update.ty]) (some dims.dual) = .ok () := rfl
  have operandForm : operand.ty.WellFormed := by decide
  have updateForm : update.ty.WellFormed := by decide
  exact ⟨accepted,
    (verify_dual_iff_exists_gather dims operandForm updateForm rfl rfl rfl rfl).mp accepted⟩

end TensorTyping
