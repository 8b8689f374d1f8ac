import TensorTyping.Proofs.Refinement.Indexing
import TensorTyping.Proofs.Totality.Indexing

/-!
# The composition of a gather result

At its offset positions the result of a gather has the slice sizes that are neither collapsed nor
batching, and at all others the extents of the start indices without the index vector dimension. The
checks before the composition make sure that neither list runs out. So no gather, accepted or not,
asks for a position that is not there: its only misuses are a missing mapping, values of a wrong
sort and types that cannot be formed.
-/

namespace TensorTyping

open Check

/-! ### Misuses of a gather -/

section Misuse

variable {m : Misuse}

theorem Payload.wrongSort_of_test {payload : Payload} {onInt : Int → Bool}
    {onReal : Binary64 → Bool} (failed : payload.test onInt onReal = misuse m) :
    m = .wrongSort := by
  cases payload <;> simp_all [test, misuse]

theorem Payload.wrongSort_of_needInt {payload : Payload} (failed : payload.needInt = misuse m) :
    m = .wrongSort := by
  cases payload <;> simp_all [needInt, misuse]

theorem Tensor.wrongSort_of_dimAt {t : Tensor} {index : Payload} {fault : Fault}
    (unread : index.needInt = .error fault) (failed : t.dimAt index = misuse m) :
    m = .wrongSort := by
  unfold dimAt at failed
  split at failed
  · simp [misuse] at failed
  · rcases bind_eq_misuse.mp failed with sort | ⟨n, value, -⟩
    · exact Payload.wrongSort_of_needInt sort
    · rw [unread] at value
      cases value

theorem Tensor.malformedType_of_form {element : Ty} {shape : Shape}
    (failed : form element shape = misuse m) : ∃ message, m = .malformedType message := by
  unfold form at failed
  split at failed
  · split at failed
    · simp [misuse] at failed
    · cases failed
      exact ⟨_, rfl⟩
  · cases failed
    exact ⟨_, rfl⟩

namespace Mapping

variable {indices : Tensor} {indexVectorDim : Payload}

theorem wrongSort_of_ensureIndexVectorDim {what : String}
    (failed : ensureIndexVectorDim indices indexVectorDim what = misuse m) : m = .wrongSort := by
  simp only [ensureIndexVectorDim, bind_eq_misuse] at failed
  rcases failed with negative | ⟨_, -, beyond | ⟨_, -, outside⟩⟩
  · exact Payload.wrongSort_of_test negative
  · cases known : indices.rank? with
    | none => simp [known, isBeyond, misuse] at beyond
    | some rank =>
      rw [known, isBeyond] at beyond
      exact Payload.wrongSort_of_test beyond
  · exact absurd outside (Meets.ensure.ne_misuse m)

/-- An integer that was found to be an index vector dimension is one of the indices or just after
    their last one, so only a value of another sort cannot be looked up. -/
theorem wrongSort_of_indexVectorExtent {what : String} {u : Unit}
    (ensured : ensureIndexVectorDim indices indexVectorDim what = .ok u)
    (failed : indexVectorExtent indices indexVectorDim = misuse m) : m = .wrongSort := by
  cases value : indexVectorDim.needInt with
  | ok n =>
    have within : Meets (fun _ => False) _ (ensureIndexVectorDim indices indexVectorDim what) :=
      ensureIndexVectorDim_meets value indices what
    rw [ensured] at within
    exact absurd failed ((indexVectorExtent_meets value within.1 within.2).ne_misuse m)
  | error fault =>
    unfold indexVectorExtent at failed
    split at failed
    · simp [misuse] at failed
    · split at failed
      · simp [misuse] at failed
      · exact Tensor.wrongSort_of_dimAt value failed

theorem wrongSort_of_batchRank {rank : Nat} (failed : batchRank rank indexVectorDim = misuse m) :
    m = .wrongSort := by
  rcases bind_eq_misuse.mp failed with sort | ⟨_, -, counted⟩
  · exact Payload.wrongSort_of_test sort
  · simp [misuse] at counted

end Mapping

namespace Gather

variable {operand starts : Tensor} {dims : GatherDims}

/-- Only the index vector dimension, which is used as it is given, may be of a wrong sort. -/
theorem wrongSort_of_verifyMapping {rank : Option Nat}
    (failed : verifyMapping rank starts dims = misuse m) : m = .wrongSort := by
  have sorted (list : List Int) (name : String) : Mapping.ensureSorted list name ≠ misuse m :=
    Meets.ensure.ne_misuse m
  have unique (list : List Int) (name : String) : Mapping.ensureUnique list name ≠ misuse m :=
    Meets.ensure.ne_misuse m
  have inRange (list : List Int) (bound : Option Nat) (name range : String) :
      Mapping.ensureInRange list bound name range ≠ misuse m :=
    (Mapping.ensureInRange_meets ..).ne_misuse m
  have disjoint (a b : List Int) (nameA nameB : String) :
      Mapping.ensureDisjoint a b nameA nameB ≠ misuse m :=
    (Mapping.ensureDisjoint_meets ..).ne_misuse m
  have batching (a b : List Int) (nameA nameB : String) :
      Mapping.ensureIndicesBatching starts a b dims.indexVectorDim nameA nameB ≠ misuse m :=
    (Mapping.ensureIndicesBatching_meets ..).ne_misuse m
  have condition (p : Prop) [Decidable p] (kind : Diagnostic.Kind) (message : String) :
      ensure p kind message ≠ misuse m := Meets.ensure.ne_misuse m
  have nonneg (message : Int → String) : checkAll (fun d =>
      ensure (0 ≤ d) .invalidDimensionMapping (message d)) dims.offsetDims ≠ misuse m :=
    (Meets.checkAll fun _ _ => Meets.ensure.weaken).ne_misuse m
  simp only [verifyMapping, bind_eq_misuse, sorted, unique, inRange, disjoint, batching, condition,
    nonneg, and_false, exists_false, or_false] at failed
  rcases failed with outside | ⟨_, ensured, unread⟩
  · exact Mapping.wrongSort_of_ensureIndexVectorDim outside
  · exact Mapping.wrongSort_of_indexVectorExtent ensured unread

theorem wrongSort_of_verify {sizes : Option (List Extent)}
    (failed : verify operand starts dims sizes = misuse m) : m = .wrongSort := by
  cases sizes with
  | none => exact wrongSort_of_verifyMapping failed
  | some sizes =>
    rcases bind_eq_misuse.mp failed with mapping | ⟨_, mapping, unfit⟩
    · exact wrongSort_of_verifyMapping mapping
    · exact absurd unfit ((verifySizes_meets (verifyMapping_eq_ok.mp mapping)).ne_misuse m)

end Gather

end Misuse

namespace Gather

variable {operand starts : Tensor} {dims : GatherDims} {sizes : List Extent}

/-- What the checks of a gather with slice sizes establish. The sizes are valid, and an operand of
    known rank has as many dimensions as there are sizes. -/
theorem valid_of_verify (verified : verify operand starts dims (some sizes) = .ok ()) :
    ValidSizes starts dims sizes ∧
      (operand.rank? = none ∨ operand.rank? = some sizes.length) := by
  obtain ⟨_, mapping, fits⟩ := bind_eq_ok.mp verified
  have valid : Meets (fun _ => False) (fun _ => ValidSizes starts dims sizes)
      (verifySizes operand starts dims sizes) :=
    verifySizes_meets (verifyMapping_eq_ok.mp mapping)
  rw [fits] at valid
  exact ⟨valid, rank?_of_verifySizes fits⟩

/-- The composition of a result finds an item for every position. -/
theorem compose_ne_outOfRange {startDims : List Extent} {sizes : Option (List Extent)}
    (shape : starts.shape = .ranked startDims)
    (verified : verify operand starts dims sizes = .ok ()) :
    compose operand startDims dims sizes ≠ misuse .outOfRange := by
  intro failed
  simp only [compose, bind_eq_misuse] at failed
  rcases failed with sort | ⟨rank, counted, outside | ⟨_, inside, failed⟩⟩
  · cases Mapping.wrongSort_of_batchRank sort
  · exact (Meets.checkAll fun _ _ => Meets.ensure.weaken).ne_misuse _ outside
  · simp only [checkAll_eq_ok, ensure_eq_ok] at inside
    cases sizes with
    | none => cases failed
    | some sizes =>
      obtain ⟨valid, -⟩ := valid_of_verify verified
      have found : Meets (fun _ => False) (fun result => ∀ item ∈ result, True)
          (resultDims (dims.offsetDims.length + rank) sizes.length startDims sizes dims) :=
        resultDims_meets valid shape counted inside (fun _ _ => trivial) fun _ _ => trivial
      rcases bind_eq_misuse.mp failed with missing | ⟨_, -, unformed⟩
      · exact found.ne_misuse _ missing
      · obtain ⟨_, other⟩ := Tensor.malformedType_of_form unformed
        cases other

/-- No gather asks for an item at a position outside a list. -/
theorem infer_ne_outOfRange (operand starts : Ty) (dims : Option GatherDims)
    (sizes : Option (List Extent)) : infer operand starts dims sizes ≠ misuse .outOfRange := by
  have tensor (t : Ty) (what : String) : t.needTensor what ≠ misuse .outOfRange := by
    unfold Ty.needTensor
    split <;> simp [reject, misuse]
  have part : needPart dims ≠ misuse .outOfRange := by cases dims <;> simp [needPart, misuse]
  intro failed
  simp only [infer, bind_eq_misuse, tensor, part, false_or] at failed
  obtain ⟨operand, -, starts, -,
    sort | ⟨_, -, dims, -, unverified | ⟨_, verified, failed⟩⟩⟩ := failed
  · exact Meets.ensure.ne_misuse _ sort
  · cases wrongSort_of_verify unverified
  · cases shape : starts.shape with
    | unranked => simp [resultTensor, shape, misuse] at failed
    | ranked startDims =>
      rw [resultTensor, shape] at failed
      exact compose_ne_outOfRange shape verified failed

/-! ### Accepted gathers -/

/-- The shape of a result is composed of the slice sizes and of the extents of the start indices, of
    which `d` is the index vector dimension. The sizes that are neither collapsed nor batching stand
    at the offset positions, and the extents other than the one at `d` at all other positions, both
    in order. -/
structure Composed (dims : GatherDims) (starts sizes shape : List Extent) (d : Nat) : Prop where
  rank : shape.length = dims.offsetDims.length +
    if d < starts.length then starts.length - 1 else starts.length
  increasing : dims.offsetDims.Pairwise (· < ·)
  offset : dims.offsetDims.map (fun k => shape[k.toNat]?) =
    (Shape.without sizes (dims.collapsedSliceDims ++ dims.operandBatchingDims)).map some
  batch : Shape.without shape dims.offsetDims = starts.eraseIdx d

/-- Every dimension number of a mapping is a position of the list in which it is looked up: of the
    result, of the slice sizes and the operand, or of the start indices. -/
structure InRange (dims : GatherDims) (starts sizes shape : List Extent) (d : Nat) : Prop where
  offset : ∀ k ∈ dims.offsetDims, 0 ≤ k ∧ k < shape.length
  collapsed : ∀ k ∈ dims.collapsedSliceDims, 0 ≤ k ∧ k < sizes.length
  operandBatching : ∀ k ∈ dims.operandBatchingDims, 0 ≤ k ∧ k < sizes.length
  indexMap : ∀ k ∈ dims.startIndexMap, 0 ≤ k ∧ k < sizes.length
  startsBatching : ∀ k ∈ dims.startIndicesBatchingDims, 0 ≤ k ∧ k < starts.length
  vector : d ≤ starts.length

theorem composed_of_resultDims {startDims shape : List Extent} {d : Nat}
    (valid : Mapping.Valid (some sizes.length) starts dims)
    (total : dims.offsetDims.length + dims.collapsedSliceDims.length +
      dims.operandBatchingDims.length = sizes.length)
    (vector : ∀ m : Nat, dims.indexVectorDim.isInt m = true ↔ m = d)
    (inside : ∀ k ∈ dims.offsetDims, k < dims.offsetDims.length + (startDims.eraseIdx d).length)
    (found : resultDims (dims.offsetDims.length + (startDims.eraseIdx d).length) sizes.length
      startDims sizes dims = .ok shape) : Composed dims startDims sizes shape d := by
  obtain ⟨length, window, batch⟩ := (resultDims_eq_ok valid total vector rfl inside).mp found
  have positions : ∀ k ∈ dims.offsetDims, ((0 : Nat) : Int) ≤ k ∧ k < (0 : Nat) + shape.length := by
    intro k member
    have below := inside k member
    have nonneg := valid.offsetNonneg k member
    omega
  refine ⟨by rw [length, List.length_eraseIdx], valid.offset_increasing, ?_, ?_⟩
  · rw [Shape.without_eq, ← Mapping.dropped, ← window]
    exact map_getElem?_sorted shape valid.offset_increasing positions
  · rw [Shape.without_eq, batch]

theorem inRange_of_valid {startDims shape : List Extent} {d : Nat}
    (valid : Mapping.Valid (some sizes.length) starts dims)
    (ranked : starts.shape = .ranked startDims)
    (inside : ∀ k ∈ dims.offsetDims, k < shape.length) (vector : d ≤ startDims.length) :
    InRange dims startDims sizes shape d := by
  have position {bound : Nat} {k : Int} (h : Dimensions.isPosition (some bound) k = true) :
      0 ≤ k ∧ k < bound := by simpa [Dimensions.isPosition] using h
  have rank : starts.rank? = some startDims.length := by rw [Tensor.rank?, ranked, Shape.rank?]
  refine ⟨?_, ?_, ?_, ?_, ?_, vector⟩
  · exact fun k member => ⟨valid.offsetNonneg k member, inside k member⟩
  · exact fun k member => position (valid.collapsedInRange k member)
  · exact fun k member => position (valid.batchingInRange k member)
  · exact fun k member => position (valid.mapInRange k member)
  · exact fun k member => position (valid.indicesBatching.inRange _ rank k member)

/-- The result of every gather with ranked start indices that is accepted is composed of its slice
    sizes and of the extents of its start indices. The dimension numbers of the mapping are in
    range, an operand of known rank has one dimension for each size, and no gather, accepted or not,
    asks for a position that is not there. -/
theorem infer_composes_result (operand index : Ty) (starts : List Extent) (dims : GatherDims)
    (sizes : List Extent) :
    infer operand (.tensor index (.ranked starts)) (some dims) (some sizes) ≠ misuse .outOfRange ∧
      ∀ result,
        infer operand (.tensor index (.ranked starts)) (some dims) (some sizes) = .ok result →
        ∃ (source : Tensor) (d : Nat) (shape : List Extent),
          operand = source.ty ∧ (∀ rank, source.rank? = some rank → rank = sizes.length) ∧
          dims.indexVectorDim.isInt d = true ∧ result = ⟨source.element, .ranked shape⟩ ∧
          Composed dims starts sizes shape d ∧ InRange dims starts sizes shape d := by
  refine ⟨infer_ne_outOfRange _ _ _ _, fun result accepted => ?_⟩
  have view : Ty.needTensor (.tensor index (.ranked starts)) "start_indices" =
      .ok ⟨index, .ranked starts⟩ := rfl
  simp only [infer, view, ok_bind, bind_eq_ok, ensure_eq_ok, needPart_eq_ok,
    Ty.needTensor_eq_ok] at accepted
  obtain ⟨source, rfl, _, -, _, given, _, verified, composed⟩ := accepted
  obtain rfl := Option.some.inj given
  obtain ⟨⟨valid, total, -⟩, rank⟩ := valid_of_verify verified
  obtain ⟨d, most, vector, batchRank⟩ := valid.exists_vectorDim rfl
  simp only [resultTensor, compose, batchRank, ok_bind, bind_eq_ok, checkAll_eq_ok, ensure_eq_ok,
    Tensor.form_eq_ok] at composed
  obtain ⟨_, inside, shape, found, -, -, rfl⟩ := composed
  have whole := composed_of_resultDims valid total vector inside found
  have length : shape.length = dims.offsetDims.length + (starts.eraseIdx d).length := by
    rw [whole.rank, List.length_eraseIdx]
  refine ⟨source, d, shape, rfl, ?_, (vector d).mpr rfl, rfl, whole,
    inRange_of_valid valid rfl (by rw [length]; exact inside) most⟩
  intro n known
  rcases rank with unknown | same
  · rw [unknown] at known
    cases known
  · exact Option.some.inj (known.symm.trans same)

/-- A result in which offset and batch dimensions alternate. The index vectors lie along the middle
    one of three dimensions of the start indices, and the last one is paired with the first
    dimension of the operand. -/
theorem infer_composes_result_interleaved :
    let dims : GatherDims :=
      { offsetDims := [0, 2], collapsedSliceDims := [1], startIndexMap := [1, 2],
        indexVectorDim := .int 1, operandBatchingDims := [0], startIndicesBatchingDims := [2] }
    let operand : Ty := .tensor (.float .f32) (.ranked [some 7, some 3, none, some 5])
    let starts : List Extent := [some 6, some 2, some 7]
    let sizes : List Extent := [some 1, some 1, some 2, some 4]
    let shape : List Extent := [some 2, some 6, some 4, some 7]
    infer operand (.tensor .i32 (.ranked starts)) (some dims) (some sizes) =
        .ok ⟨.float .f32, .ranked shape⟩ ∧
      Composed dims starts sizes shape 1 ∧ InRange dims starts sizes shape 1 := by
  intro dims operand starts sizes shape
  have accepted : infer operand (.tensor .i32 (.ranked starts)) (some dims) (some sizes) =
      .ok ⟨.float .f32, .ranked shape⟩ := rfl
  obtain ⟨-, composes⟩ := infer_composes_result operand .i32 starts dims sizes
  obtain ⟨_, d, _, -, -, vector, same, composed, inRange⟩ := composes _ accepted
  have known : (1 : Int) = d := by simpa [dims, Payload.isInt] using vector
  obtain rfl : 1 = d := by omega
  obtain rfl := Shape.ranked.inj (Tensor.mk.inj same).2
  exact ⟨accepted, composed, inRange⟩

end Gather

end TensorTyping
