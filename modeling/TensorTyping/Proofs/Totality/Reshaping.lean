import TensorTyping.Op.Reshaping
import TensorTyping.Op.Slicing
import TensorTyping.Proofs.Totality.Elementwise

/-!
# Rearranging and slicing without misuse

The rules that rearrange, reshape, pad and slice give well-formed types or a diagnostic. A reshape
to a computed shape is the exception: the rank of its result is an extent of an operand, and may be
more than a list can have.
-/

namespace TensorTyping

open Check

variable {excused : Misuse → Prop}

theorem Shape.wellFormed_unknown (rank : Nat) : (Shape.unknown rank).WellFormed := by
  rw [Shape.unknown, Shape.wellFormed_ranked]
  intro dim member
  rw [List.eq_of_mem_replicate member]
  exact Extent.wellFormed_none

theorem ensureListLength_meets {n : Int} (nonneg : 0 ≤ n)
    (long : signedLimit ≤ n → excused .overflow) :
    Meets excused (fun _ => True) (ensureListLength n) := by
  by_cases short : n < signedLimit
  · exact .of_ok (ensureListLength_of_lt nonneg short) trivial
  · have length := Int.not_lt.mp short
    rw [ensureListLength_of_le length]
    exact .misuse (long length)

theorem Dimensions.unknownDims_meets {n : Int} (nonneg : 0 ≤ n)
    (long : signedLimit ≤ n → excused .overflow) :
    Meets excused (fun dims => (dims.length : Int) = n ∧ ∀ dim ∈ dims, dim = none)
      (Dimensions.unknownDims n) := by
  apply (ensureListLength_meets nonneg long).andThen
  refine ⟨?_, fun dim member => List.eq_of_mem_replicate member⟩
  rw [List.length_replicate]
  exact Int.toNat_of_nonneg nonneg

namespace Op

open Ty

variable {operand : Ty}

/-! ### Concatenation -/

theorem sumExtents_wellFormed {dims : List Extent} (all : ∀ dim ∈ dims, dim.WellFormed) :
    (sumExtents dims).WellFormed := by
  have total : ∀ start : Extent, start.WellFormed →
      Extent.WellFormed
        (dims.foldl (fun total dim => total.bind fun n => dim.map (n + ·)) start) := by
    induction dims with
    | nil => exact fun start form => form
    | cons dim rest ih =>
      rw [List.forall_mem_cons] at all
      intro start form
      apply ih all.2
      cases start with
      | none => exact Extent.wellFormed_none
      | some n =>
        cases dim with
        | none => exact Extent.wellFormed_none
        | some m =>
          have first := Extent.wellFormed_some.mp form
          have second := Extent.wellFormed_some.mp all.1
          exact Extent.wellFormed_some.mpr (Int.add_nonneg first second)
  exact total (some 0) (Extent.wellFormed_some.mpr (by decide))

theorem agreeExtents?_wellFormed {dims : List Extent} {dim : Extent}
    (all : ∀ dim ∈ dims, dim.WellFormed) (agreed : agreeExtents? dims = some dim) :
    dim.WellFormed := by
  unfold agreeExtents? at agreed
  split at agreed
  · rw [← Option.some.inj agreed]
    exact Extent.wellFormed_none
  · rename_i first rest known
    have inside : first ∈ dims.filterMap id := known ▸ List.mem_cons_self
    have member : some first ∈ dims := by simpa using inside
    split at agreed
    · rw [← Option.some.inj agreed]
      exact all _ member
    · cases agreed

theorem concatenatedExtent_meets {shapes : List (List Extent)} {d : Nat}
    (all : ∀ dims ∈ shapes, d < dims.length ∧ ∀ dim ∈ dims, dim.WellFormed) (hasUnranked : Bool)
    (dimension : Payload) :
    Meets excused Extent.WellFormed (concatenatedExtent shapes hasUnranked dimension d) := by
  have read : Meets excused (fun dims => ∀ dim ∈ dims, dim.WellFormed)
      (collect (itemAt · d) shapes) := by
    apply Meets.collect
    intro dims member
    obtain ⟨inside, formed⟩ := all dims member
    exact Meets.itemAt formed (Int.natCast_nonneg d) (Int.ofNat_lt.mpr inside)
  apply read.bind
  intro dims _ extents
  split
  · split
    · exact Extent.wellFormed_none
    · exact sumExtents_wellFormed extents
  · split
    · rename_i dim agreed
      exact agreeExtents?_wellFormed extents agreed
    · trivial

theorem collect_concatenatedExtent_meets {shapes : List (List Extent)} {rank : Nat}
    (all : ∀ dims ∈ shapes, dims.length = rank ∧ ∀ dim ∈ dims, dim.WellFormed)
    (hasUnranked : Bool) (dimension : Payload) :
    Meets excused (fun dims => ∀ dim ∈ dims, dim.WellFormed)
      (collect (concatenatedExtent shapes hasUnranked dimension) (List.range rank)) := by
  apply Meets.collect
  intro d inside
  refine concatenatedExtent_meets (fun dims member => ?_) hasUnranked dimension
  obtain ⟨length, formed⟩ := all dims member
  exact ⟨length ▸ List.mem_range.mp inside, formed⟩

theorem concatenateTensors_meets {first : Tensor} {tensors : List Tensor} {dimension : Payload}
    (form : first.WellFormed) (all : ∀ t ∈ tensors, t.WellFormed) (number : dimension.Integral) :
    Meets excused Tensor.WellFormed (concatenateTensors first tensors dimension) := by
  apply (Meets.checkEach fun _ _ _ => Meets.ensure.weaken).andThen
  dsimp only
  split
  · exact form.unranked
  · rename_i rank _
    apply (Meets.checkAll_forall fun _ _ => Meets.ensure).bind
    intro _ _ ranks
    apply (number.isPosition _).bind
    intro inRange _ _
    apply Meets.ensure.andThen
    have shapes : ∀ dims ∈ (tensors.filter Tensor.hasRank).filterMap fun t => t.shape.dims?,
        dims.length = rank ∧ ∀ dim ∈ dims, Extent.WellFormed dim := by
      intro dims member
      obtain ⟨t, inside, found⟩ := List.mem_filterMap.mp member
      have shapeForm := (all t (List.mem_filter.mp inside).1).shape
      have known := ranks t inside
      cases shape : t.shape with
      | unranked => simp [shape, Shape.dims?] at found
      | ranked dims' =>
        rw [shape, Shape.dims?, Option.some.injEq] at found
        rw [Tensor.rank?, shape, Shape.rank?, Option.some.injEq] at known
        exact found ▸ ⟨known, shapeForm dims' shape⟩
    apply (collect_concatenatedExtent_meets shapes _ dimension).bind
    intro dims _ formed
    exact ⟨form.isElement, form.element, Shape.wellFormed_ranked.mpr formed⟩

theorem inferConcatenate_meets {inputs : List Ty} {dimension : Payload} (all : FormedAll inputs)
    (number : dimension.Integral) :
    Meets excused FormedAll (inferConcatenate inputs dimension) := by
  apply (collect_needTensor_meets all _).bind
  intro tensors _ formed
  split
  · trivial
  · apply (number.numeric.test _ _).bind
    intro negative _ _
    apply Meets.ensure.andThen
    apply (concatenateTensors_meets (formed _ List.mem_cons_self) formed number).bind
    intro t _ form
    exact .single form.ty

/-! ### Transposition, reversal and reshaping -/

theorem inferTranspose_meets {permutation : Payload} (form : operand.WellFormed)
    (timed : permutation.TimedIsExcused excused) :
    Meets excused FormedAll (inferTranspose operand permutation) := by
  apply (needTensor_meets form _).bind
  intro operand _ form
  apply (Payload.decodeInts_meets timed _ _).bind
  intro permutation _ _
  apply Meets.ensure_bind
  intro complete
  split
  · exact .single (form.withShape (Shape.wellFormed_unknown _))
  · rename_i dims shape
    apply Meets.ensure_bind
    intro count
    -- The numbers of a permutation lie below its length, which is the rank.
    have permuted : Meets excused (fun extents => ∀ dim ∈ extents, dim.WellFormed)
        (collect (itemAt dims) permutation) := by
      apply Meets.collect
      intro p member
      have inside := (Dimensions.mem_of_perm (Dimensions.isPermutation_iff.mp complete)).mp member
      rw [count] at inside
      exact Meets.itemAt (form.shape dims shape) inside.1 inside.2
    apply permuted.bind
    intro extents _ formed
    exact .single (form.withShape (Shape.wellFormed_ranked.mpr formed))

theorem inferReverse_meets {dimensions : Payload} (form : operand.WellFormed)
    (timed : dimensions.TimedIsExcused excused) :
    Meets excused FormedAll (inferReverse operand dimensions) := by
  apply (needTensor_meets form _).bind
  intro operand _ form
  apply (Payload.decodeInts_meets timed _ _).bind
  intro dims _ _
  apply (ensurePositions_meets ..).andThen
  exact .single form.ty

theorem ensureSameSize_meets (operand result : Shape) :
    Meets excused (fun _ => True) (ensureSameSize operand result) := by
  unfold ensureSameSize
  split
  · exact Meets.ensure.weaken
  · trivial

theorem inferReshape_meets {result : Ty} (form : operand.WellFormed)
    (resultForm : result.WellFormed) : Meets excused FormedAll (inferReshape operand result) := by
  apply (needTensor_meets form _).bind
  intro operand _ _
  apply (needTensor_meets resultForm _).bind
  intro result _ form
  apply Meets.ensure.andThen
  apply (ensureSameSize_meets ..).andThen
  exact .single form.ty

/-- The rank that a reshape asks for is more than a list can have. -/
def DynamicReshape.Outgrows (op : DynamicReshape) : Prop :=
  ∃ (operand outputShape : Tensor) (n : Int), op.operand = operand.ty ∧
    op.outputShape = outputShape.ty ∧ shapeOperand outputShape "output_shape" = .ok (some n) ∧
    signedLimit ≤ n

theorem DynamicReshape.infer_meets {op : DynamicReshape} (operand : op.operand.WellFormed)
    (outputShape : op.outputShape.WellFormed) (result : ∀ t ∈ op.result, t.WellFormed)
    (long : op.Outgrows → excused .overflow) : Meets excused FormedAll op.infer := by
  apply (needTensor_meets operand _).bind
  intro operand operandView form
  apply (needTensor_meets outputShape _).bind
  intro outputShape outputView shapeForm
  apply (shapeOperand_meets shapeForm _).bind
  intro rank rankFound rankForm
  have unknown : Meets excused Shape.WellFormed (Dimensions.unknownShape rank) := by
    cases rank with
    | none => exact Shape.wellFormed_unranked
    | some n =>
      have tooLong : signedLimit ≤ n → excused .overflow := fun length =>
        long ⟨operand, outputShape, n, needTensor_eq_ok.mp operandView,
          needTensor_eq_ok.mp outputView, rankFound, length⟩
      apply (Dimensions.unknownDims_meets (Extent.wellFormed_some.mp rankForm) tooLong).bind
      intro dims _ unknown
      refine Shape.wellFormed_ranked.mpr fun dim member => ?_
      rw [unknown.2 dim member]
      exact Extent.wellFormed_none
  apply unknown.bind
  intro inferred _ inferredForm
  cases declared : op.result with
  | none => exact .single (form.withShape inferredForm)
  | some result' =>
    apply (needTensor_meets (result result' declared) _).bind
    intro result _ resultForm
    apply Meets.ensure.andThen
    apply Meets.ensure.andThen
    apply (ensureSameSize_meets ..).andThen
    exact .single resultForm.ty

/-- Every item is used with the extent of the dimension at its place, which the operand has. -/
theorem collect_extents_meets {α : Type} {items : List α} {t : Tensor}
    {extent : Nat → α → Extent → Check Extent} (form : t.WellFormed)
    (count : ∀ rank, t.rank? = some rank → items.length = rank)
    (each : ∀ i item dim, Meets excused Extent.WellFormed (extent i item dim)) :
    Meets excused (fun dims => ∀ dim ∈ dims, Extent.WellFormed dim)
      (collect (fun item => do extent item.2 item.1 (← t.dim item.2)) items.zipIdx) := by
  apply Meets.collect
  intro item member
  have inside : t.HasDim item.2 := by
    refine fun rank known => ⟨Int.natCast_nonneg _, Int.ofNat_lt.mpr ?_⟩
    rw [← count rank known]
    exact List.snd_lt_of_mem_zipIdx member
  apply (form.dim inside).bind
  intro dim _ _
  exact each item.2 item.1 dim

theorem PadDim.extent_meets (i : Nat) (pad : PadDim) (dim : Extent) :
    Meets excused Extent.WellFormed (pad.extent i dim) := by
  apply Meets.ensure.andThen
  cases dim with
  | none => exact Extent.wellFormed_none
  | some n =>
    apply Meets.ensure_bind
    intro nonneg
    exact Extent.wellFormed_some.mpr nonneg

/-- The result has the rank of the operand, when that is known. -/
theorem Pad.rank_meets {op : Pad} (operand : Tensor) (low : op.edgeLow.TimedIsExcused excused) :
    Meets excused (fun rank => ∀ n, operand.rank? = some n → rank = some n) (op.rank operand) := by
  unfold Pad.rank
  cases operand.rank? with
  | some rank => exact fun _ => id
  | none =>
    apply (Payload.decodeInts_meets low _ _).bind
    intro _ _ _ n known
    cases known

/-- The padding is given for as many dimensions as the rank says. -/
theorem Pad.decode_meets {op : Pad} (rank : Nat) (low : op.edgeLow.TimedIsExcused excused)
    (high : op.edgeHigh.TimedIsExcused excused) (interior : op.interior.TimedIsExcused excused) :
    Meets excused (fun pads => pads.length = rank) (op.decode rank) := by
  apply (Payload.decodeIntsOr_meets low _ _ _).bind
  intro lows _ lowCount
  apply (Payload.decodeIntsOr_meets high _ _ _).bind
  intro highs _ highCount
  apply (Payload.decodeIntsOr_meets interior _ _ _).bind
  intro interiors _ interiorCount
  have read := collect_itemAt_range PadDim.mk lowCount highCount interiorCount
  exact .of_ok read (by simp [lowCount, highCount, interiorCount])

theorem Pad.infer_meets {op : Pad} (operand : op.operand.WellFormed)
    (paddingValue : op.paddingValue.WellFormed) (low : op.edgeLow.TimedIsExcused excused)
    (high : op.edgeHigh.TimedIsExcused excused) (interior : op.interior.TimedIsExcused excused) :
    Meets excused FormedAll op.infer := by
  apply (needTensor_meets operand _).bind
  intro operand _ form
  apply (needTensor_meets paddingValue _).bind
  intro value _ _
  apply Meets.ensure.andThen
  apply Meets.ensure.andThen
  apply (Pad.rank_meets operand low).bind
  intro rank _ known
  cases rank with
  | none => exact .single form.ty
  | some rank =>
    apply (Pad.decode_meets rank low high interior).bind
    intro pads _ count
    have counted : ∀ n, operand.rank? = some n → pads.length = n :=
      fun n found => count.trans (Option.some.inj (known n found))
    apply (collect_extents_meets form counted PadDim.extent_meets).bind
    intro dims _ formed
    apply (Tensor.form_meets form.isElement form.element
      (Shape.wellFormed_ranked.mpr formed)).bind
    intro t _ form
    exact .single form.ty

/-! ### Slicing -/

/-- The number of positions from the start up to the limit: their distance divided by the stride,
    rounded up. -/
def SliceDim.size (slice : SliceDim) : Int :=
  -(Int.fdiv (-(slice.limit - slice.start)) slice.stride)

theorem SliceDim.floorDiv_eq {slice : SliceDim} (positive : 0 < slice.stride) :
    floorDiv (-(slice.limit - slice.start)) slice.stride = .ok (-slice.size) := by
  rw [SliceDim.size, Int.neg_neg]
  exact if_neg (Int.ne_of_gt positive)

theorem SliceDim.size_nonneg {slice : SliceDim} (positive : 0 < slice.stride)
    (ordered : slice.start ≤ slice.limit) : 0 ≤ slice.size := by
  have quotient : -(slice.limit - slice.start) / slice.stride ≤ 0 :=
    Int.ediv_nonpos_of_nonpos_of_neg (by omega) positive
  rw [SliceDim.size, Int.fdiv_eq_ediv_of_nonneg _ (Int.le_of_lt positive)]
  omega

theorem SliceDim.extent_meets (i : Nat) (slice : SliceDim) (bound : Extent) :
    Meets excused Extent.WellFormed (slice.extent i bound) := by
  apply Meets.ensure.andThen
  apply Meets.ensure_bind
  intro positive
  have size (ordered : slice.start ≤ slice.limit) : Meets excused Extent.WellFormed
      (do return some (-(← floorDiv (-(slice.limit - slice.start)) slice.stride))) := by
    apply Meets.bind_ok (floorDiv_eq positive)
    rw [Int.neg_neg]
    exact Extent.wellFormed_some.mpr (size_nonneg positive ordered)
  cases bound with
  | none =>
    apply Meets.ensure_bind
    exact size
  | some n =>
    apply Meets.ensure.andThen
    apply Meets.ensure_bind
    exact size

/-- There is a slice for each dimension of the operand, when its rank is known. -/
theorem Slice.decode_meets {op : Slice} (rank : Option Nat)
    (starts : op.starts.TimedIsExcused excused) (limits : op.limits.TimedIsExcused excused)
    (strides : op.strides.TimedIsExcused excused) :
    Meets excused (fun slices => ∀ n, rank = some n → slices.length = n) (op.decode rank) := by
  apply (Payload.decodeInts_meets starts _ _).bind
  intro starts _ _
  apply (Payload.decodeInts_meets limits _ _).bind
  intro limits _ _
  apply (Payload.decodeIntsOr_meets strides _ _ _).bind
  intro strides _ strideCount
  apply Meets.ensure_bind
  intro startCount
  apply Meets.ensure_bind
  intro limitCount
  have startCount := Int.ofNat_inj.mp (Payload.isInt_int.mp startCount)
  have limitCount := Int.ofNat_inj.mp (Payload.isInt_int.mp limitCount)
  have read := collect_itemAt_range SliceDim.mk startCount.symm limitCount.symm strideCount
  refine .of_ok read ?_
  rintro n rfl
  simp_all

theorem Slice.infer_meets {op : Slice} (operand : op.operand.WellFormed)
    (starts : op.starts.TimedIsExcused excused) (limits : op.limits.TimedIsExcused excused)
    (strides : op.strides.TimedIsExcused excused) : Meets excused FormedAll op.infer := by
  apply (needTensor_meets operand _).bind
  intro operand _ form
  apply (Slice.decode_meets operand.rank? starts limits strides).bind
  intro slices _ count
  apply (collect_extents_meets form count SliceDim.extent_meets).bind
  intro dims _ formed
  apply (Tensor.form_meets form.isElement form.element (Shape.wellFormed_ranked.mpr formed)).bind
  intro t _ form
  exact .single form.ty

theorem RealDynamicSlice.verifyPositions_meets {value : Ty} (operand : Tensor) (name : String)
    (form : value.WellFormed) :
    Meets excused Tensor.WellFormed (verifyPositions operand name value) := by
  apply (needTensor_meets form _).bind
  intro value _ form
  apply (shapeOperand_meets form _).bind
  intro count _ _
  apply Meets.ensure.andThen
  exact form

theorem RealDynamicSlice.infer_meets {op : RealDynamicSlice} (operand : op.operand.WellFormed)
    (starts : op.starts.WellFormed) (limits : op.limits.WellFormed)
    (strides : op.strides.WellFormed) : Meets excused FormedAll op.infer := by
  apply (needTensor_meets operand _).bind
  intro operand _ form
  apply (verifyPositions_meets operand _ starts).bind
  intro starts _ startsForm
  apply (verifyPositions_meets operand _ limits).bind
  intro limits _ limitsForm
  apply (verifyPositions_meets operand _ strides).bind
  intro strides _ stridesForm
  apply (unifyTensorList_meets (by simp [startsForm, limitsForm, stridesForm])).andThen
  split
  · exact .single form.ty
  · exact .single (form.withShape (Shape.wellFormed_unknown _))

end Op

end TensorTyping
