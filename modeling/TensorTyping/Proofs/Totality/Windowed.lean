import TensorTyping.Op.Convolution
import TensorTyping.Op.Pooling
import TensorTyping.Proofs.Totality.Reduction
import TensorTyping.Proofs.Window.Sizes

/-!
# Windows and convolutions without misuse

The strides of a validated window are positive, so output extents can be computed and are positive
themselves. A convolution divides by group counts that were found to be positive.
-/

namespace TensorTyping

open Check

variable {excused : Misuse → Prop}

namespace Window

/-! ### Validated windows -/

theorem exists_itemOr {α : Type} {values : List α} {count i : Nat} (default : α)
    (length : values.isEmpty ∨ values.length = count) (inside : i < count) :
    ∃ value, itemOr values default i = .ok value ∧ (value = default ∨ value ∈ values) := by
  unfold itemOr
  split
  · exact ⟨default, rfl, Or.inl rfl⟩
  · rename_i nonempty
    have bound : (i : Int) < values.length := by
      rw [length.resolve_left nonempty]
      exact Int.ofNat_lt.mpr inside
    obtain ⟨value, success, found⟩ := exists_itemAt (Int.natCast_nonneg i) bound
    exact ⟨value, success, Or.inr (List.mem_of_getElem? found)⟩

/-- Every vector is empty or has one item per dimension, and rows of padding are pairs. -/
structure Attributes.Fits (attributes : Attributes) (count : Nat) : Prop where
  strides : attributes.strides.isEmpty ∨ attributes.strides.length = count
  baseDilations : attributes.baseDilations.isEmpty ∨ attributes.baseDilations.length = count
  windowDilations : attributes.windowDilations.isEmpty ∨ attributes.windowDilations.length = count
  reversal : attributes.reversal.isEmpty ∨ attributes.reversal.length = count
  padding : attributes.padding.isEmpty ∨ attributes.padding.length = count
  rows : ∀ row ∈ attributes.padding, row.length = 2

theorem buildDim_meets {attributes : Attributes} {count i : Nat} {size : WindowSize}
    (fits : attributes.Fits count) (inside : i < count)
    (ordered : ∃ answer, size.isBelowOne = .ok answer) :
    Meets excused (fun dim => 1 ≤ dim.stride) (buildDim attributes i size) := by
  obtain ⟨tooSmall, answered⟩ := ordered
  obtain ⟨stride, strideFound, -⟩ := exists_itemOr 1 fits.strides inside
  obtain ⟨base, baseFound, -⟩ := exists_itemOr 1 fits.baseDilations inside
  obtain ⟨window, windowFound, -⟩ := exists_itemOr 1 fits.windowDilations inside
  obtain ⟨row, rowFound, row_or⟩ := exists_itemOr [0, 0] fits.padding inside
  obtain ⟨reversed, reversedFound, -⟩ := exists_itemOr false fits.reversal inside
  have pair : row.length = 2 := by
    rcases row_or with rfl | member
    · rfl
    · exact fits.rows row member
  apply Meets.bind_ok answered
  apply Meets.ensure.andThen
  apply Meets.bind_ok strideFound
  apply Meets.ensure_bind
  intro positive
  apply Meets.bind_ok baseFound
  apply Meets.ensure.andThen
  apply Meets.bind_ok windowFound
  apply Meets.ensure.andThen
  apply Meets.bind_ok rowFound
  apply Meets.bind_ok reversedFound
  match row, pair with
  | [low, high], _ => exact positive

/-- The dimensions of a window are looked at only after all vectors were found to fit. -/
theorem build_meets_of_fits {property : List WindowDim → Prop} {sizes : List WindowSize}
    {attributes : Attributes} (rows : ∀ row ∈ attributes.padding, row.length = 2)
    (next : attributes.Fits sizes.length →
      Meets excused property
        (collect (fun item => buildDim attributes item.2 item.1) sizes.zipIdx)) :
    Meets excused property (build sizes attributes) := by
  apply Meets.ensure_bind
  intro strides
  apply Meets.ensure_bind
  intro baseDilations
  apply Meets.ensure_bind
  intro windowDilations
  apply Meets.ensure_bind
  intro reversal
  apply Meets.ensure_bind
  intro padding
  exact next ⟨strides, baseDilations, windowDilations, reversal, padding, rows⟩

theorem build_meets {sizes : List WindowSize} {attributes : Attributes}
    (read : ∀ size ∈ sizes, IsRead size) (rows : ∀ row ∈ attributes.padding, row.length = 2) :
    Meets excused (fun window => ∀ dim ∈ window, 1 ≤ dim.stride) (build sizes attributes) := by
  apply build_meets_of_fits rows
  intro fits
  apply Meets.collect
  rintro ⟨size, i⟩ member
  obtain ⟨-, inside, -⟩ := List.mem_zipIdx member
  have given : IsRead size := read size (List.fst_mem_of_mem_zipIdx member)
  exact buildDim_meets fits (by omega) (isBelowOne_of_isRead given)

/-- The payloads that are decoded as integers. -/
def RawAttributes.integers (raw : RawAttributes) : List Payload :=
  [raw.strides, raw.padding, raw.baseDilations, raw.windowDilations]

theorem RawAttributes.decode_meets {raw : RawAttributes} {count : Payload}
    (timed : ∀ payload ∈ raw.integers, payload.TimedIsExcused excused)
    (number : count.Integral) :
    Meets excused (fun attributes => ∀ row ∈ attributes.padding, row.length = 2)
      (raw.decode count) := by
  simp only [integers, List.forall_mem_cons] at timed
  obtain ⟨strides, padding, baseDilations, windowDilations, -⟩ := timed
  apply (Payload.decodeInts_meets strides _ _).bind
  intro strides _ _
  apply (Payload.readPadding_meets padding number).bind
  intro padding _ rows
  apply (Payload.decodeInts_meets baseDilations _ _).bind
  intro baseDilations _ _
  apply (Payload.decodeInts_meets windowDilations _ _).bind
  intro windowDilations _ _
  apply (raw.reversal.decodeBools_meets _).bind
  intro reversal _ _
  exact rows

theorem decode_meets {raw : RawAttributes} {sizes count : Payload}
    (decoded : ∀ items, sizes = .list items → ¬ HoldsUndecoded items)
    (excuse : sizes.TimedVector → excused .wrongSort)
    (timed : ∀ payload ∈ raw.integers, payload.TimedIsExcused excused)
    (number : count.Integral) :
    Meets excused (fun window => ∀ dim ∈ window, 1 ≤ dim.stride) (decode sizes count raw) := by
  apply (decodeSizes_meets excuse).bind
  intro read _ read_iff
  apply Meets.ensure.andThen
  apply (RawAttributes.decode_meets timed number).bind
  intro attributes _ rows
  exact build_meets (read_iff.mpr decoded) rows

/-! ### Output extents -/

theorem strided_meets {stride : Int} (bound size : Extent) (positive : 1 ≤ stride) :
    Meets excused Extent.WellFormed (strided bound size stride) := by
  unfold strided
  split
  · rename_i b w
    split
    · exact Extent.wellFormed_none
    · rename_i fits
      apply Meets.bind_ok (floorDiv_of_pos positive (b - w))
      have places : 0 ≤ (b - w) / stride := Int.ediv_nonneg (by omega) (by omega)
      exact Extent.wellFormed_some.mpr (by omega)
  · exact Extent.wellFormed_none

theorem outputDims_meets {window : List WindowDim} (base : List Extent)
    (positive : ∀ dim ∈ window, 1 ≤ dim.stride) :
    Meets excused (fun dims => ∀ dim ∈ dims, dim.WellFormed) (outputDims base window) := by
  apply Meets.ensure.andThen
  apply Meets.collect
  rintro ⟨extent, dim⟩ member
  cases extent with
  | none => exact Extent.wellFormed_none
  | some b => exact strided_meets _ _ (positive dim (List.of_mem_zip member).2)

end Window

namespace Op

open Ty

/-! ### Windowed reductions -/

theorem ReduceWindow.infer_meets {op : ReduceWindow} (inputs : FormedAll op.inputs)
    (inits : TypesGiven op.inits) (body : Region.Given op.body)
    (timedSizes : op.sizes.TimedIsExcused excused)
    (timed : ∀ payload ∈ op.window.integers, payload.TimedIsExcused excused) :
    Meets excused FormedAll op.infer := by
  apply (needInits_meets inits).bind
  rintro inits _ ⟨initTypes, present, -⟩
  apply (collect_needTensor_meets inputs _).bind
  intro inputs collected inputsForm
  apply (collect_needTensor_meets initTypes _).bind
  intro inits _ _
  apply (unifyInputs_meets inputsForm (length_pos_of_needTensor present collected) _).bind
  intro base _ _
  apply (verifyScalarInits_meets inits).andThen
  apply (Payload.decodeInts_meets timedSizes _ _).bind
  intro sizes _ _
  apply Meets.ensure.andThen
  have decoded := Window.not_holdsUndecoded_ofInts
  apply (Window.decode_meets (decoded _) (Payload.timedIsExcused_ofInts sizes).vector timed
    (Payload.integral_int _)).bind
  intro window _ positive
  apply (Reducer.verify_meets body (Payload.integral_int _)).bind
  intro accumulators _ formed
  apply (Window.outputDims_meets _ positive).bind
  intro dims _ extents
  apply Meets.collect
  intro t member
  have form := formed.1 t member
  apply (Tensor.form_meets form.isElement form.element (Shape.wellFormed_ranked.mpr extents)).map
  intro t _ form
  exact form.ty

theorem verifySelection_meets (select : Region) (operand : Tensor) :
    Meets excused (fun _ => True) (verifySelection select operand) := by
  apply Meets.ensure.andThen
  apply (Meets.checkEach fun _ _ _ => Meets.ensure.weaken).andThen
  exact Meets.ensure.weaken

/-- The payloads that are decoded as integers. -/
def SelectAndScatter.integers (op : SelectAndScatter) : List Payload :=
  [op.sizes, op.strides, op.padding]

theorem SelectAndScatter.verifySource_meets {op : SelectAndScatter} (dims : List Extent)
    (source : Shape) (timed : ∀ payload ∈ op.integers, payload.TimedIsExcused excused) :
    Meets excused (fun _ => True) (op.verifySource dims source) := by
  simp only [integers, List.forall_mem_cons] at timed
  obtain ⟨timedSizes, timedStrides, timedPadding, -⟩ := timed
  have sizesRead : (if op.sizes.isAbsent then .null else op.sizes).TimedIsExcused excused := by
    split
    · exact Payload.timedIsExcused_null
    · exact timedSizes
  apply (Payload.decodeIntsOr_meets sizesRead _ _ _).bind
  intro sizes _ _
  have decoded := Window.not_holdsUndecoded_ofInts
  have timedWindow : ∀ payload ∈ ({ strides := op.strides, padding := op.padding } :
      Window.RawAttributes).integers, payload.TimedIsExcused excused := by
    simp [Window.RawAttributes.integers, timedStrides, timedPadding, Payload.timedIsExcused_null]
  apply (Window.decode_meets (decoded _) (Payload.timedIsExcused_ofInts sizes).vector timedWindow
    (Payload.integral_int _)).bind
  intro window _ positive
  apply (Window.outputDims_meets _ positive).bind
  intro windowed _ _
  exact Meets.ensure.weaken

theorem SelectAndScatter.infer_meets {op : SelectAndScatter} (operand : op.operand.WellFormed)
    (source : op.source.WellFormed) (init : op.init.WellFormed) (select : Region.Given op.select)
    (scatter : Region.Given op.scatter)
    (timed : ∀ payload ∈ op.integers, payload.TimedIsExcused excused) :
    Meets excused FormedAll op.infer := by
  obtain ⟨selection, found, -⟩ := select
  apply (needTensor_meets operand _).bind
  intro operand _ form
  apply (needTensor_meets source _).bind
  intro source _ _
  apply (needTensor_meets init _).bind
  intro init _ _
  apply Meets.ensure.andThen
  apply Meets.bind_ok (needPart_eq_ok.mpr found)
  apply (verifySelection_meets selection operand).andThen
  apply (Reducer.verify_meets scatter (Payload.integral_int _)).andThen
  apply Meets.ensure.andThen
  split
  · exact .single form.ty
  · apply (verifySource_meets _ _ timed).andThen
    exact .single form.ty

end Op

/-! ### Convolutions -/

/-- The single dimensions of a convolution are integers. -/
structure ConvolutionDims.WellFormed (dims : ConvolutionDims) : Prop where
  inputBatch : dims.inputBatch.Integral
  inputFeature : dims.inputFeature.Integral
  kernelInputFeature : dims.kernelInputFeature.Integral
  kernelOutputFeature : dims.kernelOutputFeature.Integral
  outputBatch : dims.outputBatch.Integral
  outputFeature : dims.outputFeature.Integral

namespace ConvolutionDims

/-- The numbers of the roles of one tensor lie within the rank. -/
def RolesInRange (rank : Nat) (first second : Payload) (spatial : List Int) : Prop :=
  ∀ payload ∈ first :: second :: spatial.map .int, ∀ n, payload.needInt = .ok n →
    0 ≤ n ∧ n < rank

section Roles

variable {rank : Nat} {a b : Payload} {positions : List Int}

theorem RolesInRange.first (inRange : RolesInRange rank a b positions) {d : Int}
    (value : a.needInt = .ok d) : 0 ≤ d ∧ d < rank :=
  inRange a List.mem_cons_self d value

theorem RolesInRange.second (inRange : RolesInRange rank a b positions) {d : Int}
    (value : b.needInt = .ok d) : 0 ≤ d ∧ d < rank :=
  inRange b (List.mem_cons_of_mem _ List.mem_cons_self) d value

theorem RolesInRange.spatial (inRange : RolesInRange rank a b positions) :
    ∀ d ∈ positions, 0 ≤ d ∧ d < rank := by
  intro d member
  have listed : Payload.int d ∈ a :: b :: positions.map .int :=
    List.mem_cons_of_mem _ (List.mem_cons_of_mem _ (List.mem_map_of_mem member))
  exact inRange _ listed d rfl

end Roles

theorem ensureRoles_meets {first second : Payload} (rank : Nat) (what : String)
    (spatial : List Int) (firstNumber : first.Integral) (secondNumber : second.Integral) :
    Meets excused (fun _ => RolesInRange rank first second spatial)
      (ensureRoles (.int rank) what first second spatial) := by
  have numbers : ∀ payload ∈ first :: second :: spatial.map .int, payload.Integral := by
    simp only [List.forall_mem_cons, List.forall_mem_map]
    exact ⟨firstNumber, secondNumber, fun n _ => Payload.integral_int n⟩
  apply Meets.bind_ok (Payload.areDistinct_of_integral numbers)
  apply Meets.ensure.andThen
  apply Meets.checkAll_forall
  intro d member
  obtain ⟨m, value⟩ := numbers d member
  apply Meets.bind_ok rfl
  apply (Payload.isWithin_meets value 0 rank).bind
  intro inRange _ inside
  apply Meets.ensure.mono
  intro _ _ within n value'
  obtain rfl := Except.ok.inj (value.symm.trans value')
  exact inside within

theorem verify_meets {dims : ConvolutionDims} (form : dims.WellFormed) (rank : Nat) :
    Meets excused (fun _ => RolesInRange rank dims.inputBatch dims.inputFeature dims.inputSpatial ∧
      RolesInRange rank dims.kernelInputFeature dims.kernelOutputFeature dims.kernelSpatial ∧
      RolesInRange rank dims.outputBatch dims.outputFeature dims.outputSpatial)
      (dims.verify (.int rank)) := by
  apply Meets.bind_ok rfl
  apply Meets.ensure.andThen
  apply Meets.ensure.andThen
  apply Meets.ensure.andThen
  apply (ensureRoles_meets _ _ _ form.inputBatch form.inputFeature).bind
  intro _ _ input
  apply (ensureRoles_meets _ _ _ form.kernelInputFeature form.kernelOutputFeature).bind
  intro _ _ kernel
  apply (ensureRoles_meets _ _ _ form.outputBatch form.outputFeature).mono
  intro _ _ output
  exact ⟨input, kernel, output⟩

end ConvolutionDims

namespace Op.Convolution

open Ty

/-- Numbers of groups that were found to be valid are positive. -/
theorem verifyGroups_meets {op : Convolution} (features : op.featureGroups.Integral)
    (batches : op.batchGroups.Integral) :
    Meets excused (fun _ => op.featureGroups.Positive ∧ op.batchGroups.Positive)
      op.verifyGroups := by
  obtain ⟨n, value⟩ := features
  obtain ⟨k, value'⟩ := batches
  apply Meets.bind_ok (Payload.test_of_needInt value _ _)
  apply Meets.ensure_bind
  intro positive
  apply Meets.bind_ok (Payload.test_of_needInt value' _ _)
  apply Meets.ensure_bind
  intro positive'
  apply Meets.bind_ok (Payload.test_of_needInt value _ _)
  apply Meets.bind_ok (Payload.test_of_needInt value' _ _)
  apply Meets.ensure.mono
  intro _ _ _
  rw [Bool.not_eq_true', decide_eq_false_iff_not, Int.not_le] at positive positive'
  exact ⟨⟨n, value, positive⟩, k, value', positive'⟩

theorem isMultiple_meets {groups : Payload} (dim : Extent) (count : groups.Positive) :
    Meets excused (fun _ => True) (isMultiple dim groups) := by
  obtain ⟨k, value, positive⟩ := count
  cases dim with
  | none => trivial
  | some n => exact .of_ok (Payload.divides_of_needInt value positive n) trivial

theorem groupMatches_meets {groups : Payload} (features kernelFeatures : Extent)
    (count : groups.Positive) :
    Meets excused (fun _ => True) (groupMatches features kernelFeatures groups) := by
  obtain ⟨k, value, positive⟩ := count
  unfold groupMatches
  split
  · apply Meets.bind_ok (Payload.share_of_needInt value positive _)
    trivial
  · trivial

theorem groupExtent_meets {dim : Extent} {groups : Payload} (form : dim.WellFormed)
    (count : groups.Positive) : Meets excused Extent.WellFormed (groupExtent dim groups) := by
  obtain ⟨k, value, positive⟩ := count
  cases dim with
  | none => exact Extent.wellFormed_none
  | some n =>
    have nonneg : 0 ≤ n / k :=
      Int.ediv_nonneg (Extent.wellFormed_some.mp form) (Int.le_of_lt positive)
    apply Meets.bind_ok (Payload.share_of_needInt value positive n)
    simp only [Shape.readExtent, if_neg (Int.not_lt.mpr nonneg)]
    exact Extent.wellFormed_some.mpr nonneg

theorem verifyFeatures_meets {op : Convolution} (features : op.featureGroups.Positive)
    (batches : op.batchGroups.Positive) (batch inputs kernelInputs outputs : Extent) :
    Meets excused (fun _ => True) (op.verifyFeatures batch inputs kernelInputs outputs) := by
  apply (isMultiple_meets inputs features).bind
  intro multiple _ _
  apply Meets.ensure.andThen
  apply (groupMatches_meets inputs kernelInputs features).bind
  intro agree _ _
  apply Meets.ensure.andThen
  apply (isMultiple_meets batch batches).bind
  intro multiple _ _
  apply Meets.ensure.andThen
  apply (isMultiple_meets outputs batches).bind
  intro multiple _ _
  apply Meets.ensure.andThen
  apply (isMultiple_meets outputs features).bind
  intro multiple _ _
  exact Meets.ensure.weaken

/-- Every extent has a place of the output. -/
theorem placeDims_meets {batch features : Extent} {spatial : List Extent} {rank : Nat}
    {batchDim featureDim : Int} {spatialDims : List Int}
    (batchInside : 0 ≤ batchDim ∧ batchDim < rank)
    (featureInside : 0 ≤ featureDim ∧ featureDim < rank)
    (spatialInside : ∀ d ∈ spatialDims, 0 ≤ d ∧ d < rank) (batchForm : batch.WellFormed)
    (featuresForm : features.WellFormed) (spatialForm : ∀ dim ∈ spatial, dim.WellFormed) :
    Meets excused (fun dims => ∀ dim ∈ dims, Extent.WellFormed dim)
      (placeDims rank batchDim featureDim spatialDims batch features spatial) := by
  apply Meets.setItems
  · intro dim member
    rw [List.eq_of_mem_replicate member]
    exact Extent.wellFormed_none
  · simp only [List.forall_mem_cons, List.length_replicate]
    refine ⟨⟨batchInside.1, batchInside.2, batchForm⟩,
      ⟨featureInside.1, featureInside.2, featuresForm⟩, ?_⟩
    rintro ⟨d, extent⟩ member
    obtain ⟨listed, extentListed⟩ := List.of_mem_zip member
    obtain ⟨nonneg, inside⟩ := spatialInside d listed
    exact ⟨nonneg, inside, spatialForm extent extentListed⟩

theorem collect_dim_meets {t : Tensor} {rank : Nat} {positions : List Int} (form : t.WellFormed)
    (known : t.rank? = some rank) (inside : ∀ d ∈ positions, 0 ≤ d ∧ d < rank) :
    Meets excused (fun dims => ∀ dim ∈ dims, Extent.WellFormed dim) (collect t.dim positions) := by
  apply Meets.collect
  intro d member
  obtain ⟨nonneg, below⟩ := inside d member
  exact form.dim (Tensor.hasDim_of_rank known nonneg below)

theorem inferRanked_meets {op : Convolution} {lhs rhs : Tensor} {rank : Nat}
    (left : lhs.WellFormed) (right : rhs.WellFormed) (leftRank : lhs.rank? = some rank)
    (rightRank : rhs.rank? = some rank)
    (dimensions : ∃ dims, op.dimensions = some dims ∧ dims.WellFormed)
    (timed : ∀ payload ∈ op.window.integers, payload.TimedIsExcused excused)
    (features : op.featureGroups.Positive) (batches : op.batchGroups.Positive) :
    Meets excused Tensor.WellFormed (op.inferRanked lhs rhs rank) := by
  obtain ⟨dims, found, form⟩ := dimensions
  obtain ⟨inputBatch, inputBatchValue⟩ := form.inputBatch
  obtain ⟨inputFeature, inputFeatureValue⟩ := form.inputFeature
  obtain ⟨kernelInput, kernelInputValue⟩ := form.kernelInputFeature
  obtain ⟨kernelOutput, kernelOutputValue⟩ := form.kernelOutputFeature
  obtain ⟨batchDim, batchFound⟩ := form.outputBatch
  obtain ⟨featureDim, featureFound⟩ := form.outputFeature
  apply Meets.bind_ok (needPart_eq_ok.mpr found)
  apply (ConvolutionDims.verify_meets form rank).bind
  rintro _ _ ⟨input, kernel, output⟩
  -- Each role names a dimension of its tensor, so that its extent can be read or placed.
  have hasDim {t : Tensor} (known : t.rank? = some rank) {d : Int} (inside : 0 ≤ d ∧ d < rank) :
      t.HasDim d := Tensor.hasDim_of_rank known inside.1 inside.2
  apply (left.dimAt inputBatchValue (hasDim leftRank (input.first inputBatchValue))).bind
  intro batch _ batchForm
  apply (left.dimAt inputFeatureValue (hasDim leftRank (input.second inputFeatureValue))).bind
  intro inputs _ _
  apply (right.dimAt kernelInputValue (hasDim rightRank (kernel.first kernelInputValue))).bind
  intro kernelInputs _ _
  apply (right.dimAt kernelOutputValue (hasDim rightRank (kernel.second kernelOutputValue))).bind
  intro outputs _ outputsForm
  apply (verifyFeatures_meets features batches batch inputs kernelInputs outputs).andThen
  apply (collect_dim_meets right rightRank kernel.spatial).bind
  intro sizes _ _
  have decoded := Window.not_holdsUndecoded_ofExtents
  apply (Window.decode_meets (decoded _) (Payload.timedIsExcused_ofExtents sizes).vector timed
    (Payload.integral_int _)).bind
  intro window _ strides
  apply (collect_dim_meets left leftRank input.spatial).bind
  intro base _ _
  apply (Window.outputDims_meets _ strides).bind
  intro spatial _ spatialForm
  apply Meets.bind_ok batchFound
  apply Meets.bind_ok featureFound
  apply (groupExtent_meets batchForm batches).bind
  intro group _ groupForm
  apply (placeDims_meets (output.first batchFound) (output.second featureFound) output.spatial
    groupForm outputsForm spatialForm).bind
  intro shape _ formed
  exact Tensor.form_meets left.isElement left.element (Shape.wellFormed_ranked.mpr formed)

theorem infer_meets {op : Convolution} (lhs : op.lhs.WellFormed) (rhs : op.rhs.WellFormed)
    (dimensions : ∃ dims, op.dimensions = some dims ∧ dims.WellFormed)
    (features : op.featureGroups.Integral) (batches : op.batchGroups.Integral)
    (precision : PrecisionGiven op.precision) (result : ∀ t ∈ op.result, t.WellFormed)
    (timed : ∀ payload ∈ op.window.integers, payload.TimedIsExcused excused) :
    Meets excused FormedAll op.infer := by
  apply (needTensor_meets lhs _).bind
  intro lhs _ left
  apply (needTensor_meets rhs _).bind
  intro rhs _ right
  apply (verifyPrecision_meets precision).andThen
  apply (verifyGroups_meets features batches).bind
  rintro _ _ ⟨features, batches⟩
  have tensor : Meets excused Tensor.WellFormed (op.inferTensor lhs rhs) := by
    unfold inferTensor
    split
    · rename_i rank kernelRank leftRank rightRank
      apply Meets.ensure_bind
      rintro rfl
      apply Meets.ensure.andThen
      exact inferRanked_meets left right leftRank rightRank dimensions timed features batches
    · exact left.unranked
  apply tensor.bind
  intro inferred _ form
  exact settled_meets form result _

end Op.Convolution

end TensorTyping
