import TensorTyping.Op.Broadcasting
import TensorTyping.Op.Conversion
import TensorTyping.Op.Creation
import TensorTyping.Op.LinearAlgebra
import TensorTyping.Op.Normalization
import TensorTyping.Proofs.Dimensions
import TensorTyping.Proofs.Totality.Payload
import TensorTyping.Proofs.Totality.Types

/-!
# Rules on elements and attributes without misuse

The elementwise rules, the conversions, and the rules whose results come from attributes or from one
operand: each gives well-formed types or a diagnostic.
-/

namespace TensorTyping

open Check

variable {excused : Misuse → Prop}

/-! ### Broadcasting -/

theorem Broadcast.extent?_wellFormed {a b dim : Extent} (ha : a.WellFormed) (hb : b.WellFormed)
    (found : Broadcast.extent? a b = some dim) : dim.WellFormed := by
  unfold extent? at found
  split at found
  · exact Option.some.inj found ▸ hb
  split at found
  · exact Option.some.inj found ▸ ha
  split at found
  · exact Option.some.inj found ▸ hb
  split at found
  · exact Option.some.inj found ▸ ha
  · cases found

theorem Broadcast.align_wellFormed {dims : List Extent} (all : ∀ dim ∈ dims, dim.WellFormed)
    (rank : Nat) : ∀ dim ∈ align rank dims, dim.WellFormed := by
  intro dim member
  rcases List.mem_append.mp member with member | member
  · rw [List.eq_of_mem_replicate member, Extent.wellFormed_some]
    decide
  · exact all dim member

theorem Broadcast.shapes_meets {s t : Shape} (hs : s.WellFormed) (ht : t.WellFormed) :
    Meets excused Shape.WellFormed (Broadcast.shapes s t) := by
  unfold shapes
  split
  · rename_i a b
    rw [Shape.wellFormed_ranked] at hs ht
    have extents : Meets excused (fun dims => ∀ dim ∈ dims, dim.WellFormed) (dims a b) := by
      apply Meets.collect
      rintro ⟨⟨x, y⟩, i⟩ member
      have inside := List.of_mem_zip (List.fst_mem_of_mem_zipIdx member)
      have left := align_wellFormed hs _ x inside.1
      have right := align_wellFormed ht _ y inside.2
      dsimp only
      cases found : extent? x y with
      | none => trivial
      | some dim => exact extent?_wellFormed left right found
    apply extents.bind
    intro dims _ all
    exact Shape.wellFormed_ranked.mpr all
  · exact Shape.wellFormed_unranked

/-! ### Dimensions with a given number -/

theorem Tensor.dimAt_of_needInt {t : Tensor} {index : Payload} {n : Int}
    (value : index.needInt = .ok n) : t.dimAt index = t.dim n := by
  unfold Tensor.dimAt Tensor.dim
  rw [value]
  rfl

theorem Tensor.WellFormed.dimAt {t : Tensor} (form : t.WellFormed) {index : Payload} {n : Int}
    (value : index.needInt = .ok n) (has : t.HasDim n) :
    Meets excused Extent.WellFormed (t.dimAt index) := by
  rw [dimAt_of_needInt value]
  exact form.dim has

/-! ### Widths -/

theorem IntWidth.bits_pos (width : IntWidth) : 0 < width.bits := by
  cases width <;> decide

theorem FloatFormat.bits_pos (format : FloatFormat) : 0 < format.bits := by
  cases format <;> decide

namespace Op

open Ty

/-! ### Elementwise rules -/

variable {operand lhs rhs : Ty}

theorem unifyOperands_meets {operands : List Ty} (all : FormedAll operands) (what : String) :
    Meets excused Tensor.WellFormed (unifyOperands operands what) := by
  apply (collect_needTensor_meets all what).bind
  intro tensors _ formed
  exact unifyTensorList_meets formed

theorem formedAll_pair {a b : Ty} (ha : a.WellFormed) (hb : b.WellFormed) : FormedAll [a, b] := by
  simp [FormedAll, ha, hb]

theorem inferUnary_meets (kind : UnaryKind) (form : operand.WellFormed) :
    Meets excused FormedAll (inferUnary kind operand) := by
  apply (needTensor_meets form _).bind
  intro operand _ form
  apply Meets.ensure.andThen
  exact .single form.ty

theorem Binary.infer_meets {op : Binary} (lhs : op.lhs.WellFormed) (rhs : op.rhs.WellFormed) :
    Meets excused FormedAll op.infer := by
  apply (needTensor_meets lhs _).bind
  intro lhs _ lhsForm
  apply (needTensor_meets rhs _).bind
  intro rhs _ rhsForm
  apply Meets.ensure.andThen
  apply Meets.ensure.andThen
  split
  · apply (Broadcast.shapes_meets lhsForm.shape rhsForm.shape).bind
    intro shape _ form
    exact .single (lhsForm.withShape form)
  · apply (unifyOperands_meets (formedAll_pair lhsForm.ty rhsForm.ty) _).bind
    intro unified _ form
    exact .single form.ty

theorem inferAbs_meets (form : operand.WellFormed) :
    Meets excused FormedAll (inferAbs operand) := by
  apply (needTensor_meets form _).bind
  intro operand _ form
  apply Meets.ensure.andThen
  split
  · exact .single (.tensor rfl (.float _) form.shape)
  · exact .single form.ty

theorem Compare.infer_meets {op : Compare} (lhs : op.lhs.WellFormed) (rhs : op.rhs.WellFormed) :
    Meets excused FormedAll op.infer := by
  apply Meets.ensure.andThen
  apply Meets.ensure.andThen
  apply (unifyOperands_meets (formedAll_pair lhs rhs) _).bind
  intro unified _ form
  exact .single (.tensor rfl .bool form.shape)

theorem inferIsFinite_meets (form : operand.WellFormed) :
    Meets excused FormedAll (inferIsFinite operand) := by
  apply (needTensor_meets form _).bind
  intro operand _ form
  apply Meets.ensure.andThen
  exact .single (.tensor rfl .bool form.shape)

theorem Select.infer_meets {op : Select} (pred : op.pred.WellFormed)
    (onTrue : op.onTrue.WellFormed) (onFalse : op.onFalse.WellFormed) :
    Meets excused FormedAll op.infer := by
  apply (needTensor_meets pred _).bind
  intro pred _ predForm
  apply Meets.ensure.andThen
  apply (unifyOperands_meets (formedAll_pair onTrue onFalse) _).bind
  intro result _ form
  split
  · exact .single form.ty
  · apply Meets.ensure.andThen
    have masked : Tensor.WellFormed ⟨result.element, pred.shape⟩ :=
      ⟨form.isElement, form.element, predForm.shape⟩
    apply (unifyTensorList_meets (by simp [form, masked])).bind
    intro refined _ refinedForm
    exact .single refinedForm.ty

theorem Clamp.verifyBound_meets {bound : Ty} (operand : Tensor) (name : String)
    (form : bound.WellFormed) : Meets excused (fun _ => True) (verifyBound operand name bound) := by
  apply (needTensor_meets form _).bind
  intro bound _ _
  apply Meets.ensure.andThen
  exact Meets.ensure.weaken

theorem Clamp.infer_meets {op : Clamp} (min : op.min.WellFormed) (operand : op.operand.WellFormed)
    (max : op.max.WellFormed) : Meets excused FormedAll op.infer := by
  apply (needTensor_meets operand _).bind
  intro operand _ form
  apply (verifyBound_meets operand _ min).andThen
  apply (verifyBound_meets operand _ max).andThen
  exact .single form.ty

/-! ### Conversions -/

theorem inferComplexPart_meets (form : operand.WellFormed) (operation : String) :
    Meets excused FormedAll (inferComplexPart operand operation) := by
  apply (needTensor_meets form _).bind
  intro operand _ form
  split
  · exact .single (.tensor rfl (.float _) form.shape)
  · exact .single form.ty
  · trivial

theorem inferComplex_meets (left : lhs.WellFormed) (right : rhs.WellFormed) :
    Meets excused FormedAll (inferComplex lhs rhs) := by
  apply (unifyOperands_meets (formedAll_pair left right) _).bind
  intro unified _ form
  split
  · exact .single (.tensor rfl (.complex _) form.shape)
  · exact .single (.tensor rfl (.complex _) form.shape)
  · trivial

theorem inferConvert_meets {element : Ty} (form : operand.WellFormed)
    (target : element.WellFormed) : Meets excused FormedAll (inferConvert operand element) := by
  obtain ⟨kind, found⟩ := target.kind?
  apply (needTensor_meets form _).bind
  intro operand _ form
  apply Meets.bind_ok (needPart_eq_ok.mpr found)
  apply Meets.ensure_bind
  intro isElement
  exact .single (.tensor isElement target form.shape)

theorem inferUniformDequantize_meets (form : operand.WellFormed)
    (calibrated : operand.Calibrated) :
    Meets excused FormedAll (inferUniformDequantize operand) := by
  apply (needTensor_meets form _).bind
  intro view success viewForm
  obtain rfl := needTensor_eq_ok.mp success
  split
  · rename_i storage expressed scale zeroPoint element
    obtain ⟨-, float⟩ := calibrated storage expressed scale zeroPoint element
    have isElement : expressed.isElement = true := by simp [Ty.isElement, float]
    have formed : expressed.WellFormed := by
      cases expressed with
      | float format => exact .float format
      | _ => cases float
    apply (Tensor.form_meets isElement formed viewForm.shape).bind
    intro t _ form
    exact .single form.ty
  · trivial

/-- The elements of a tensor have a width, and take some bits. -/
theorem elementBitwidth_eq_ok {t : Tensor} (form : t.WellFormed) (calibrated : t.ty.Calibrated) :
    ∃ width, elementBitwidth t.element = .ok width ∧ 0 < width := by
  have isElement := form.isElement
  cases element : t.element with
  | quantized storage expressed scale zeroPoint =>
    obtain ⟨integer, -⟩ := calibrated storage expressed scale zeroPoint element
    cases storage with
    | int width signed => exact ⟨width.bits, rfl, width.bits_pos⟩
    | _ => cases integer
  | int width signed => exact ⟨width.bits, rfl, width.bits_pos⟩
  | bool => exact ⟨1, rfl, Nat.one_pos⟩
  | float format => exact ⟨format.bits, rfl, format.bits_pos⟩
  | complex component =>
    exact ⟨2 * component.bits, rfl, Nat.mul_pos Nat.two_pos component.bits_pos⟩
  | tensor => simp [element] at isElement
  | tuple => simp [element] at isElement
  | token => simp [element] at isElement
  | missing => simp [element] at isElement

theorem verifyNarrowing_meets (operand result : Tensor) (wide narrow : List Extent) (ratio : Int) :
    Meets excused (fun _ => True) (verifyNarrowing operand result wide narrow ratio) := by
  apply Meets.ensure_bind
  intro longer
  apply Meets.ensure.andThen
  have present : narrow ≠ [] := List.ne_nil_of_length_pos (by omega)
  apply Meets.bind_ok (itemAt_last_eq_ok.mpr (List.getLast?_eq_some_getLast present))
  exact Meets.ensure.weaken

theorem verifyBitcast_meets {operandWidth resultWidth : Nat} (operand result : Tensor)
    (operandBits : 0 < operandWidth) (resultBits : 0 < resultWidth) :
    Meets excused (fun _ => True) (verifyBitcast operand result operandWidth resultWidth) := by
  unfold verifyBitcast
  split
  · split
    · exact Meets.ensure.weaken
    · split
      · apply Meets.bind_ok (floorDiv_of_pos (Int.natCast_pos.mpr resultBits) _)
        exact verifyNarrowing_meets ..
      · apply Meets.bind_ok (floorDiv_of_pos (Int.natCast_pos.mpr operandBits) _)
        exact verifyNarrowing_meets ..
  · trivial

theorem inferBitcastConvert_meets {result : Ty} (form : operand.WellFormed)
    (calibrated : operand.Calibrated) (resultForm : result.WellFormed)
    (resultCalibrated : result.Calibrated) :
    Meets excused FormedAll (inferBitcastConvert operand result) := by
  apply (needTensor_meets form _).bind
  intro source success sourceForm
  obtain rfl := needTensor_eq_ok.mp success
  apply (needTensor_meets resultForm _).bind
  intro target success targetForm
  obtain rfl := needTensor_eq_ok.mp success
  obtain ⟨sourceWidth, width, sourceBits⟩ := elementBitwidth_eq_ok sourceForm calibrated
  apply Meets.bind_ok width
  obtain ⟨targetWidth, width, targetBits⟩ := elementBitwidth_eq_ok targetForm resultCalibrated
  apply Meets.bind_ok width
  apply (verifyBitcast_meets source target sourceBits targetBits).andThen
  exact .single targetForm.ty

/-! ### Explicit broadcasts -/

theorem inferBroadcast_meets {sizes : Payload} (form : operand.WellFormed)
    (timed : sizes.TimedIsExcused excused) :
    Meets excused FormedAll (inferBroadcast operand sizes) := by
  apply (needTensor_meets form _).bind
  intro operand _ form
  apply (Payload.decodeInts_meets timed _ _).bind
  intro sizes _ _
  apply (Meets.checkAll fun _ _ => Meets.ensure.weaken).bind
  intro _ checked _
  rw [checkAll_eq_ok] at checked
  have shapeForm := form.shape
  split
  · exact .single form.ty
  · rename_i dims shape
    have extents : (Shape.ranked (sizes.map some ++ dims)).WellFormed := by
      rw [shape, Shape.wellFormed_ranked] at shapeForm
      rw [Shape.wellFormed_ranked, List.forall_mem_append]
      refine ⟨?_, shapeForm⟩
      intro dim member
      obtain ⟨size, inside, rfl⟩ := List.mem_map.mp member
      exact Extent.wellFormed_some.mpr (ensure_eq_ok.mp (checked size inside))
    apply (Tensor.form_meets form.isElement form.element extents).bind
    intro t _ form
    exact .single form.ty

theorem ensurePositions_meets (dims : List Int) (rank : Option Nat) (name : String) :
    Meets excused (fun _ => True) (Dimensions.ensurePositions dims rank name) := by
  apply Meets.ensure.andThen
  exact Meets.checkAll fun _ _ => Meets.ensure.weaken

theorem verifyBroadcastDims_meets (operand result : Tensor) (dims : List Int) :
    Meets excused (fun _ => True) (verifyBroadcastDims operand result dims) := by
  unfold verifyBroadcastDims
  cases known : operand.rank? with
  | none => trivial
  | some rank =>
    apply Meets.ensure_bind
    intro count
    cases known' : result.rank? with
    | none => exact ensurePositions_meets ..
    | some resultRank =>
      apply Meets.ensure.andThen
      apply (ensurePositions_meets ..).bind
      intro _ checked _
      have inRange := (Dimensions.ensurePositions_eq_ok.mp checked).2
      apply Meets.checkEach
      intro i d found
      have source : operand.HasDim i := by
        refine Tensor.hasDim_of_rank known (Int.natCast_nonneg i) (Int.ofNat_lt.mpr ?_)
        rw [← count]
        exact (List.getElem?_eq_some_iff.mp found).1
      have target : result.HasDim d := by
        refine Dimensions.hasDim_of_isPosition ?_
        rw [known']
        exact inRange d (List.mem_of_getElem? found)
      apply Meets.bind_ok source.dim_eq
      apply Meets.bind_ok target.dim_eq
      exact Meets.ensure.weaken

theorem BroadcastInDim.infer_meets {op : BroadcastInDim} (operand : op.operand.WellFormed)
    (result : op.result.WellFormed) (timed : op.dimensions.TimedIsExcused excused) :
    Meets excused FormedAll op.infer := by
  apply (needTensor_meets operand _).bind
  intro operand _ _
  apply (needTensor_meets result _).bind
  intro result _ form
  apply Meets.ensure.andThen
  apply (Payload.decodeInts_meets timed _ _).bind
  intro dims _ _
  apply (verifyBroadcastDims_meets operand result dims).andThen
  exact .single form.ty

/-- The extent of an operand that holds a shape. -/
theorem shapeOperand_meets {t : Tensor} (form : t.WellFormed) (name : String) :
    Meets excused Extent.WellFormed (shapeOperand t name) := by
  apply Meets.ensure_bind
  intro vector
  apply Meets.ensure.andThen
  exact form.dim (Tensor.hasDim_of_not_hasOtherRank vector (Int.le_refl 0) (by decide))

theorem DynamicBroadcastInDim.infer_meets {op : DynamicBroadcastInDim}
    (operand : op.operand.WellFormed) (outputDimensions : op.outputDimensions.WellFormed)
    (result : op.result.WellFormed) (timed : op.dimensions.TimedIsExcused excused)
    (expandingTimed : op.knownExpanding.TimedIsExcused excused)
    (nonexpandingTimed : op.knownNonexpanding.TimedIsExcused excused) :
    Meets excused FormedAll op.infer := by
  apply (needTensor_meets operand _).bind
  intro operand _ _
  apply (needTensor_meets result _).bind
  intro result _ form
  apply (needTensor_meets outputDimensions _).bind
  intro outputDimensions _ countForm
  apply (shapeOperand_meets countForm _).bind
  intro count _ _
  apply Meets.ensure.andThen
  apply Meets.ensure.andThen
  apply (Payload.decodeInts_meets timed _ _).bind
  intro dims _ _
  apply (verifyBroadcastDims_meets operand result dims).andThen
  apply (Payload.decodeInts_meets expandingTimed _ _).bind
  intro expanding _ _
  apply (Payload.decodeInts_meets nonexpandingTimed _ _).bind
  intro nonexpanding _ _
  apply (ensurePositions_meets ..).andThen
  apply (ensurePositions_meets ..).andThen
  split
  · exact .single form.ty
  · trivial

/-! ### Results from attributes -/

theorem inferIota_meets {dimension : Payload} {result : Ty} (number : dimension.Integral)
    (form : result.WellFormed) : Meets excused FormedAll (inferIota dimension result) := by
  apply (needTensor_meets form _).bind
  intro result _ form
  split
  · exact .single form.ty
  · apply Meets.ensure.andThen
    apply (number.numeric.test _ _).bind
    intro inRange _ _
    apply Meets.ensure.andThen
    exact .single form.ty

theorem inferGetDimensionSize_meets {dimension : Payload} (form : operand.WellFormed)
    (number : dimension.Integral) :
    Meets excused FormedAll (inferGetDimensionSize operand dimension) := by
  apply (needTensor_meets form _).bind
  intro operand _ _
  apply (number.isPosition _).bind
  intro inRange _ _
  apply Meets.ensure.andThen
  exact .single (Tensor.scalar_wellFormed rfl (.int _ _)).ty

theorem elementOfFormat?_wellFormed {format : EntryFormat} {element : Ty}
    (found : elementOfFormat? format = some element) :
    element.isElement = true ∧ element.WellFormed := by
  unfold elementOfFormat? at found
  split at found <;> cases found <;> exact ⟨rfl, by constructor⟩

theorem inferConstant_meets {value : Payload} {element : Option Ty} {grid : Grid}
    (rectangular : value.grid? = some grid) (form : ∀ t ∈ element, t.WellFormed) :
    Meets excused FormedAll (inferConstant value element) := by
  have shape : Shape.WellFormed (.ranked (grid.dims.map fun n => some (Int.ofNat n))) := by
    rw [Shape.wellFormed_ranked]
    intro dim member
    obtain ⟨n, -, rfl⟩ := List.mem_map.mp member
    exact Extent.wellFormed_some.mpr (Int.natCast_nonneg n)
  unfold inferConstant
  rw [rectangular]
  cases element with
  | some element =>
    apply Meets.ensure_bind
    intro isElement
    exact .single (.tensor isElement (form element rfl) shape)
  | none =>
    dsimp only
    split
    · rename_i element found
      obtain ⟨isElement, elementForm⟩ := elementOfFormat?_wellFormed found
      exact .single (.tensor isElement elementForm shape)
    · trivial

/-! ### Linear algebra -/

/-- Matrices that are found to be square have two dimensions. -/
theorem verifySquare_meets (a : Tensor) (what : String) :
    Meets excused (fun _ => ∀ rank, a.rank? = some rank → 2 ≤ rank) (verifySquare a what) := by
  unfold verifySquare
  cases known : a.rank? with
  | none =>
    intro rank found
    cases found
  | some rank =>
    apply Meets.ensure_bind
    intro matrix
    apply Meets.bind_ok (Tensor.hasDim_of_rank known (by omega) (by omega)).dim_eq
    apply Meets.bind_ok (Tensor.hasDim_of_rank known (by omega) (by omega)).dim_eq
    apply Meets.ensure.mono
    rintro _ _ _ _ ⟨⟩
    exact matrix

theorem inferCholesky_meets {a : Ty} (form : a.WellFormed) :
    Meets excused FormedAll (inferCholesky a) := by
  apply (needTensor_meets form _).bind
  intro a _ form
  apply Meets.ensure.andThen
  apply (verifySquare_meets a _).andThen
  exact .single form.ty

theorem TriangularSolve.verifyDims_meets {a b : Tensor} {rank : Nat} (leftSide : Bool)
    (left : a.rank? = some rank) (right : b.rank? = some rank) (matrix : 2 ≤ rank) :
    Meets excused (fun _ => True) (verifyDims leftSide a b rank) := by
  have batches : Meets excused (fun _ => True) (checkAll (fun (i : Nat) => do
      ensure (Extent.compatible (← a.dim i) (← b.dim i)) .incompatibleShape
        ("batch dimensions of the operands must be same, but got " ++
          s!"{a.render} and {b.render}")) (List.range (rank - 2))) := by
    apply Meets.checkAll
    intro i member
    have inside : (i : Int) < rank := by
      have less := List.mem_range.mp member
      omega
    apply Meets.bind_ok (Tensor.hasDim_of_rank left (Int.natCast_nonneg i) inside).dim_eq
    apply Meets.bind_ok (Tensor.hasDim_of_rank right (Int.natCast_nonneg i) inside).dim_eq
    exact Meets.ensure.weaken
  have shared : b.HasDim (if leftSide then (rank : Int) - 2 else (rank : Int) - 1) := by
    refine Tensor.hasDim_of_rank right ?_ ?_ <;> split <;> omega
  apply batches.andThen
  apply Meets.bind_ok shared.dim_eq
  apply Meets.bind_ok (Tensor.hasDim_of_rank left (by omega) (by omega)).dim_eq
  exact Meets.ensure.weaken

theorem TriangularSolve.verifySides_meets {a : Tensor} (leftSide : Bool) (b : Tensor)
    (matrix : ∀ rank, a.rank? = some rank → 2 ≤ rank) :
    Meets excused (fun _ => True) (verifySides leftSide a b) := by
  unfold verifySides
  split
  · rename_i rank other left right
    apply Meets.ensure_bind
    rintro rfl
    exact verifyDims_meets leftSide left right (matrix _ left)
  · trivial

theorem TriangularSolve.infer_meets {op : TriangularSolve} (a : op.a.WellFormed)
    (b : op.b.WellFormed) : Meets excused FormedAll op.infer := by
  apply (needTensor_meets a _).bind
  intro a _ _
  apply (needTensor_meets b _).bind
  intro b _ form
  apply Meets.ensure.andThen
  apply Meets.ensure.andThen
  apply (verifySquare_meets a _).bind
  intro _ _ matrix
  apply (verifySides_meets op.leftSide b matrix).andThen
  exact .single form.ty

/-! ### Batch normalization -/

/-- The attributes of a normalization are numbers of their sort. -/
structure NormAttributes.WellFormed (attributes : NormAttributes) : Prop where
  featureIndex : attributes.featureIndex.Integral
  epsilon : attributes.epsilon.Numeric

theorem verifyEpsilon_meets {epsilon : Payload} (number : epsilon.Numeric) :
    Meets excused (fun _ => True) (verifyEpsilon epsilon) := by
  apply (number.test _ _).bind
  intro bad _ _
  exact Meets.ensure.weaken

theorem verifyFeatureIndex_meets {operand : Tensor} {index : Payload} (form : operand.WellFormed)
    (number : index.Integral) :
    Meets excused Extent.WellFormed (verifyFeatureIndex operand index) := by
  apply Meets.ensure.andThen
  cases known : operand.rank? with
  | none =>
    apply (number.numeric.test _ _).bind
    intro negative _ _
    apply Meets.ensure.andThen
    exact Extent.wellFormed_none
  | some rank =>
    obtain ⟨n, value⟩ := number
    apply Meets.ensure.andThen
    apply (Payload.isWithin_meets value 0 rank).bind
    intro inRange _ inside
    apply Meets.ensure_bind
    intro within
    obtain ⟨nonneg, below⟩ := inside within
    exact form.dimAt value (Tensor.hasDim_of_rank known nonneg below)

theorem verifyFeature_meets {t : Tensor} {extent : Extent} (element : Ty) (name : String)
    (form : t.WellFormed) (known : extent.WellFormed) :
    Meets excused Extent.WellFormed (verifyFeature element extent name t) := by
  apply Meets.ensure.andThen
  apply Meets.ensure_bind
  intro vector
  apply (form.dim (Tensor.hasDim_of_not_hasOtherRank vector (Int.le_refl 0) (by decide))).bind
  intro own _ ownForm
  apply Meets.ensure.andThen
  exact ownForm.refine known

theorem needFeatures_meets {features : List (String × Ty)}
    (all : ∀ item ∈ features, item.2.WellFormed) :
    Meets excused (fun items => ∀ item ∈ items, item.2.WellFormed) (needFeatures features) := by
  apply Meets.collect
  intro item member
  apply (needTensor_meets (all item member) _).bind
  intro t _ form
  exact form

theorem verifyFeatures_meets {operand : Tensor} {index : Payload}
    {features : List (String × Tensor)} (form : operand.WellFormed) (number : index.Integral)
    (all : ∀ item ∈ features, item.2.WellFormed) :
    Meets excused Extent.WellFormed (verifyFeatures operand index features) := by
  apply (verifyFeatureIndex_meets form number).bind
  intro extent _ extentForm
  apply Meets.foldlM extentForm
  intro extent extentForm item member
  exact verifyFeature_meets operand.element item.1 (all item member) extentForm

/-- The statistics of each feature. -/
theorem formedAll_statistics {operand : Tensor} {extent : Extent} (form : operand.WellFormed)
    (extentForm : extent.WellFormed) :
    FormedAll [operand.ty, .tensor operand.element (.ranked [extent]),
      .tensor operand.element (.ranked [extent])] := by
  have statistic : (Ty.tensor operand.element (.ranked [extent])).WellFormed :=
    form.withShape (by simpa using extentForm)
  simp [FormedAll, form.ty, statistic]

theorem BatchNormTraining.infer_meets {op : BatchNormTraining} (operand : op.operand.WellFormed)
    (scale : op.scale.WellFormed) (offset : op.offset.WellFormed)
    (attributes : op.attributes.WellFormed) : Meets excused FormedAll op.infer := by
  apply (needTensor_meets operand _).bind
  intro operand _ form
  apply (needFeatures_meets (by simp [scale, offset])).bind
  intro features _ all
  apply (verifyEpsilon_meets attributes.epsilon).andThen
  apply (verifyFeatures_meets form attributes.featureIndex all).bind
  intro extent _ extentForm
  exact formedAll_statistics form extentForm

theorem BatchNormInference.infer_meets {op : BatchNormInference} (operand : op.operand.WellFormed)
    (scale : op.scale.WellFormed) (offset : op.offset.WellFormed) (mean : op.mean.WellFormed)
    (variance : op.variance.WellFormed) (attributes : op.attributes.WellFormed) :
    Meets excused FormedAll op.infer := by
  apply (needTensor_meets operand _).bind
  intro operand _ form
  apply (needFeatures_meets (by simp [scale, offset, mean, variance])).bind
  intro features _ all
  apply (verifyEpsilon_meets attributes.epsilon).andThen
  apply (verifyFeatures_meets form attributes.featureIndex all).bind
  intro extent _ _
  exact .single form.ty

theorem BatchNormGrad.infer_meets {op : BatchNormGrad} (operand : op.operand.WellFormed)
    (scale : op.scale.WellFormed) (mean : op.mean.WellFormed) (variance : op.variance.WellFormed)
    (gradOutput : op.gradOutput.WellFormed) (attributes : op.attributes.WellFormed) :
    Meets excused FormedAll op.infer := by
  apply (needTensor_meets operand _).bind
  intro operand _ operandForm
  apply (needTensor_meets gradOutput _).bind
  intro gradOutput _ gradForm
  apply (unifyTensorList_meets (by simp [operandForm, gradForm])).bind
  intro unified _ form
  apply (needFeatures_meets (by simp [scale, mean, variance])).bind
  intro features _ all
  apply (verifyEpsilon_meets attributes.epsilon).andThen
  apply (verifyFeatures_meets form attributes.featureIndex all).bind
  intro extent _ extentForm
  exact formedAll_statistics form extentForm

end Op

end TensorTyping
