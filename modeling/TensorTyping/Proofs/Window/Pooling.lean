import TensorTyping.Op.Pooling
import TensorTyping.Proofs.Reduction.Contract
import TensorTyping.Proofs.Window.Places

/-!
# Pooling and its counterpart

Pooling is a windowed reduction of one tensor with a body on scalars. Such a body meets the contract
of every reduction, so a pooling is accepted whenever its window is. Selecting and scattering
spreads a source over the places that the pooling had: it is accepted when the pooling of its
operand is, and the source may have the shape of the pooled tensor.
-/

namespace TensorTyping

open Check

/-! ### Bodies on scalars -/

/-- A body that combines two scalars to one. All three have the element type. -/
structure ScalarReducer (element : Ty) where
  accumulator : Ty
  operand : Ty
  result : Ty
  accumulator_same : accumulator.same element = true
  operand_same : operand.same element = true
  result_same : result.same element = true

/-- A predicate on two scalars of the element type. -/
structure ScalarSelector (element : Ty) where
  left : Ty
  right : Ty
  left_same : left.same element = true
  right_same : right.same element = true

/-- The signature of the body. -/
def ScalarReducer.region {element : Ty} (reducer : ScalarReducer element) : Region where
  arguments := [(Tensor.scalar reducer.accumulator).ty, (Tensor.scalar reducer.operand).ty]
  results := [(Tensor.scalar reducer.result).ty]

/-- The signature of the predicate. -/
def ScalarSelector.region {element : Ty} (selector : ScalarSelector element) : Region where
  arguments := [(Tensor.scalar selector.left).ty, (Tensor.scalar selector.right).ty]
  results := [(Tensor.scalar .i1).ty]

namespace ScalarReducer

variable {element : Ty} (reducer : ScalarReducer element)

theorem isElement_result (isElement : element.isElement = true) :
    reducer.result.isElement = true := by
  rw [Ty.isElement_of_same reducer.result_same, isElement]

/-- Types that are the same as one element type are compatible under every policy. -/
theorem compatible_result {t : Ty} (isElement : element.isElement = true)
    (same : t.same element = true) (relaxed : Bool) :
    Ty.compatibleElements relaxed reducer.result t = true := by
  rw [Ty.compatibleElements_congr reducer.result_same same, Ty.compatibleElements_self isElement]

/-- A scalar of the element type is compatible with the result. -/
theorem compatible_scalar {t : Ty} (isElement : element.isElement = true)
    (same : t.same element = true) (relaxed : Bool) :
    Ty.compatible relaxed (Tensor.scalar reducer.result).ty (Tensor.scalar t).ty = true := by
  simpa [Ty.compatible, Tensor.ty, Tensor.scalar, Shape.compatible, Shape.compatibleDims,
    Shape.scalar] using reducer.compatible_result isElement same relaxed

/-- An initial value of the element type may be unranked. -/
theorem compatible_init {init : Tensor} (isElement : element.isElement = true)
    (same : init.element.same element = true) (scalar : init.hasOtherRank 0 = false)
    (relaxed : Bool) :
    Ty.compatible relaxed (Tensor.scalar reducer.result).ty init.ty = true := by
  have shape : Shape.scalar.compatible init.shape = true := by
    obtain ⟨element, shape⟩ := init
    cases shape with
    | unranked => rfl
    | ranked dims =>
      cases dims with
      | nil => rfl
      | cons dim rest => simp [Tensor.hasOtherRank, Tensor.rank?, Shape.rank?] at scalar
  simpa [Ty.compatible, Tensor.ty, Tensor.scalar, shape] using
    reducer.compatible_result isElement same relaxed

/-- A body on scalars meets the contract of a reduction of one tensor, whatever extents its
    parameters might keep. -/
theorem verify_region (isElement : element.isElement = true) {input init : Tensor}
    (inputElement : input.element.same element = true)
    (initElement : init.element.same element = true) (initScalar : init.hasOtherRank 0 = false)
    (allowed : List Extent) (operation : String) :
    Reducer.verify (some reducer.region) (.ofTensors [input] [init] allowed operation) =
      .ok [Tensor.scalar reducer.result] := by
  have inputs (relaxed : Bool) :
      Ty.compatibleElements relaxed input.element reducer.operand = true := by
    rw [Ty.compatibleElements_congr inputElement reducer.operand_same,
      Ty.compatibleElements_self isElement]
  let position : Reducer.Position :=
    { result := Tensor.scalar reducer.result
      accumulator := (Tensor.scalar reducer.accumulator).ty
      operand := (Tensor.scalar reducer.operand).ty
      init := init.ty
      input := input.ty }
  have fits : position.Fits (.ofTensors [input] [init] allowed operation) := by
    refine ⟨reducer.compatible_scalar isElement reducer.accumulator_same false,
      reducer.compatible_scalar isElement reducer.operand_same _,
      reducer.compatible_init isElement initElement initScalar _, inputs _, .inr ?_⟩
    rintro _ _ ⟨⟩
    exact .nil
  refine (Reducer.verify_eq_ok rfl).mpr ⟨⟨⟨rfl, rfl⟩, rfl, rfl, fun i within => ?_⟩, rfl⟩
  obtain rfl : i = 0 := Nat.lt_one_iff.mp within
  exact ⟨position, ⟨rfl, rfl, rfl, rfl, rfl⟩, fits⟩

end ScalarReducer

theorem ScalarSelector.verifySelection_region {operand : Tensor}
    (selector : ScalarSelector operand.element) :
    Op.verifySelection selector.region operand = .ok () := by
  simp only [Op.verifySelection, Check.bind_eq_ok, Check.ensure_eq_ok]
  refine ⟨(), rfl, (), ?_, rfl⟩
  rw [Check.checkEach_eq_ok]
  intro i argument found
  rw [Check.ensure_eq_ok]
  have member := List.mem_of_getElem? found
  rcases List.mem_pair.mp member with rfl | rfl
  · exact Op.scalar_same selector.left_same
  · exact Op.scalar_same selector.right_same

namespace Op

/-! ### Pooling -/

/-- The pooling of one tensor with a body on scalars. -/
def pooling (input init : Ty) (sizes : Payload) (window : Window.RawAttributes) {element : Ty}
    (reducer : ScalarReducer element) : ReduceWindow :=
  { inputs := [input], inits := some [init], sizes, body := some reducer.region, window }

variable {operand init : Tensor} {dims : List Extent} {sizes : Payload}
  {window : Window.RawAttributes}

theorem needInits_singleton (operand init : Tensor) :
    needInits [operand.ty] (some [init.ty]) = .ok [init.ty] :=
  rfl

theorem collect_needTensor_singleton (t : Tensor) (what : String) :
    collect (Ty.needTensor · what) [t.ty] = .ok [t] :=
  rfl

theorem unifyInputs_singleton (t : Tensor) (what : String) : unifyInputs [t] what = .ok t :=
  rfl

theorem verifyScalarInits_singleton (initScalar : init.hasOtherRank 0 = false) :
    verifyScalarInits [init] = .ok () :=
  Check.checkAll_eq_ok.mpr (by simp [initScalar])

/-- A pooling is accepted when its payloads describe a window over its operand. -/
theorem pooling_infer_eq_ok (reducer : ScalarReducer operand.element)
    (isElement : operand.element.isElement = true) (ranked : operand.shape = .ranked dims)
    (initElement : init.element.same operand.element = true)
    (initScalar : init.hasOtherRank 0 = false) {types : List Ty} :
    (pooling operand.ty init.ty sizes window reducer).infer = .ok types ↔
      ∃ slider, Window.Describes sizes window dims.length slider ∧
        types = [.tensor reducer.result (.ranked (List.zipWith Window.places dims slider))] := by
  have rank (count : Nat) : (!operand.hasOtherRank count) = true ↔ count = dims.length := by
    simp only [Tensor.hasOtherRank, Tensor.rank?, ranked, Shape.rank?, Bool.not_eq_true',
      bne_eq_false_iff_eq]
    exact eq_comm
  have body (allowed : List Extent) := reducer.verify_region isElement (Ty.same_refl _) initElement
    initScalar allowed "reduce_window"
  simp only [pooling, ReduceWindow.infer, needInits_singleton, collect_needTensor_singleton,
    unifyInputs_singleton, body, verifyScalarInits_singleton initScalar, Check.ok_bind,
    Check.bind_eq_ok, Check.ensure_eq_ok, rank, ranked, Shape.dims?, Option.getD_some]
  constructor
  · rintro ⟨sizes, decoded, -, length, slider, slid, windowed, output, formed⟩
    obtain ⟨fits, rfl⟩ := (Window.outputDims_eq_ok (Window.stride_of_decode slid)).mp output
    obtain ⟨t, _, made, ⟨⟩, rfl⟩ := List.forall₂_cons_left_iff.mp (Check.collect_eq_ok.mp formed)
    obtain ⟨_, success, rfl⟩ := Check.map_eq_ok.mp made
    obtain ⟨-, -, rfl⟩ := Tensor.form_eq_ok.mp success
    rw [length] at slid
    exact ⟨slider, ⟨sizes, decoded, length, slid, fits⟩, rfl⟩
  · rintro ⟨slider, described, rfl⟩
    have positive := described.stride
    obtain ⟨sizes, decoded, length, slid, fits⟩ := described
    have formed : Tensor.form reducer.result (.ranked (List.zipWith Window.places dims slider)) =
        .ok ⟨reducer.result, .ranked (List.zipWith Window.places dims slider)⟩ :=
      Tensor.form_eq_ok.mpr ⟨reducer.isElement_result isElement,
        Window.places_wellFormed dims positive, rfl⟩
    refine ⟨sizes, decoded, (), length, slider, by rw [length, slid], _,
      (Window.outputDims_eq_ok positive).mpr ⟨fits, rfl⟩, ?_⟩
    exact Check.collect_eq_ok.mpr (.cons (Check.map_eq_ok.mpr ⟨_, formed, rfl⟩) .nil)

/-! ### Selecting and scattering -/

namespace SelectAndScatter

variable {op : SelectAndScatter} {source : Tensor}

/-- The sizes of the window, which are all one when none are given. -/
def windowSizes (op : SelectAndScatter) (rank : Nat) : Payload :=
  if op.sizes.isAbsent then .ofInts (List.replicate rank 1) else op.sizes

/-- Sizes that are filled in and sizes that are counted are the same sizes. -/
theorem decode_windowSizes {rank : Nat} {values : List Int} :
    (if op.sizes.isAbsent then Payload.null else op.sizes).decodeIntsOr "window_dimensions" rank 1 =
        .ok values ↔
      (op.windowSizes rank).decodeInts "window_dimensions" = .ok values ∧
        values.length = rank := by
  have ones : (Payload.ofInts (List.replicate rank 1)).decodeInts "window_dimensions" =
      .ok (List.replicate rank 1) := by
    apply Payload.decodeInts_of_fits
    intro n member
    rw [List.eq_of_mem_replicate member]
    rfl
  rw [Payload.decodeIntsOr_eq_ok, windowSizes]
  by_cases absent : op.sizes.isAbsent = true
  · simp only [absent, if_true, true_and, ne_eq, not_true_eq_false, false_and, or_false, ones,
      Except.ok.injEq]
    constructor
    · rintro rfl
      exact ⟨rfl, List.length_replicate⟩
    · rintro ⟨rfl, -⟩
      rfl
  · have present : op.sizes ≠ .null := by
      intro null
      rw [null] at absent
      exact absent rfl
    simp only [absent, if_false, Bool.false_eq_true, present, false_and, false_or, ne_eq,
      not_false_eq_true, true_and]

theorem verifySource_eq_ok {shape : Shape} {u : Unit} :
    op.verifySource dims shape = .ok u ↔
      ∃ slider, Window.Describes (op.windowSizes dims.length)
          { strides := op.strides, padding := op.padding } dims.length slider ∧
        shape.compatible (.ranked (List.zipWith Window.places dims slider)) = true := by
  simp only [verifySource, Check.bind_eq_ok, decode_windowSizes, Check.ensure_eq_ok]
  constructor
  · rintro ⟨values, ⟨decoded, length⟩, slider, slid, windowed, output, agree⟩
    obtain ⟨fits, rfl⟩ := (Window.outputDims_eq_ok (Window.stride_of_decode slid)).mp output
    exact ⟨slider, ⟨values, decoded, length, slid, fits⟩, agree⟩
  · rintro ⟨slider, described, agree⟩
    have positive := described.stride
    obtain ⟨values, decoded, length, slid, fits⟩ := described
    exact ⟨values, ⟨decoded, length⟩, slider, slid, _,
      (Window.outputDims_eq_ok positive).mpr ⟨fits, rfl⟩, agree⟩

/-- Selecting and scattering matches the pooling that it undoes. When source, initial value,
    selection and scatter are over the elements of a ranked operand, it is accepted, and keeps the
    type of the operand, just when the pooling of the operand by the same window is accepted and
    the source may have the shape of the pooled tensor. -/
theorem infer_eq_ok_iff_pooling (operandType : op.operand = operand.ty)
    (ranked : operand.shape = .ranked dims) (isElement : operand.element.isElement = true)
    (sourceType : op.source = source.ty)
    (sourceElement : source.element.same operand.element = true) (initType : op.init = init.ty)
    (initElement : init.element.same operand.element = true)
    (initScalar : init.hasOtherRank 0 = false) (selector : ScalarSelector operand.element)
    (selects : op.select = some selector.region) (reducer : ScalarReducer operand.element)
    (scatters : op.scatter = some reducer.region) {types : List Ty} :
    op.infer = .ok types ↔ types = [op.operand] ∧ ∃ pooled : Tensor,
      (pooling op.operand op.init (op.windowSizes dims.length)
          { strides := op.strides, padding := op.padding } reducer).infer = .ok [pooled.ty] ∧
        pooled.shape.compatible source.shape = true := by
  have body := reducer.verify_region isElement sourceElement initElement initScalar []
    "select_and_scatter"
  -- With a selection and a scatter on scalars, all that is left to check is the source.
  have left : op.infer = (do
      op.verifySource dims source.shape
      return [op.operand]) := by
    simp only [infer, operandType, sourceType, initType, Tensor.needTensor_ty, Check.ok_bind,
      initScalar, Bool.not_false, ensure, if_true, selects, needPart,
      selector.verifySelection_region, scatters, body, sourceElement, ranked]
  rw [left]
  simp only [Check.bind_eq_ok, Check.pure_eq, Except.ok.injEq, verifySource_eq_ok, operandType,
    initType, pooling_infer_eq_ok reducer isElement ranked initElement initScalar]
  constructor
  · rintro ⟨-, ⟨slider, described, agree⟩, rfl⟩
    refine ⟨rfl, ⟨reducer.result, .ranked (List.zipWith Window.places dims slider)⟩,
      ⟨slider, described, rfl⟩, ?_⟩
    rwa [Shape.compatible_comm]
  · rintro ⟨rfl, pooled, ⟨slider, described, pooledType⟩, agree⟩
    obtain rfl : pooled = ⟨reducer.result, .ranked (List.zipWith Window.places dims slider)⟩ :=
      Tensor.ty_injective (List.cons.inj pooledType).1
    rw [Shape.compatible_comm] at agree
    exact ⟨(), ⟨slider, described, agree⟩, rfl⟩

/-- Windows of two rows over eight, padded at the low end, move in steps of two, so they have four
    places. A source of four rows is accepted whatever its columns, and one of five rows is not. -/
theorem infer_eq_ok_iff_pooling_strided :
    let element : Ty := .float .f32
    let reducer : ScalarReducer element := ⟨element, element, element, rfl, rfl, rfl⟩
    let selector : ScalarSelector element := ⟨element, element, rfl, rfl⟩
    let op (source : List Extent) : SelectAndScatter :=
      { operand := .tensor element (.ranked [some 8, none])
        source := .tensor element (.ranked source)
        init := .tensor element .unranked
        select := some selector.region, scatter := some reducer.region
        sizes := .ofInts [2, 1], strides := .ofInts [2, 1]
        padding := .list [.ofInts [1, 0], .ofInts [0, 0]] }
    (op [some 4, some 5]).infer = .ok [.tensor element (.ranked [some 8, none])] ∧
      ∀ types, (op [some 5, some 5]).infer ≠ .ok types := by
  intro element reducer selector op
  have pooled : (pooling (op []).operand (op []).init (.ofInts [2, 1])
      { strides := (op []).strides, padding := (op []).padding } reducer).infer =
        .ok [.tensor element (.ranked [some 4, none])] := rfl
  have accepted (source : List Extent) (types : List Ty) :=
    @infer_eq_ok_iff_pooling ⟨element, .ranked [some 8, none]⟩ (.unranked element)
      [some 8, none] (op source) ⟨element, .ranked source⟩ rfl rfl rfl rfl rfl rfl rfl rfl selector
      rfl reducer rfl types
  constructor
  · exact (accepted _ _).mpr ⟨rfl, ⟨element, .ranked [some 4, none]⟩, pooled, rfl⟩
  · intro types success
    obtain ⟨-, t, found, agree⟩ := (accepted _ _).mp success
    obtain rfl : t = ⟨element, .ranked [some 4, none]⟩ :=
      Tensor.ty_injective (List.cons.inj (Except.ok.inj (found.symm.trans pooled))).1
    cases agree

end SelectAndScatter

end Op

end TensorTyping
