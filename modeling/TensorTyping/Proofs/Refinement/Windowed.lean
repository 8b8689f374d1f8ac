import TensorTyping.Op.Convolution
import TensorTyping.Op.Pooling
import TensorTyping.Proofs.Refinement.Reduction
import TensorTyping.Proofs.Window.Sizes

/-!
# Refinement of convolutions and windowed reductions

The output extent of a window along a dimension is unknown where the base or the window is, so it
is refined with them. The window of a convolution has the extents of its kernel, of which some may
be unknown; the window of a reduction is given by attributes.
-/

namespace TensorTyping

open Check (Carries)

/-! ### Windows -/

/-- The first size is that of the second, unless that is unknown. -/
inductive WindowSize.Refines : WindowSize → WindowSize → Prop
  | unknown (fine : WindowSize) : Refines fine .unknown
  | refl (size : WindowSize) : Refines size size

/-- Windows along one dimension that differ at most in what is known of their size. -/
structure WindowDim.Refines (fine coarse : WindowDim) : Prop where
  size : fine.size.Refines coarse.size
  others : { fine with size := coarse.size } = coarse

theorem WindowDim.refinesAll_refl (window : List WindowDim) :
    List.Forall₂ WindowDim.Refines window window :=
  List.forall₂_same.mpr fun _ _ => ⟨.refl _, rfl⟩

namespace Window

theorem strided_none (bound : Extent) (stride : Int) : strided bound none stride = .ok none := by
  cases bound <;> rfl

/-- The output is known only where the base and the window are. -/
theorem outputExtent_carries {base' base : Extent} {dim' dim : WindowDim}
    (hbase : base'.Refines base) (hdim : dim'.Refines dim) :
    Carries Extent.Refines (outputExtent base' dim') (outputExtent base dim) := by
  obtain ⟨size, others⟩ := hdim
  rw [← others]
  rcases Extent.refines_iff.mp hbase with rfl | rfl
  · exact .to_ok fun _ _ => .unknown _
  generalize dim.size = coarse at size
  cases base' with
  | none => exact .to_ok fun _ _ => .unknown _
  | some b =>
    cases size with
    | refl => exact (Carries.same _).mono fun _ _ h => h.1 ▸ .refl _
    | unknown =>
      unfold outputExtent
      simp only [WindowSize.extent, dilated, Option.map_none, strided_none]
      exact .to_ok fun _ _ => .unknown _

theorem outputDims_carries {base' base : List Extent} {window' window : List WindowDim}
    (hbase : RefinesDims base' base) (hwindow : List.Forall₂ WindowDim.Refines window' window) :
    Carries RefinesDims (outputDims base' window') (outputDims base window) := by
  refine (Carries.ensure ?_).bind ?_
  · rw [hbase.length_eq, hwindow.length_eq]
    exact id
  intro _ _ _
  refine .collect (Check.forall₂_zip_zip hbase hwindow) ?_
  rintro ⟨dim', shape'⟩ ⟨dim, shape⟩ ⟨hdim, hshape⟩
  exact outputExtent_carries hdim hshape

theorem isBelowOne_carries {size' size : WindowSize} (h : size'.Refines size) :
    Carries (fun small' small => (!small') = true → (!small) = true) size'.isBelowOne
      size.isBelowOne := by
  cases h with
  | unknown => exact .to_ok fun _ _ _ => rfl
  | refl => exact (Carries.same _).mono fun _ _ h => h.1 ▸ id

theorem buildDim_carries (attributes : Attributes) (i : Nat) {size' size : WindowSize}
    (h : size'.Refines size) :
    Carries WindowDim.Refines (buildDim attributes i size') (buildDim attributes i size) := by
  refine (isBelowOne_carries h).bind ?_
  intro small' small hsmall
  refine (Carries.ensure hsmall).bind ?_
  intro _ _ _
  apply Carries.bind_same
  intro stride _
  apply Carries.bind_same
  intro _ _
  apply Carries.bind_same
  intro baseDilation _
  apply Carries.bind_same
  intro _ _
  apply Carries.bind_same
  intro windowDilation _
  apply Carries.bind_same
  intro _ _
  apply Carries.bind_same
  intro padding _
  apply Carries.bind_same
  intro reversed _
  split
  · exact .pure ⟨h, rfl⟩
  · exact .of_misuse _

theorem build_carries {sizes' sizes : List WindowSize} (attributes : Attributes)
    (h : List.Forall₂ WindowSize.Refines sizes' sizes) :
    Carries (List.Forall₂ WindowDim.Refines) (build sizes' attributes)
      (build sizes attributes) := by
  unfold build
  rw [h.length_eq]
  apply Carries.bind_same
  intro _ _
  apply Carries.bind_same
  intro _ _
  apply Carries.bind_same
  intro _ _
  apply Carries.bind_same
  intro _ _
  apply Carries.bind_same
  intro _ _
  refine .collect (Check.forall₂_zipIdx h 0) ?_
  rintro ⟨size', i⟩ ⟨size, _⟩ ⟨hsize, rfl⟩
  exact buildDim_carries attributes i hsize

theorem map_ofPayload_ofExtent (dims : List Extent) :
    (dims.map Payload.ofExtent).map WindowSize.ofPayload = dims.map WindowSize.ofExtent := by
  rw [List.map_map]
  refine List.map_congr_left ?_
  intro dim _
  cases dim <;> rfl

/-- Extents of which one is unknown are taken over as they are. -/
theorem decodeSizes_of_unknown {dims : List Extent} (unknown : none ∈ dims) :
    decodeSizes (.ofExtents dims) = .ok (dims.map WindowSize.ofExtent) := by
  have null : .null ∈ dims.map Payload.ofExtent := List.mem_map.mpr ⟨none, unknown, rfl⟩
  rw [Payload.ofExtents, decodeSizes_of_null null, map_ofPayload_ofExtent]

/-- Extents that can be decoded as sizes are taken over as they are, known or not. -/
theorem decodeSizes_ofExtents {dims : List Extent} {sizes : List WindowSize}
    (decoded : decodeSizes (.ofExtents dims) = .ok sizes) :
    sizes = dims.map WindowSize.ofExtent := by
  by_cases unknown : none ∈ dims
  · rw [decodeSizes_of_unknown unknown] at decoded
    cases decoded
    rfl
  · obtain ⟨values, rfl⟩ := Extent.exists_map_some unknown
    have ints : Payload.ofExtents (values.map some) = .ofInts values := by
      rw [Payload.ofExtents, List.map_map]
      rfl
    rw [ints, decodeSizes_of_not_null (null_notMem_ofInts values)] at decoded
    obtain ⟨values', success, rfl⟩ := Check.map_eq_ok.mp decoded
    rw [Payload.decodeInts_ofInts success, List.map_map]
    rfl

/-- Whether all sizes are known or not, the sizes of the window are the extents. -/
theorem decodeSizes_carries {dims' dims : List Extent} (h : RefinesDims dims' dims) :
    Carries (List.Forall₂ WindowSize.Refines) (decodeSizes (.ofExtents dims'))
      (decodeSizes (.ofExtents dims)) := by
  by_cases unknown : none ∈ dims
  · rw [decodeSizes_of_unknown unknown]
    refine .to_ok ?_
    intro sizes' success
    rw [decodeSizes_ofExtents success]
    refine List.forall₂_map_left_iff.mpr (List.forall₂_map_right_iff.mpr (h.imp ?_))
    rintro dim' dim (_ | _)
    · exact .unknown _
    · exact .refl _
  · rw [h.eq_of_known unknown]
    refine (Carries.same _).mono ?_
    rintro sizes _ ⟨rfl, -⟩
    exact List.forall₂_same.mpr fun size _ => .refl size

theorem decode_carries {dims' dims : List Extent} (count : Payload) (raw : RawAttributes)
    (h : RefinesDims dims' dims) :
    Carries (List.Forall₂ WindowDim.Refines) (decode (.ofExtents dims') count raw)
      (decode (.ofExtents dims) count raw) := by
  refine (decodeSizes_carries h).bind ?_
  intro sizes' sizes hsizes
  refine (Carries.ensure ?_).bind ?_
  · rw [hsizes.length_eq]
    exact id
  intro _ _ _
  apply Carries.bind_same
  intro attributes _
  exact build_carries attributes hsizes

end Window

namespace Op

/-! ### Convolutions -/

namespace Convolution

variable {op' op : Convolution}

/-- An extent that divides into groups does so when it is unknown. -/
theorem isMultiple_carries {dim' dim : Extent} (h : dim'.Refines dim) (groups : Payload) :
    Carries (fun multiple' multiple => multiple' = true → multiple = true)
      (isMultiple dim' groups) (isMultiple dim groups) := by
  cases h with
  | unknown => exact .to_ok fun _ _ _ => rfl
  | refl => exact (Carries.same _).mono fun _ _ h => h.1 ▸ id

theorem groupMatches_carries {features' features kernel' kernel : Extent}
    (hfeatures : features'.Refines features) (hkernel : kernel'.Refines kernel)
    (groups : Payload) :
    Carries (fun agree' agree => agree' = true → agree = true)
      (groupMatches features' kernel' groups) (groupMatches features kernel groups) := by
  have unknown : ∀ dim : Extent, groupMatches dim none groups = .ok true := by
    intro dim
    cases dim <;> rfl
  cases hfeatures with
  | unknown => exact .to_ok fun _ _ _ => rfl
  | refl =>
    cases hkernel with
    | unknown =>
      rw [unknown]
      exact .to_ok fun _ _ _ => rfl
    | refl => exact (Carries.same _).mono fun _ _ h => h.1 ▸ id

theorem groupExtent_carries {dim' dim : Extent} (h : dim'.Refines dim) (groups : Payload) :
    Carries Extent.Refines (groupExtent dim' groups) (groupExtent dim groups) := by
  cases h with
  | unknown => exact .to_ok fun _ _ => .unknown _
  | refl => exact (Carries.same _).mono fun _ _ h => h.1 ▸ .refl _

theorem verifyFeatures_carries (hfeatureGroups : op'.featureGroups = op.featureGroups)
    (hbatchGroups : op'.batchGroups = op.batchGroups)
    {batch' batch features' features kernel' kernel output' output : Extent}
    (hbatch : batch'.Refines batch) (hfeatures : features'.Refines features)
    (hkernel : kernel'.Refines kernel) (houtput : output'.Refines output) :
    Carries (fun _ _ => True) (op'.verifyFeatures batch' features' kernel' output')
      (op.verifyFeatures batch features kernel output) := by
  unfold verifyFeatures
  rw [hfeatureGroups, hbatchGroups]
  refine (isMultiple_carries hfeatures _).bind ?_
  intro _ _ keeps
  refine (Carries.ensure keeps).bind ?_
  intro _ _ _
  refine (groupMatches_carries hfeatures hkernel _).bind ?_
  intro _ _ keeps
  refine (Carries.ensure keeps).bind ?_
  intro _ _ _
  refine (isMultiple_carries hbatch _).bind ?_
  intro _ _ keeps
  refine (Carries.ensure keeps).bind ?_
  intro _ _ _
  refine (isMultiple_carries houtput _).bind ?_
  intro _ _ keeps
  refine (Carries.ensure keeps).bind ?_
  intro _ _ _
  refine (isMultiple_carries houtput _).bind ?_
  intro _ _ keeps
  exact (Carries.ensure keeps).mono fun _ _ _ => trivial

theorem placeDims_carries (rank : Nat) (batchDim featureDim : Int) (spatialDims : List Int)
    {batch' batch features' features : Extent} {spatial' spatial : List Extent}
    (hbatch : batch'.Refines batch) (hfeatures : features'.Refines features)
    (hspatial : RefinesDims spatial' spatial) :
    Carries RefinesDims (placeDims rank batchDim featureDim spatialDims batch' features' spatial')
      (placeDims rank batchDim featureDim spatialDims batch features spatial) := by
  refine .setItems (RefinesDims.refl _) (.cons ⟨rfl, hbatch⟩ (.cons ⟨rfl, hfeatures⟩ ?_))
  induction hspatial generalizing spatialDims with
  | nil =>
    rw [List.zip_nil_right]
    exact .nil
  | cons first _ ih =>
    cases spatialDims with
    | nil => exact .nil
    | cons d spatialDims => exact .cons ⟨rfl, first⟩ (ih spatialDims)

theorem inferRanked_carries {t' t r' r : Tensor} {rank : Nat} (ht : t'.Refines t)
    (hr : r'.Refines r) (hdimensions : op'.dimensions = op.dimensions)
    (hwindow : op'.window = op.window) (hfeatureGroups : op'.featureGroups = op.featureGroups)
    (hbatchGroups : op'.batchGroups = op.batchGroups) :
    Carries Tensor.Refines (op'.inferRanked t' r' rank) (op.inferRanked t r rank) := by
  unfold inferRanked
  rw [hdimensions, hwindow, hbatchGroups]
  apply Carries.bind_same
  intro dims _
  apply Carries.bind_same
  intro _ _
  refine (ht.dimAt _).bind ?_
  intro batch' batch hbatch
  refine (ht.dimAt _).bind ?_
  intro features' features hfeatures
  refine (hr.dimAt _).bind ?_
  intro kernel' kernel hkernel
  refine (hr.dimAt _).bind ?_
  intro output' output houtput
  refine (verifyFeatures_carries hfeatureGroups hbatchGroups hbatch hfeatures hkernel
    houtput).bind ?_
  intro _ _ _
  refine (Carries.collect_same fun d _ => hr.dim d).bind ?_
  intro sizes' sizes hsizes
  refine (Window.decode_carries _ _ hsizes).bind ?_
  intro window' window hwindow
  refine (Carries.collect_same fun d _ => ht.dim d).bind ?_
  intro bases' bases hbases
  refine (Window.outputDims_carries hbases hwindow).bind ?_
  intro spatial' spatial hspatial
  apply Carries.bind_same
  intro batchDim _
  apply Carries.bind_same
  intro featureDim _
  refine (groupExtent_carries hbatch _).bind ?_
  intro group' group hgroup
  refine (placeDims_carries _ _ _ _ hgroup houtput hspatial).bind ?_
  intro shape' shape hshape
  exact Tensor.form_carries ht.element (.ranked hshape)

theorem inferTensor_carries_unranked {t' t : Tensor} (ht : t'.Refines t) (r : Tensor) :
    Carries Tensor.Refines (op.inferTensor t' r) (.ok (.unranked t.element)) := by
  unfold inferTensor
  split
  · unfold inferRanked
    -- The steps before the last one say whether there is a result, and nothing of its element.
    repeat
      refine .bind_left ?_
      intro _ _
    exact Tensor.form_carries_unranked _ ht.element
  · exact .pure ⟨ht.element, .unranked _⟩

theorem inferTensor_carries {t' t r' r : Tensor} (ht : t'.Refines t) (hr : r'.Refines r)
    (hdimensions : op'.dimensions = op.dimensions) (hwindow : op'.window = op.window)
    (hfeatureGroups : op'.featureGroups = op.featureGroups)
    (hbatchGroups : op'.batchGroups = op.batchGroups) :
    Carries Tensor.Refines (op'.inferTensor t' r') (op.inferTensor t r) := by
  have unranked : Carries Tensor.Refines (op'.inferTensor t' r') (.ok (.unranked t.element)) :=
    inferTensor_carries_unranked ht r'
  rcases ht.rank?_eq_or with unknown | equal
  · unfold inferTensor at unranked ⊢
    rw [unknown]
    exact unranked
  rcases hr.rank?_eq_or with unknown | equal'
  · unfold inferTensor at unranked ⊢
    rw [unknown]
    cases t.rank? <;> exact unranked
  unfold inferTensor at unranked ⊢
  rw [equal, equal']
  cases t'.rank? with
  | none => exact .pure ⟨ht.element, .unranked _⟩
  | some rank =>
    cases r'.rank? with
    | none => exact .pure ⟨ht.element, .unranked _⟩
    | some kernelRank =>
      refine (Carries.ensure id).bind ?_
      intro _ _ _
      refine (Carries.ensure id).bind ?_
      intro _ _ _
      exact inferRanked_carries ht hr hdimensions hwindow hfeatureGroups hbatchGroups

theorem infer_carries {lhs' lhs rhs' rhs : Ty} {result' result : Option Ty}
    (dimensions : Option ConvolutionDims) (window : Window.RawAttributes)
    (featureGroups batchGroups precision : Payload) (hl : lhs'.Refines lhs)
    (hr : rhs'.Refines rhs) (hresult : Option.Rel Ty.Refines result' result) :
    Carries Ty.RefinesAll
      (infer ⟨lhs', rhs', dimensions, window, featureGroups, batchGroups, precision, result'⟩)
      (infer ⟨lhs, rhs, dimensions, window, featureGroups, batchGroups, precision, result⟩) := by
  refine (hl.needTensor _ _).bind ?_
  intro t' t ht
  refine (hr.needTensor _ _).bind ?_
  intro r' r hr
  apply Carries.bind_same
  intro _ _
  apply Carries.bind_same
  intro _ _
  refine (inferTensor_carries ht hr rfl rfl rfl rfl).bind ?_
  intro inferred' inferred hinferred
  exact Ty.settled_carries hinferred.ty hresult

end Convolution

/-! ### Windowed reductions -/

/-- Inputs without a rank are taken to have one dimension for each size of the window. -/
theorem paddedDims_refines {base' base : Tensor} {count : Nat} (h : base'.Refines base)
    (rank : (!base'.hasOtherRank count) = true) :
    RefinesDims (base'.shape.dims?.getD (List.replicate count none))
      (base.shape.dims?.getD (List.replicate count none)) := by
  obtain ⟨element', shape'⟩ := base'
  obtain ⟨element, shape⟩ := base
  cases h.shape with
  | ranked dims => exact dims
  | unranked =>
    cases shape' with
    | unranked => exact RefinesDims.refl _
    | ranked dims =>
      have length : dims.length = count := by
        simpa [Tensor.hasOtherRank, Tensor.rank?, Shape.rank?] using rank
      rw [← length]
      exact RefinesDims.of_unknown dims

theorem ReduceWindow.infer_carries {inputs' inputs : List Ty} {inits' inits : Option (List Ty)}
    (sizes : Payload) (body : Option Region) (window : Window.RawAttributes)
    (hinputs : Ty.RefinesAll inputs' inputs) (hinits : Option.Rel Ty.RefinesAll inits' inits) :
    Carries Ty.RefinesAll (infer ⟨inputs', inits', sizes, body, window⟩)
      (infer ⟨inputs, inits, sizes, body, window⟩) := by
  refine (needInits_carries hinputs hinits).bind ?_
  intro given' given hgiven
  refine (needTensors_carries _ hinputs).bind ?_
  intro tensors' tensors htensors
  refine (needTensors_carries _ hgiven).bind ?_
  intro starts' starts hstarts
  refine (unifyInputs_carries _ htensors).bind ?_
  intro base' base hbase
  refine (verifyScalarInits_carries hstarts).bind ?_
  intro _ _ _
  apply Carries.bind_same
  intro sizes _
  refine (Carries.ensure hbase.hasOtherRank).bind ?_
  intro _ _ rank
  apply Carries.bind_same
  intro window _
  have context := Reducer.Context.ofTensors_refines htensors hstarts "reduce_window"
    (Or.inr (RefinesDims.refl (sizes.map some)))
  refine (Reducer.verify_carries body context).bind ?_
  rintro accumulators _ rfl
  have bases := paddedDims_refines hbase rank
  refine (Window.outputDims_carries bases (WindowDim.refinesAll_refl window)).bind ?_
  intro dims' dims hdims
  refine .collect_same ?_
  intro t _
  refine (Tensor.form_carries (Ty.same_refl t.element) (.ranked hdims)).map ?_
  intro _ _ formed
  exact formed.ty

theorem verifySelection_carries {t' t : Tensor} (select : Region) (ht : t'.Refines t) :
    Carries (fun _ _ => True) (verifySelection select t') (verifySelection select t) := by
  apply Carries.bind_same
  intro _ _
  refine (Carries.checkEach (List.forall₂_same.mpr fun _ _ => rfl) ?_).bind ?_
  · rintro i argument _ rfl
    exact (Carries.ensure (sameScalar_of_refines ht)).mono fun _ _ _ => trivial
  intro _ _ _
  exact (Carries.same _).mono fun _ _ _ => trivial

namespace SelectAndScatter

variable {op' op : SelectAndScatter}

theorem verifySource_carries {dims' dims : List Extent} {source' source : Shape}
    (hdims : RefinesDims dims' dims) (hsource : source'.Refines source)
    (hsizes : op'.sizes = op.sizes) (hstrides : op'.strides = op.strides)
    (hpadding : op'.padding = op.padding) :
    Carries (fun _ _ => True) (op'.verifySource dims' source') (op.verifySource dims source) := by
  unfold verifySource
  rw [hsizes, hstrides, hpadding, hdims.length_eq]
  apply Carries.bind_same
  intro sizes _
  apply Carries.bind_same
  intro window _
  refine (Window.outputDims_carries hdims (WindowDim.refinesAll_refl window)).bind ?_
  intro windowed' windowed hwindowed
  exact (Carries.ensure (hsource.compatible (.ranked hwindowed))).mono fun _ _ _ => trivial

theorem infer_carries {operand' operand source' source init' init : Ty}
    (select scatter : Option Region) (sizes strides padding : Payload)
    (h : operand'.Refines operand) (hsource : source'.Refines source)
    (hinit : init'.Refines init) :
    Carries Ty.RefinesAll
      (infer ⟨operand', source', init', select, scatter, sizes, strides, padding⟩)
      (infer ⟨operand, source, init, select, scatter, sizes, strides, padding⟩) := by
  refine (h.needTensor _ _).bind ?_
  intro t' t ht
  refine (hsource.needTensor _ _).bind ?_
  intro s' s hs
  refine (hinit.needTensor _ _).bind ?_
  intro i' i hi
  refine (Carries.ensure hi.hasOtherRank).bind ?_
  intro _ _ _
  apply Carries.bind_same
  intro select _
  refine (verifySelection_carries select ht).bind ?_
  intro _ _ _
  have context := Reducer.Context.ofTensors_refines (.cons hs .nil) (.cons hi .nil)
    "select_and_scatter" (Or.inr (RefinesDims.refl []))
  refine (Reducer.verify_carries scatter context).bind ?_
  intro _ _ _
  refine (Carries.ensure ?_).bind ?_
  · rw [Ty.same_congr hs.element ht.element]
    exact id
  intro _ _ _
  obtain ⟨element', shape'⟩ := t'
  obtain ⟨element, shape⟩ := t
  obtain ⟨elements, shapes⟩ := ht
  cases shapes with
  | ranked dims =>
    refine (verifySource_carries dims hs.shape rfl rfl rfl).bind ?_
    intro _ _ _
    exact .pure (.cons (.tensor elements (.ranked dims)) .nil)
  | unranked =>
    cases shape' with
    | unranked => exact .pure (.cons (.tensor elements (.unranked _)) .nil)
    | ranked dims =>
      refine .bind_left fun _ _ => ?_
      exact .pure (.cons (.tensor elements (.unranked _)) .nil)

end SelectAndScatter

end Op

end TensorTyping
