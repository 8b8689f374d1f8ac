import TensorTyping.Op.Normalization
import TensorTyping.Proofs.Totality.Payload
import TensorTyping.Proofs.Ty.Unification

/-!
# The three operations of batch normalization fit together

The per-feature operands of a batch normalization are taken up one after the other, and each may add
to what is known of the number of features. The number that comes out in the end is the common value
of all known extents, in whatever order they were met. So the statistics that training gives can be
handed to inference and to the gradient, and they add nothing new there.
-/

namespace TensorTyping

/-- A shape refined by itself says nothing more. -/
@[simp] theorem Shape.refine_self (s : Shape) : s.refine s = s :=
  (refine_refines_left (compatible_self s)).antisymm ((Refines.refl s).refine_least (.refl s))

namespace Op

/-- What the operand says about the number of its features: the extent of its feature dimension,
    when it has a rank. -/
def HasFeatures (operand : Tensor) (index : Payload) (extent : Extent) : Prop :=
  match operand.shape with
  | .unranked => extent = none
  | .ranked dims => ∃ i : Nat, index.isInt i = true ∧ dims[i]? = some extent

/-- A tensor that can hold one value for each feature: a vector, as far as its rank is known. -/
structure PerFeature (element : Ty) (t : Tensor) : Prop where
  element : t.element.same element = true
  rank : t.hasOtherRank 1 = false

section Features

variable {operand : Tensor} {index : Payload} {element : Ty} {extent result : Extent}

theorem isFloat_of_verifyFeatureIndex (success : verifyFeatureIndex operand index = .ok extent) :
    operand.element.isFloat = true := by
  obtain ⟨_, isFloat, -⟩ := Check.bind_eq_ok.mp success
  exact Check.ensure_eq_ok.mp isFloat

theorem hasFeatures_of_verifyFeatureIndex
    (success : verifyFeatureIndex operand index = .ok extent) :
    HasFeatures operand index extent := by
  obtain ⟨element, shape⟩ := operand
  simp only [verifyFeatureIndex, Check.bind_eq_ok, Check.ensure_eq_ok] at success
  obtain ⟨_, -, success⟩ := success
  cases shape with
  | unranked =>
    obtain ⟨_, -, success⟩ := Check.bind_eq_ok.mp success
    obtain ⟨_, -, success⟩ := Check.bind_eq_ok.mp success
    cases success
    rfl
  | ranked dims =>
    simp only [Tensor.rank?, Shape.rank?, Tensor.dimAt, Check.bind_eq_ok, Check.ensure_eq_ok]
      at success
    obtain ⟨_, -, _, within, _, rfl, i, value, found⟩ := success
    rw [Payload.isWithin, Payload.test_of_needInt value, Except.ok.injEq, Bool.and_eq_true,
      decide_eq_true_eq, decide_eq_true_eq] at within
    refine ⟨i.toNat, ?_, (itemAt_eq_ok_of_nonneg within.1).mp found⟩
    rw [Payload.isInt_of_needInt value, decide_eq_true_eq]
    exact Int.toNat_of_nonneg within.1

/-- One per-feature operand agrees with the number of features known so far, and may add to it. -/
theorem verifyFeature_eq_ok {name : String} {t : Tensor} :
    verifyFeature element extent name t = .ok result ↔
      PerFeature element t ∧ (t.extent 0).compatible extent = true ∧
        (t.extent 0).refine extent = result := by
  have read (rank : (!t.hasOtherRank 1) = true) : t.dim 0 = .ok (t.extent 0) :=
    (Tensor.hasDim_of_not_hasOtherRank rank (Int.le_refl 0) (by decide)).dim_eq
  simp only [verifyFeature, Check.bind_eq_ok, Check.ensure_eq_ok, Check.pure_eq, Except.ok.injEq]
  constructor
  · rintro ⟨_, element, _, rank, _, found, _, agree, refined⟩
    obtain rfl := Except.ok.inj ((read rank).symm.trans found)
    exact ⟨⟨element, by simpa using rank⟩, agree, refined⟩
  · rintro ⟨⟨element, rank⟩, agree, refined⟩
    have vector : (!t.hasOtherRank 1) = true := by simpa using rank
    exact ⟨(), element, (), vector, _, read vector, (), agree, refined⟩

/-- Several per-feature operands leave the common value of what was known before and of all their
    extents. -/
theorem foldlM_verifyFeature_eq_ok {features : List (String × Tensor)} :
    features.foldlM (fun extent item => verifyFeature element extent item.1 item.2) extent =
        .ok result ↔
      (∀ item ∈ features, PerFeature element item.2) ∧
        result.IsCommon (extent :: features.map fun item => item.2.extent 0) := by
  induction features generalizing extent with
  | nil =>
    rw [List.foldlM_nil, Check.pure_eq, Except.ok.injEq, List.map_nil, Extent.isCommon_singleton]
    simp [eq_comm]
  | cons item rest ih =>
    simp only [List.foldlM_cons, Check.bind_eq_ok, verifyFeature_eq_ok, ih, List.forall_mem_cons,
      List.map_cons, Extent.isCommon_cons_cons]
    constructor
    · rintro ⟨_, ⟨first, agree, rfl⟩, others, common⟩
      exact ⟨⟨first, others⟩, agree, common⟩
    · rintro ⟨⟨first, others⟩, agree, common⟩
      exact ⟨_, ⟨first, agree, rfl⟩, others, common⟩

theorem verifyFeatures_eq_ok {features : List (String × Tensor)} :
    verifyFeatures operand index features = .ok result ↔
      ∃ own, verifyFeatureIndex operand index = .ok own ∧
        (∀ item ∈ features, PerFeature operand.element item.2) ∧
          result.IsCommon (own :: features.map fun item => item.2.extent 0) := by
  simp only [verifyFeatures, Check.bind_eq_ok, foldlM_verifyFeature_eq_ok]

theorem needFeatures_eq_ok {features : List (String × Ty)} {tensors : List (String × Tensor)} :
    needFeatures features = .ok tensors ↔
      features = tensors.map fun item => (item.1, item.2.ty) := by
  have each : ∀ (item : String × Ty) (view : String × Tensor),
      (do return (item.1, ← item.2.needTensor item.1) : Check (String × Tensor)) = .ok view ↔
        item = (view.1, view.2.ty) := by
    rintro ⟨name, t⟩ ⟨name', view⟩
    simp only [Check.bind_eq_ok, Ty.needTensor_eq_ok, Check.pure_eq, Except.ok.injEq,
      Prod.mk.injEq]
    constructor
    · rintro ⟨_, rfl, rfl, rfl⟩
      exact ⟨rfl, rfl⟩
    · rintro ⟨rfl, rfl⟩
      exact ⟨view, rfl, rfl, rfl⟩
  simp only [needFeatures, Check.collect_eq_ok, each]
  rw [← List.forall₂_eq_eq_eq, List.forall₂_map_right_iff]

end Features

/-- The statistic of a feature: a vector with one value for each feature. -/
def statistic (element : Ty) (extent : Extent) : Tensor := ⟨element, .ranked [extent]⟩

theorem perFeature_statistic (element : Ty) (extent : Extent) :
    PerFeature element (statistic element extent) := ⟨Ty.same_refl element, rfl⟩

@[simp] theorem extent_statistic (element : Ty) (extent : Extent) :
    (statistic element extent).extent 0 = extent := rfl

/-! ### The three operations -/

section Operations

variable {t s o m v : Tensor} {extent : Extent} {attributes : NormAttributes}

/-- What training asks of its operands, and what it gives. -/
theorem BatchNormTraining.exists_of_infer {operand scale offset normalized mean variance : Ty}
    (trained : infer ⟨operand, scale, offset, attributes⟩ = .ok [normalized, mean, variance]) :
    ∃ (t s o : Tensor) (extent : Extent), operand = t.ty ∧ scale = s.ty ∧ offset = o.ty ∧
      verifyEpsilon attributes.epsilon = .ok () ∧
      verifyFeatures t attributes.featureIndex [("scale", s), ("offset", o)] = .ok extent ∧
      normalized = t.ty ∧ mean = (statistic t.element extent).ty ∧
      variance = (statistic t.element extent).ty := by
  simp only [infer, Check.bind_eq_ok, Ty.needTensor_eq_ok] at trained
  obtain ⟨t, rfl, features, needed, _, epsilon, extent, verified, result⟩ := trained
  cases result
  obtain ⟨⟨_, s⟩, _, rfl, ⟨⟩, later⟩ :=
    List.map_eq_cons_iff.mp (needFeatures_eq_ok.mp needed).symm
  obtain ⟨⟨_, o⟩, _, rfl, ⟨⟩, none⟩ := List.map_eq_cons_iff.mp later
  obtain rfl := List.map_eq_nil_iff.mp none
  exact ⟨t, s, o, extent, rfl, rfl, rfl, epsilon, verified, rfl, rfl, rfl⟩

theorem BatchNormInference.infer_of_verifyFeatures
    (epsilon : verifyEpsilon attributes.epsilon = .ok ())
    (verified : verifyFeatures t attributes.featureIndex
      [("scale", s), ("offset", o), ("mean", m), ("variance", v)] = .ok extent) :
    infer ⟨t.ty, s.ty, o.ty, m.ty, v.ty, attributes⟩ = .ok [t.ty] := by
  have features : needFeatures [("scale", s.ty), ("offset", o.ty), ("mean", m.ty),
      ("variance", v.ty)] = .ok [("scale", s), ("offset", o), ("mean", m), ("variance", v)] :=
    needFeatures_eq_ok.mpr rfl
  simp only [infer, Tensor.needTensor_ty, features, epsilon, verified, Check.ok_bind, Check.pure_eq]

/-- The gradient of an output that has the type of the operand. -/
theorem BatchNormGrad.infer_of_verifyFeatures (element : t.element.isElement = true)
    (epsilon : verifyEpsilon attributes.epsilon = .ok ())
    (verified : verifyFeatures t attributes.featureIndex
      [("scale", s), ("mean", m), ("variance", v)] = .ok extent) :
    infer ⟨t.ty, s.ty, m.ty, v.ty, t.ty, attributes⟩ =
      .ok [t.ty, (statistic t.element extent).ty, (statistic t.element extent).ty] := by
  have unified : Ty.unifyTensorList [t, t] "operand and grad_output" = .ok t := by
    have both : Ty.unifyTensors "operand and grad_output" false t t = .ok t :=
      Ty.unifyTensors_eq_ok.mpr ⟨Ty.compatibleElements_self element, by simp, by simp⟩
    simp only [Ty.unifyTensorList, List.foldlM_cons, List.foldlM_nil, both, Check.ok_bind,
      Check.pure_eq]
  have features : needFeatures [("scale", s.ty), ("mean", m.ty), ("variance", v.ty)] =
      .ok [("scale", s), ("mean", m), ("variance", v)] := needFeatures_eq_ok.mpr rfl
  simp only [infer, Tensor.needTensor_ty, unified, features, epsilon, verified, Check.ok_bind,
    Check.pure_eq]
  rfl

end Operations

/-- The statistics of training fit the other two operations. Inference with them keeps the type of
    the operand, and the gradient at the output of training has the types that training gave. The
    number of features of the statistics is the common value of all known extents among the feature
    dimension of the operand, the scale and the offset, and unknown only if all of these are. -/
theorem training_results_fit {operand scale offset normalized mean variance : Ty}
    {attributes : NormAttributes}
    (trained : BatchNormTraining.infer ⟨operand, scale, offset, attributes⟩ =
      .ok [normalized, mean, variance]) :
    BatchNormInference.infer ⟨operand, scale, offset, mean, variance, attributes⟩ =
        .ok [operand] ∧
      BatchNormGrad.infer ⟨operand, scale, mean, variance, normalized, attributes⟩ =
        .ok [normalized, mean, variance] ∧
      ∃ (t s o : Tensor) (own extent : Extent), operand = t.ty ∧ scale = s.ty ∧ offset = o.ty ∧
        HasFeatures t attributes.featureIndex own ∧
        mean = .tensor t.element (.ranked [extent]) ∧
        extent.IsCommon [own, s.extent 0, o.extent 0] := by
  obtain ⟨t, s, o, extent, rfl, rfl, rfl, epsilon, verified, rfl, rfl, rfl⟩ :=
    BatchNormTraining.exists_of_infer trained
  obtain ⟨own, index, fits, common⟩ := verifyFeatures_eq_ok.mp verified
  have scaleFits : PerFeature t.element s := fits ("scale", s) (by simp)
  have offsetFits : PerFeature t.element o := fits ("offset", o) (by simp)
  have meanFits := perFeature_statistic t.element extent
  have element : t.element.isElement = true := by
    simp [Ty.isElement, isFloat_of_verifyFeatureIndex index]
  refine ⟨?_, ?_, t, s, o, own, extent, rfl, rfl, rfl, hasFeatures_of_verifyFeatureIndex index, rfl,
    common⟩
  · have again : verifyFeatures t attributes.featureIndex [("scale", s), ("offset", o),
        ("mean", statistic t.element extent), ("variance", statistic t.element extent)] =
          .ok extent := by
      refine verifyFeatures_eq_ok.mpr ⟨own, index, ?_, common.of_subset (by simp) (by simp)⟩
      simp [scaleFits, offsetFits, meanFits]
    exact BatchNormInference.infer_of_verifyFeatures epsilon again
  · have again : verifyFeatures t attributes.featureIndex [("scale", s),
        ("mean", statistic t.element extent), ("variance", statistic t.element extent)] =
          .ok extent := by
      refine verifyFeatures_eq_ok.mpr ⟨own, index, ?_, common.of_subset (by simp) (by simp)⟩
      simp [scaleFits, meanFits]
    exact BatchNormGrad.infer_of_verifyFeatures element epsilon again

/-- The operand leaves the number of its features open, and so does the offset; the scale has
    sixteen values, so the statistics have sixteen. -/
theorem training_results_fit_sixteen :
    let operand : Ty := .tensor (.float .f32) (.ranked [some 8, none])
    let vector : Extent → Ty := fun extent => .tensor (.float .f32) (.ranked [extent])
    let attributes : NormAttributes := { featureIndex := .int 1 }
    BatchNormTraining.infer ⟨operand, vector (some 16), vector none, attributes⟩ =
        .ok [operand, vector (some 16), vector (some 16)] ∧
      BatchNormInference.infer ⟨operand, vector (some 16), vector none, vector (some 16),
        vector (some 16), attributes⟩ = .ok [operand] ∧
      BatchNormGrad.infer ⟨operand, vector (some 16), vector (some 16), vector (some 16), operand,
        attributes⟩ = .ok [operand, vector (some 16), vector (some 16)] := by
  intro operand vector attributes
  have trained : BatchNormTraining.infer ⟨operand, vector (some 16), vector none, attributes⟩ =
      .ok [operand, vector (some 16), vector (some 16)] := rfl
  obtain ⟨inferred, differentiated, -⟩ := training_results_fit trained
  exact ⟨trained, inferred, differentiated⟩

end Op

end TensorTyping
