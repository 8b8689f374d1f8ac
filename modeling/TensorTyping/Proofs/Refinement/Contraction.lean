import TensorTyping.Op.Dot
import TensorTyping.Op.Normalization
import TensorTyping.Proofs.Refinement.Types

/-!
# Refinement of dot products and normalization

Dot products and batch normalization of refined operands give refined results. Extents that are
paired, or that all stand for the number of features, agree when they do with more known.
-/

namespace TensorTyping

open Check (Carries)

namespace Op

variable {lhs' lhs rhs' rhs : Ty} {result' result : Option Ty}

/-! ### Dot products -/

/-- One extent of a matrix, or none of a vector. -/
theorem matrixDim_carries {dims' dims : List Extent} (h : RefinesDims dims' dims) (index : Int) :
    Carries RefinesDims (matrixDim dims' index) (matrixDim dims index) := by
  unfold matrixDim
  rw [h.length_eq]
  split
  · exact .collect_same fun i _ => .itemAt h i
  · exact .pure .nil

theorem dotDims_carries {left' left right' right : List Extent} (hleft : RefinesDims left' left)
    (hright : RefinesDims right' right) :
    Carries RefinesDims (dotDims left' right') (dotDims left right) := by
  refine (matrixDim_carries hleft 0).bind fun _ _ rows => ?_
  refine (matrixDim_carries hright 1).bind fun _ _ columns => ?_
  exact .pure (List.rel_append rows columns)

theorem element_of_dotTensor {l r inferred : Tensor} (success : dotTensor l r = .ok inferred) :
    inferred.element = l.element := by
  unfold dotTensor at success
  split at success
  · simp only [Check.bind_eq_ok] at success
    obtain ⟨-, -, -, -, -, -, -, -, -, -, ⟨⟩⟩ := success
    rfl
  · cases success
    rfl

theorem dotTensor_carries {l' l r' r : Tensor} (hl : l'.Refines l) (hr : r'.Refines r) :
    Carries Tensor.Refines (dotTensor l' r') (dotTensor l r) := by
  have unranked : Carries Tensor.Refines (dotTensor l' r') (.ok (.unranked l.element)) := by
    refine .to_ok ?_
    intro inferred success
    refine ⟨?_, .unranked _⟩
    rw [element_of_dotTensor success]
    exact hl.element
  obtain ⟨element', shape'⟩ := l'
  obtain ⟨element, shape⟩ := l
  obtain ⟨otherElement', otherShape'⟩ := r'
  obtain ⟨otherElement, otherShape⟩ := r
  cases hl.shape with
  | unranked => exact unranked
  | ranked left =>
    cases hr.shape with
    | unranked => exact unranked
    | ranked right =>
      refine (Carries.ensure ?_).bind ?_
      · rw [left.length_eq, right.length_eq]
        exact id
      intro _ _ _
      rw [left.length_eq]
      refine (Carries.itemAt left _).bind fun _ _ last => ?_
      refine (Carries.itemAt right 0).bind fun _ _ first => ?_
      refine (Carries.ensure (last.compatible first)).bind ?_
      intro _ _ _
      refine (dotDims_carries left right).bind ?_
      intro _ _ dims
      exact .pure ⟨hl.element, .ranked dims⟩

theorem Dot.infer_carries (precision : Payload) (hl : lhs'.Refines lhs) (hr : rhs'.Refines rhs)
    (hresult : Option.Rel Ty.Refines result' result) :
    Carries Ty.RefinesAll (infer ⟨lhs', rhs', precision, result'⟩)
      (infer ⟨lhs, rhs, precision, result⟩) := by
  refine (hl.needTensor _ _).bind ?_
  intro l' l hl
  refine (hr.needTensor _ _).bind ?_
  intro r' r hr
  apply Carries.bind_same
  intro _ _
  refine (dotTensor_carries hl hr).bind ?_
  intro inferred' inferred hinferred
  exact Ty.settled_carries hinferred.ty hresult

namespace DotGeneral

theorem ensureDims_carries (dims : List Int) (what : String) {rank' rank : Option Nat}
    (h : rank = none ∨ rank = rank') :
    Carries (fun _ _ => True) (ensureDims dims rank' what) (ensureDims dims rank what) := by
  refine .checkAll_same ?_
  intro d _
  refine (Carries.ensure id).bind ?_
  intro _ _ _
  rcases h with rfl | rfl
  · exact .to_ok fun _ _ => trivial
  · exact (Carries.same _).mono fun _ _ _ => trivial

theorem verifySide_carries (side : String) (batching contracting : List Int)
    {rank' rank : Option Nat} (h : rank = none ∨ rank = rank') :
    Carries (fun _ _ => True) (verifySide side batching contracting rank')
      (verifySide side batching contracting rank) := by
  refine (Carries.ensure id).bind ?_
  intro _ _ _
  refine (ensureDims_carries batching _ h).bind ?_
  intro _ _ _
  exact ensureDims_carries contracting _ h

theorem ensurePairs_carries (what : String) {l' l r' r : Tensor} (hl : l'.Refines l)
    (hr : r'.Refines r) (pairs : List (Int × Int)) :
    Carries (fun _ _ => True) (ensurePairs what l' r' pairs) (ensurePairs what l r pairs) := by
  refine .checkAll_same ?_
  rintro ⟨i, j⟩ _
  refine (hl.dim i).bind fun _ _ first => (hr.dim j).bind fun _ _ second => ?_
  exact (Carries.ensure (first.compatible second)).mono fun _ _ _ => trivial

/-- The extents of each pair are compatible. -/
def PairsAgree (left right : List Extent) (pairs : List (Int × Int)) : Prop :=
  ∀ pair ∈ pairs, ∀ a b, itemAt left pair.1 = .ok a → itemAt right pair.2 = .ok b →
    Extent.compatible a b = true

theorem pairsAgree_of_ensurePairs {what : String} {element element' : Ty} {left right : List Extent}
    {pairs : List (Int × Int)} {u : Unit}
    (success : ensurePairs what ⟨element, .ranked left⟩ ⟨element', .ranked right⟩ pairs = .ok u) :
    PairsAgree left right pairs := by
  rintro ⟨i, j⟩ member a b first second
  have agree := Check.checkAll_eq_ok.mp success _ member
  simp only [Tensor.dim, first, second, Check.ok_bind, Check.ensure_eq_ok] at agree
  exact agree

/-- Paired extents that agree are refined together. -/
theorem pairedDims_carries {left' left right' right : List Extent} {pairs : List (Int × Int)}
    (hleft : RefinesDims left' left) (hright : RefinesDims right' right)
    (agree : PairsAgree left' right' pairs) :
    Carries RefinesDims (pairedDims left' right' pairs) (pairedDims left right pairs) := by
  refine .collect_same ?_
  rintro ⟨i, j⟩ member
  refine (Carries.itemAt hleft i).with_success.bind ?_
  rintro a' a ⟨first, found, -⟩
  refine (Carries.itemAt hright j).with_success.bind ?_
  rintro b' b ⟨second, found', -⟩
  exact .pure (first.refine second (agree _ member a' b' found found'))

theorem resultDims_carries {left' left right' right : List Extent} (dims : DotDims)
    (hleft : RefinesDims left' left) (hright : RefinesDims right' right)
    (agree : PairsAgree left' right' (dims.lhsBatching.zip dims.rhsBatching)) :
    Carries RefinesDims (resultDims left' right' dims) (resultDims left right dims) := by
  refine (pairedDims_carries hleft hright agree).bind ?_
  intro _ _ batch
  exact .pure (List.rel_append (List.rel_append batch (hleft.without _)) (hright.without _))

theorem element_of_contract {l r inferred : Tensor} {dims : DotDims}
    (success : contract l r dims = .ok inferred) : inferred.element = l.element := by
  unfold contract at success
  split at success
  · simp only [Check.bind_eq_ok] at success
    obtain ⟨-, -, -, -, -, -, ⟨⟩⟩ := success
    rfl
  · cases success
    rfl

theorem contract_carries {l' l r' r : Tensor} (dims : DotDims) (hl : l'.Refines l)
    (hr : r'.Refines r) : Carries Tensor.Refines (contract l' r' dims) (contract l r dims) := by
  have unranked : Carries Tensor.Refines (contract l' r' dims) (.ok (.unranked l.element)) := by
    refine .to_ok ?_
    intro inferred success
    refine ⟨?_, .unranked _⟩
    rw [element_of_contract success]
    exact hl.element
  obtain ⟨element', shape'⟩ := l'
  obtain ⟨element, shape⟩ := l
  obtain ⟨otherElement', otherShape'⟩ := r'
  obtain ⟨otherElement, otherShape⟩ := r
  cases hl.shape with
  | unranked => exact unranked
  | ranked left =>
    cases hr.shape with
    | unranked => exact unranked
    | ranked right =>
      refine (ensurePairs_carries _ hl hr _).with_success.bind ?_
      rintro _ _ ⟨-, paired, -⟩
      refine (ensurePairs_carries _ hl hr _).bind ?_
      intro _ _ _
      refine (resultDims_carries dims left right (pairsAgree_of_ensurePairs paired)).bind ?_
      intro _ _ result
      exact .pure ⟨hl.element, .ranked result⟩

theorem infer_carries (dimensions : Option DotDims) (precision : Payload) (hl : lhs'.Refines lhs)
    (hr : rhs'.Refines rhs) (hresult : Option.Rel Ty.Refines result' result) :
    Carries Ty.RefinesAll (infer ⟨lhs', rhs', dimensions, precision, result'⟩)
      (infer ⟨lhs, rhs, dimensions, precision, result⟩) := by
  refine (hl.needTensor _ _).bind ?_
  intro l' l hl
  refine (hr.needTensor _ _).bind ?_
  intro r' r hr
  apply Carries.bind_same
  intro _ _
  apply Carries.bind_same
  intro dims _
  refine (Carries.ensure id).bind ?_
  intro _ _ _
  refine (Carries.ensure id).bind ?_
  intro _ _ _
  refine (verifySide_carries _ _ _ hl.rank?_eq_or).bind ?_
  intro _ _ _
  refine (verifySide_carries _ _ _ hr.rank?_eq_or).bind ?_
  intro _ _ _
  refine (contract_carries dims hl hr).bind ?_
  intro inferred' inferred hinferred
  exact Ty.settled_carries hinferred.ty hresult

end DotGeneral

/-! ### Batch normalization -/

theorem verifyFeatureIndex_carries {t' t : Tensor} (ht : t'.Refines t) (index : Payload) :
    Carries Extent.Refines (verifyFeatureIndex t' index) (verifyFeatureIndex t index) := by
  refine (Carries.ensure ?_).bind ?_
  · rw [Ty.isFloat_eq, Ty.isFloat_eq, Ty.kind?_of_same ht.element]
    exact id
  intro _ _ _
  rcases ht.rank?_eq_or with unknown | equal
  · rw [unknown]
    cases t'.rank? with
    | none => exact (Carries.same _).mono fun _ _ h => h.1 ▸ .refl _
    | some rank =>
      refine .bind_left fun _ _ => ?_
      refine (Payload.isBelow_of_isWithin index rank).bind ?_
      intro inRange negative outside
      have inside : (inRange = true) → (!negative) = true := by simpa using outside
      refine (Carries.ensure inside).bind ?_
      intro _ _ _
      exact .to_ok fun _ _ => .unknown _
  · rw [equal]
    cases t'.rank? with
    | none => exact (Carries.same _).mono fun _ _ h => h.1 ▸ .refl _
    | some rank =>
      apply Carries.bind_same
      intro _ _
      apply Carries.bind_same
      intro inRange _
      apply Carries.bind_same
      intro _ _
      exact ht.dimAt index

/-- The number of features stays within reach of a per-feature operand. -/
theorem verifyFeature_carries {element' element : Ty} {extent' extent : Extent} (name : String)
    {t' t : Tensor} (helement : element'.same element = true) (hextent : extent'.Refines extent)
    (ht : t'.Refines t) :
    Carries Extent.Refines (verifyFeature element' extent' name t')
      (verifyFeature element extent name t) := by
  refine (Carries.ensure ?_).bind ?_
  · rw [Ty.same_congr ht.element helement]
    exact id
  intro _ _ _
  refine (Carries.ensure ht.hasOtherRank).bind ?_
  intro _ _ _
  refine (ht.dim 0).bind ?_
  intro own' own hown
  refine (Carries.ensure (hown.compatible hextent)).bind ?_
  intro _ _ agree
  exact .pure (hown.refine hextent agree)

theorem verifyFeatures_carries {t' t : Tensor} (ht : t'.Refines t) (index : Payload)
    {features' features : List (String × Tensor)}
    (all : List.Forall₂ (fun a b => a.1 = b.1 ∧ a.2.Refines b.2) features' features) :
    Carries Extent.Refines (verifyFeatures t' index features')
      (verifyFeatures t index features) := by
  refine (verifyFeatureIndex_carries ht index).bind ?_
  intro extent' extent hextent
  refine .foldlM all hextent ?_
  rintro extent' extent ⟨name, feature'⟩ ⟨_, feature⟩ hextent ⟨rfl, hfeature⟩
  exact verifyFeature_carries name ht.element hextent hfeature

theorem needFeatures_carries {features' features : List (String × Ty)}
    (all : List.Forall₂ (fun a b => a.1 = b.1 ∧ a.2.Refines b.2) features' features) :
    Carries (List.Forall₂ fun a b => a.1 = b.1 ∧ a.2.Refines b.2) (needFeatures features')
      (needFeatures features) := by
  refine .collect all ?_
  rintro ⟨name, t'⟩ ⟨_, t⟩ ⟨rfl, ht⟩
  refine (ht.needTensor _ _).bind ?_
  intro t' t ht
  exact .pure ⟨rfl, ht⟩

variable {operand' operand scale' scale offset' offset : Ty}
  {mean' mean variance' variance grad' grad : Ty}

theorem BatchNormTraining.infer_carries (attributes : NormAttributes)
    (h : operand'.Refines operand) (hscale : scale'.Refines scale)
    (hoffset : offset'.Refines offset) :
    Carries Ty.RefinesAll (infer ⟨operand', scale', offset', attributes⟩)
      (infer ⟨operand, scale, offset, attributes⟩) := by
  refine (h.needTensor _ _).bind ?_
  intro t' t ht
  refine (needFeatures_carries ?_).bind ?_
  · simp [hscale, hoffset]
  intro features' features hfeatures
  apply Carries.bind_same
  intro _ _
  refine (verifyFeatures_carries ht _ hfeatures).bind ?_
  intro extent' extent hextent
  have statistic : Ty.Refines (.tensor t'.element (.ranked [extent']))
      (.tensor t.element (.ranked [extent])) := .tensor ht.element (.ranked (.cons hextent .nil))
  exact .pure (.cons ht.ty (.cons statistic (.cons statistic .nil)))

theorem BatchNormInference.infer_carries (attributes : NormAttributes)
    (h : operand'.Refines operand) (hscale : scale'.Refines scale)
    (hoffset : offset'.Refines offset) (hmean : mean'.Refines mean)
    (hvariance : variance'.Refines variance) :
    Carries Ty.RefinesAll (infer ⟨operand', scale', offset', mean', variance', attributes⟩)
      (infer ⟨operand, scale, offset, mean, variance, attributes⟩) := by
  refine (h.needTensor _ _).bind ?_
  intro t' t ht
  refine (needFeatures_carries ?_).bind ?_
  · simp [hscale, hoffset, hmean, hvariance]
  intro features' features hfeatures
  apply Carries.bind_same
  intro _ _
  refine (verifyFeatures_carries ht _ hfeatures).bind ?_
  intro _ _ _
  exact .pure (.cons ht.ty .nil)

theorem BatchNormGrad.infer_carries (attributes : NormAttributes) (h : operand'.Refines operand)
    (hscale : scale'.Refines scale) (hmean : mean'.Refines mean)
    (hvariance : variance'.Refines variance) (hgrad : grad'.Refines grad) :
    Carries Ty.RefinesAll (infer ⟨operand', scale', mean', variance', grad', attributes⟩)
      (infer ⟨operand, scale, mean, variance, grad, attributes⟩) := by
  refine (h.needTensor _ _).bind ?_
  intro t' t ht
  refine (hgrad.needTensor _ _).bind ?_
  intro g' g hg
  refine (Ty.unifyTensorList_carries (.cons ht (.cons hg .nil))).bind ?_
  intro both' both hboth
  refine (needFeatures_carries ?_).bind ?_
  · simp [hscale, hmean, hvariance]
  intro features' features hfeatures
  apply Carries.bind_same
  intro _ _
  refine (verifyFeatures_carries hboth _ hfeatures).bind ?_
  intro extent' extent hextent
  have statistic : Ty.Refines (.tensor both'.element (.ranked [extent']))
      (.tensor both.element (.ranked [extent])) :=
    .tensor hboth.element (.ranked (.cons hextent .nil))
  exact .pure (.cons hboth.ty (.cons statistic (.cons statistic .nil)))

end Op

end TensorTyping
