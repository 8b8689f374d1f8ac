import TensorTyping.Op.Conversion
import TensorTyping.Op.Creation
import TensorTyping.Op.LinearAlgebra
import TensorTyping.Proofs.Refinement.Types

/-!
# Refinement of elementwise operations

Elementwise operations, conversions, constants and decompositions of matrices give refined results
on refined operands.
-/

namespace TensorTyping

open Check (Carries)

/-! ### Implicit broadcasting -/

namespace Broadcast

theorem extent?_refines {a' a b' b c' : Extent} (ha : a'.Refines a) (hb : b'.Refines b)
    (found : extent? a' b' = some c') : ∃ c, extent? a b = some c ∧ c'.Refines c := by
  rw [Extent.refines_iff] at ha hb
  simp only [Extent.refines_iff]
  unfold extent? at *
  grind

theorem align_refines {dims' dims : List Extent} (h : RefinesDims dims' dims) (rank : Nat) :
    RefinesDims (align rank dims') (align rank dims) := by
  unfold align
  rw [h.length_eq]
  exact List.rel_append (RefinesDims.refl _) h

theorem dims_carries {a' a b' b : List Extent} (ha : RefinesDims a' a) (hb : RefinesDims b' b) :
    Carries RefinesDims (dims a' b') (dims a b) := by
  unfold dims
  dsimp only
  rw [ha.length_eq, hb.length_eq]
  have aligned := Check.forall₂_zip_zip (align_refines ha (max a.length b.length))
    (align_refines hb (max a.length b.length))
  refine .collect (Check.forall₂_zipIdx aligned 0) ?_
  rintro ⟨⟨x', y'⟩, i⟩ ⟨⟨x, y⟩, j⟩ ⟨⟨hx, hy⟩, -⟩
  dsimp only at hx hy ⊢
  cases found : extent? x' y' with
  | none => exact .of_reject _ _ _
  | some dim' =>
    obtain ⟨dim, found', refines⟩ := extent?_refines hx hy found
    rw [found']
    exact .pure refines

theorem shapes_carries {s' s t' t : Shape} (hs : s'.Refines s) (ht : t'.Refines t) :
    Carries Shape.Refines (shapes s' t') (shapes s t) := by
  cases hs with
  | unranked => cases t <;> exact .to_ok fun shape _ => .unranked shape
  | ranked dims =>
    cases ht with
    | unranked => exact .to_ok fun shape _ => .unranked shape
    | ranked dims' => exact (dims_carries dims dims').bind fun _ _ h => .pure (.ranked h)

end Broadcast

namespace Op

variable {operand' operand lhs' lhs rhs' rhs : Ty}

/-! ### Shared checks -/

theorem ElementClass.admits_of_same {a b : Ty} (h : a.same b = true) (elements : ElementClass) :
    elements.admits a = elements.admits b := by
  cases elements <;>
    simp only [admits, Ty.isInteger_eq, Ty.isBool_eq, Ty.isFloat_eq, Ty.isComplex_eq,
      Ty.isQuantized_eq, Ty.kind?_of_same h]

theorem ensureElement_carries {t' t : Tensor} (h : t'.Refines t) (elements : ElementClass)
    (operation : String) :
    Carries (fun _ _ => elements.admits t'.element = true) (ensureElement t' elements operation)
      (ensureElement t elements operation) := by
  refine .ensure fun admitted => ?_
  rw [← ElementClass.admits_of_same h.element]
  exact admitted

theorem unifyOperands_carries {operands' operands : List Ty} {what : String}
    (all : Ty.RefinesAll operands' operands) :
    Carries Tensor.Refines (unifyOperands operands' what) (unifyOperands operands what) := by
  refine (Carries.collect all fun _ _ h => h.needTensor what what).bind fun _ _ tensors => ?_
  exact Ty.unifyTensorList_carries tensors

/-! ### Rules -/

theorem inferUnary_carries (kind : UnaryKind) (h : operand'.Refines operand) :
    Carries Ty.RefinesAll (inferUnary kind operand') (inferUnary kind operand) := by
  refine (h.needTensor _ _).bind fun t' t ht => ?_
  refine (ensureElement_carries ht _ _).bind fun _ _ _ => ?_
  exact .pure (.cons ht.ty .nil)

theorem Binary.infer_carries (kind : BinaryKind) (broadcast : Bool) (hl : lhs'.Refines lhs)
    (hr : rhs'.Refines rhs) :
    Carries Ty.RefinesAll (infer ⟨kind, lhs', rhs', broadcast⟩)
      (infer ⟨kind, lhs, rhs, broadcast⟩) := by
  refine (hl.needTensor _ _).bind fun l' l hl => ?_
  refine (hr.needTensor _ _).bind fun r' r hr => ?_
  refine (ensureElement_carries hl _ _).bind fun _ _ _ => ?_
  refine (Carries.ensure fun same => ?_).bind fun _ _ _ => ?_
  · rwa [← Ty.same_congr hl.element hr.element]
  cases broadcast with
  | true =>
    refine (Broadcast.shapes_carries hl.shape hr.shape).bind fun _ _ shape => ?_
    exact .pure (.cons (.tensor hl.element shape) .nil)
  | false =>
    refine (unifyOperands_carries (.cons hl.ty (.cons hr.ty .nil))).bind fun _ _ unified => ?_
    exact .pure (.cons unified.ty .nil)

/-- The real part of a complex element is the same for elements that are the same. -/
theorem inferAbs_carries (h : operand'.Refines operand) :
    Carries Ty.RefinesAll (inferAbs operand') (inferAbs operand) := by
  refine (h.needTensor _ _).bind fun t' t ht => ?_
  refine (ensureElement_carries ht _ _).bind fun _ _ _ => ?_
  have same := ht.element
  obtain ⟨element', shape'⟩ := t'
  obtain ⟨element, shape⟩ := t
  cases element with
  | complex component =>
    obtain rfl := Ty.eq_of_same_complex same
    exact .pure (.cons (.tensor (Ty.same_refl _) ht.shape) .nil)
  | _ =>
    cases element' with
    | complex => simp [Ty.same] at same
    | _ => exact .pure (.cons ht.ty .nil)

theorem Compare.infer_carries (direction compareType : Payload) (hl : lhs'.Refines lhs)
    (hr : rhs'.Refines rhs) :
    Carries Ty.RefinesAll (infer ⟨lhs', rhs', direction, compareType⟩)
      (infer ⟨lhs, rhs, direction, compareType⟩) := by
  refine (Carries.ensure id).bind fun _ _ _ => ?_
  refine (Carries.ensure id).bind fun _ _ _ => ?_
  refine (unifyOperands_carries (.cons hl (.cons hr .nil))).bind fun _ _ unified => ?_
  exact .pure (.cons (.tensor (Ty.same_refl _) unified.shape) .nil)

theorem inferIsFinite_carries (h : operand'.Refines operand) :
    Carries Ty.RefinesAll (inferIsFinite operand') (inferIsFinite operand) := by
  refine (h.needTensor _ _).bind fun t' t ht => ?_
  refine (ensureElement_carries ht _ _).bind fun _ _ _ => ?_
  exact .pure (.cons (.tensor (Ty.same_refl _) ht.shape) .nil)

/-- The elements of unified operands are those of the first. -/
theorem element_of_unifyOperands {a b : Ty} {what : String} {t : Tensor}
    (unified : unifyOperands [a, b] what = .ok t) : ∃ shape, a = .tensor t.element shape := by
  simp only [unifyOperands, Check.bind_eq_ok, Check.collect_eq_ok] at unified
  obtain ⟨tensors, views, unified⟩ := unified
  obtain ⟨first, _, view, others, rfl⟩ := List.forall₂_cons_left_iff.mp views
  obtain ⟨second, _, view', rest, rfl⟩ := List.forall₂_cons_left_iff.mp others
  obtain rfl := List.forall₂_nil_left_iff.mp rest
  simp only [Ty.unifyTensorList, List.foldlM_cons, List.foldlM_nil, Check.bind_eq_ok,
    Ty.unifyTensors_eq_ok, Check.pure_eq, Except.ok.injEq] at unified
  obtain ⟨_, ⟨-, -, rfl⟩, rfl⟩ := unified
  exact ⟨first.shape, Ty.needTensor_eq_ok.mp view⟩

/-- A predicate that is a scalar may be unranked on the coarse side, where it is then compared with
    the branches and found compatible. -/
theorem Select.infer_carries {pred' pred onTrue' onTrue onFalse' onFalse : Ty}
    (hpred : pred'.Refines pred) (htrue : onTrue'.Refines onTrue)
    (hfalse : onFalse'.Refines onFalse)
    (formed : ∀ element shape, onTrue = .tensor element shape → element.isElement = true) :
    Carries Ty.RefinesAll (infer ⟨pred', onTrue', onFalse'⟩) (infer ⟨pred, onTrue, onFalse⟩) := by
  refine (hpred.needTensor _ _).bind fun p' p hp => ?_
  refine (Carries.ensure fun same => ?_).bind fun _ _ _ => ?_
  · rwa [← Ty.same_congr hp.element (Ty.same_refl _)]
  refine (unifyOperands_carries (.cons htrue (.cons hfalse .nil))).with_success.bind ?_
  rintro r' r ⟨hr, -, unified⟩
  obtain ⟨element', shape'⟩ := p'
  obtain ⟨element, shape⟩ := p
  obtain ⟨-, shapes⟩ := hp
  cases shapes with
  | ranked dims =>
    cases dims with
    | nil => exact .pure (.cons hr.ty .nil)
    | cons first rest =>
      have shapes : Shape.Refines (.ranked _) (.ranked _) := .ranked (.cons first rest)
      refine (Carries.ensure (shapes.compatible hr.shape)).bind fun _ _ _ => ?_
      have second : Tensor.Refines ⟨r'.element, .ranked _⟩ ⟨r.element, .ranked _⟩ :=
        ⟨hr.element, shapes⟩
      refine (Ty.unifyTensorList_carries (.cons hr (.cons second .nil))).bind ?_
      intro _ _ unified
      exact .pure (.cons unified.ty .nil)
  | unranked =>
    -- The coarse side compares and unifies with an unranked shape, which changes nothing.
    obtain ⟨trueShape, rfl⟩ := element_of_unifyOperands unified
    have self : Ty.compatibleElements false r.element r.element = true :=
      Ty.compatibleElements_self (formed r.element trueShape rfl)
    have coarse : Ty.unifyTensorList [r, ⟨r.element, .unranked⟩] "select operands" = .ok r := by
      obtain ⟨element, shape⟩ := r
      simp only [Ty.unifyTensorList, List.foldlM_cons, List.foldlM_nil, Check.bind_eq_ok,
        Ty.unifyTensors_eq_ok, Check.pure_eq]
      cases shape <;> exact ⟨_, ⟨self, rfl, rfl⟩, rfl⟩
    refine .bind_right (c := ()) (Check.ensure_eq_ok.mpr rfl) (.bind_right coarse ?_)
    refine .to_ok fun types success => ?_
    split at success
    · cases success
      exact .cons hr.ty .nil
    · simp only [Check.bind_eq_ok, Ty.unifyTensorList, List.foldlM_cons, List.foldlM_nil,
        Ty.unifyTensors_eq_ok, Check.pure_eq, Except.ok.injEq] at success
      obtain ⟨_, -, _, ⟨_, ⟨-, agree, rfl⟩, rfl⟩, rfl⟩ := success
      exact .cons (.tensor hr.element ((Shape.refine_refines_left agree).trans hr.shape)) .nil

/-- A shape that is a scalar or agrees with another one stays so when less is known. -/
theorem scalar_or_compatible {s' s t' t : Shape} (hs : s'.Refines s) (ht : t'.Refines t)
    (h : s' = .scalar ∨ s'.compatible t' = true) : s = .scalar ∨ s.compatible t = true := by
  rcases h with rfl | agree
  · cases hs with
    | unranked => exact Or.inr rfl
    | ranked dims =>
      cases dims
      exact Or.inl rfl
  · exact Or.inr (hs.compatible ht agree)

theorem Clamp.verifyBound_carries {t' t : Tensor} {bound' bound : Ty} (name : String)
    (ht : t'.Refines t) (hbound : bound'.Refines bound) :
    Carries (fun _ _ => True) (verifyBound t' name bound') (verifyBound t name bound) := by
  refine (hbound.needTensor _ _).bind fun b' b hb => ?_
  refine (Carries.ensure fun same => ?_).bind fun _ _ _ => ?_
  · rwa [← Ty.same_congr hb.element ht.element]
  exact (Carries.ensure (scalar_or_compatible hb.shape ht.shape)).mono fun _ _ _ => trivial

theorem Clamp.infer_carries {min' min max' max : Ty} (hmin : min'.Refines min)
    (h : operand'.Refines operand) (hmax : max'.Refines max) :
    Carries Ty.RefinesAll (infer ⟨min', operand', max'⟩) (infer ⟨min, operand, max⟩) := by
  refine (h.needTensor _ _).bind fun t' t ht => ?_
  refine (verifyBound_carries _ ht hmin).bind fun _ _ _ => ?_
  refine (verifyBound_carries _ ht hmax).bind fun _ _ _ => ?_
  exact .pure (.cons ht.ty .nil)

/-! ### Conversions -/

theorem inferComplexPart_carries (operation : String) (h : operand'.Refines operand) :
    Carries Ty.RefinesAll (inferComplexPart operand' operation)
      (inferComplexPart operand operation) := by
  refine (h.needTensor _ _).bind fun t' t ht => ?_
  obtain ⟨element', shape'⟩ := t'
  obtain ⟨element, shape⟩ := t
  have same := ht.element
  cases element' with
  | complex component =>
    obtain rfl := Ty.eq_of_same_complex (Ty.same_symm same)
    exact .pure (.cons (.tensor (Ty.same_refl _) ht.shape) .nil)
  | float format =>
    obtain rfl := Ty.eq_of_same_float (Ty.same_symm same)
    exact .pure (.cons ht.ty .nil)
  | _ => exact .of_reject _ _ _

theorem inferComplex_carries (hl : lhs'.Refines lhs) (hr : rhs'.Refines rhs) :
    Carries Ty.RefinesAll (inferComplex lhs' rhs') (inferComplex lhs rhs) := by
  refine (unifyOperands_carries (.cons hl (.cons hr .nil))).bind fun t' t ht => ?_
  obtain ⟨element', shape'⟩ := t'
  obtain ⟨element, shape⟩ := t
  have same := ht.element
  cases element' with
  | float format =>
    obtain rfl := Ty.eq_of_same_float (Ty.same_symm same)
    cases format with
    | f32 => exact .pure (.cons (.tensor (Ty.same_refl _) ht.shape) .nil)
    | f64 => exact .pure (.cons (.tensor (Ty.same_refl _) ht.shape) .nil)
    | _ => exact .of_reject _ _ _
  | _ => exact .of_reject _ _ _

theorem inferConvert_carries {element' element : Ty} (h : operand'.Refines operand)
    (helement : element'.Refines element) :
    Carries Ty.RefinesAll (inferConvert operand' element') (inferConvert operand element) := by
  refine (h.needTensor _ _).bind fun t' t ht => ?_
  rw [helement.kind?_eq]
  apply Carries.bind_same
  intro _ _
  refine (Carries.ensure fun isElement => ?_).bind fun _ _ isElement => ?_
  · rwa [← helement.isElement]
  exact .pure (.cons (.tensor (helement.same_of_isElement isElement) ht.shape) .nil)

theorem inferUniformDequantize_carries (h : operand'.Refines operand) :
    Carries Ty.RefinesAll (inferUniformDequantize operand') (inferUniformDequantize operand) := by
  refine (h.needTensor _ _).bind fun t' t ht => ?_
  obtain ⟨element', shape'⟩ := t'
  obtain ⟨element, shape⟩ := t
  have same := ht.element
  cases element' with
  | quantized storage' expressed' scale' zeroPoint' =>
    cases element with
    | quantized storage expressed scale zeroPoint =>
      simp only [Ty.same, Bool.and_eq_true] at same
      refine (Tensor.form_carries same.1.1.2 ht.shape).bind fun _ _ formed => ?_
      exact .pure (.cons formed.ty .nil)
    | _ => simp [Ty.same] at same
  | _ => exact .of_reject _ _ _

theorem elementBitwidth_of_same {a b : Ty} (h : a.same b = true) :
    elementBitwidth a = elementBitwidth b := by
  cases a with
  | complex component => rw [Ty.eq_of_same_complex (Ty.same_symm h)]
  | _ =>
    cases b with
    | complex => simp [Ty.same] at h
    | _ => simp only [elementBitwidth, Ty.bitwidth?_of_same h]

theorem verifyNarrowing_carries {t' t r' r : Tensor} {wide' wide narrow' narrow : List Extent}
    (ratio : Int) (hwide : RefinesDims wide' wide) (hnarrow : RefinesDims narrow' narrow) :
    Carries (fun _ _ => True) (verifyNarrowing t' r' wide' narrow' ratio)
      (verifyNarrowing t r wide narrow ratio) := by
  refine (Carries.ensure fun ranks => ?_).bind fun _ _ _ => ?_
  · rw [← hwide.length_eq, ← hnarrow.length_eq]
    exact ranks
  refine (Carries.ensure (hnarrow.dropLast.compatibleDims hwide)).bind fun _ _ _ => ?_
  refine (Carries.itemAt hnarrow _).bind fun _ _ trailing => ?_
  exact (Carries.ensure (trailing.compatible (.refl _))).mono fun _ _ _ => trivial

theorem verifyBitcast_carries {t' t r' r : Tensor} (width width' : Nat) (ht : t'.Refines t)
    (hr : r'.Refines r) :
    Carries (fun _ _ => True) (verifyBitcast t' r' width width')
      (verifyBitcast t r width width') := by
  obtain ⟨element', shape'⟩ := t'
  obtain ⟨element, shape⟩ := t
  obtain ⟨resultElement', resultShape'⟩ := r'
  obtain ⟨resultElement, resultShape⟩ := r
  cases ht.shape with
  | unranked => exact .to_ok fun _ _ => trivial
  | ranked dims =>
    cases hr.shape with
    | unranked => exact .to_ok fun _ _ => trivial
    | ranked dims' =>
      unfold verifyBitcast
      dsimp only
      split
      · exact (Carries.ensure (dims.compatibleDims dims')).mono fun _ _ _ => trivial
      · split
        · apply Carries.bind_same
          intro ratio _
          exact verifyNarrowing_carries ratio dims dims'
        · apply Carries.bind_same
          intro ratio _
          exact verifyNarrowing_carries ratio dims' dims

theorem inferBitcastConvert_carries {result' result : Ty} (h : operand'.Refines operand)
    (hresult : result'.Refines result) :
    Carries Ty.RefinesAll (inferBitcastConvert operand' result')
      (inferBitcastConvert operand result) := by
  refine (h.needTensor _ _).bind fun t' t ht => ?_
  refine (hresult.needTensor _ _).bind fun r' r hr => ?_
  rw [elementBitwidth_of_same ht.element, elementBitwidth_of_same hr.element]
  apply Carries.bind_same
  intro width _
  apply Carries.bind_same
  intro width' _
  refine (verifyBitcast_carries width width' ht hr).bind fun _ _ _ => ?_
  exact .pure (.cons hr.ty .nil)

/-! ### Tensors from attributes -/

theorem inferIota_carries (dimension : Payload) {result' result : Ty}
    (h : result'.Refines result) :
    Carries Ty.RefinesAll (inferIota dimension result') (inferIota dimension result) := by
  refine (h.needTensor _ _).bind ?_
  intro t' t ht
  rcases ht.rank?_eq_or with unknown | equal
  · rw [unknown]
    cases t'.rank? with
    | none => exact .pure (.cons ht.ty .nil)
    | some rank =>
      refine .bind_left fun _ _ => .bind_left fun _ _ => .bind_left fun _ _ => ?_
      exact .pure (.cons ht.ty .nil)
  · rw [equal]
    cases t'.rank? with
    | none => exact .pure (.cons ht.ty .nil)
    | some rank =>
      refine (Carries.ensure id).bind ?_
      intro _ _ _
      apply Carries.bind_same
      intro inRange _
      refine (Carries.ensure id).bind ?_
      intro _ _ _
      exact .pure (.cons ht.ty .nil)

theorem inferGetDimensionSize_carries (dimension : Payload) (h : operand'.Refines operand) :
    Carries Ty.RefinesAll (inferGetDimensionSize operand' dimension)
      (inferGetDimensionSize operand dimension) := by
  refine (h.needTensor _ _).bind ?_
  intro t' t ht
  refine (dimension.isPosition_carries ht.rank?_eq_or).bind ?_
  intro inRange' inRange imp
  refine (Carries.ensure imp).bind ?_
  intro _ _ _
  exact .pure (.cons (.refl _) .nil)

theorem inferConstant_carries (value : Payload) {element' element : Option Ty}
    (h : Option.Rel Ty.Refines element' element) :
    Carries Ty.RefinesAll (inferConstant value element') (inferConstant value element) := by
  unfold inferConstant
  cases value.grid? with
  | none => exact .of_misuse _
  | some grid =>
    cases h with
    | none => exact (Carries.same _).mono fun _ _ h => h.1 ▸ Ty.RefinesAll.refl _
    | some h =>
      refine (Carries.ensure fun isElement => ?_).bind ?_
      · rwa [← h.isElement]
      intro _ _ isElement
      exact .pure (.cons (.tensor (h.same_of_isElement isElement) (.refl _)) .nil)

/-! ### Linear algebra -/

theorem verifySquare_carries {t' t : Tensor} (what : String) (h : t'.Refines t) :
    Carries (fun _ _ => True) (verifySquare t' what) (verifySquare t what) := by
  unfold verifySquare
  rcases h.rank?_eq_or with unknown | equal
  · rw [unknown]
    exact .to_ok fun _ _ => trivial
  · rw [equal]
    cases t'.rank? with
    | none => exact .pure trivial
    | some rank =>
      refine (Carries.ensure id).bind ?_
      intro _ _ _
      refine (h.dim _).bind fun _ _ rows => (h.dim _).bind fun _ _ columns => ?_
      exact (Carries.ensure (rows.compatible columns)).mono fun _ _ _ => trivial

theorem inferCholesky_carries (h : operand'.Refines operand) :
    Carries Ty.RefinesAll (inferCholesky operand') (inferCholesky operand) := by
  refine (h.needTensor _ _).bind ?_
  intro t' t ht
  refine (Carries.ensure ?_).bind ?_
  · simp only [Ty.isFloat_eq, Ty.isComplex_eq, Ty.kind?_of_same ht.element]
    exact id
  intro _ _ _
  refine (verifySquare_carries _ ht).bind ?_
  intro _ _ _
  exact .pure (.cons ht.ty .nil)

theorem TriangularSolve.verifyDims_carries (leftSide : Bool) {a' a b' b : Tensor} (rank : Nat)
    (ha : a'.Refines a) (hb : b'.Refines b) :
    Carries (fun _ _ => True) (verifyDims leftSide a' b' rank)
      (verifyDims leftSide a b rank) := by
  refine (Carries.checkAll_same ?_).bind ?_
  · intro i _
    refine (ha.dim i).bind fun _ _ first => (hb.dim i).bind fun _ _ second => ?_
    exact (Carries.ensure (first.compatible second)).mono fun _ _ _ => trivial
  intro _ _ _
  refine (hb.dim _).bind fun _ _ shared => (ha.dim _).bind fun _ _ own => ?_
  exact (Carries.ensure (own.compatible shared)).mono fun _ _ _ => trivial

theorem TriangularSolve.verifySides_carries (leftSide : Bool) {a' a b' b : Tensor}
    (ha : a'.Refines a) (hb : b'.Refines b) :
    Carries (fun _ _ => True) (verifySides leftSide a' b') (verifySides leftSide a b) := by
  unfold verifySides
  rcases ha.rank?_eq_or with unknown | equal
  · rw [unknown]
    exact .to_ok fun _ _ => trivial
  · rcases hb.rank?_eq_or with unknown' | equal'
    · rw [unknown']
      cases a.rank? <;> exact .to_ok fun _ _ => trivial
    · rw [equal, equal']
      cases a'.rank? with
      | none => exact .pure trivial
      | some rank =>
        cases b'.rank? with
        | none => exact .pure trivial
        | some other =>
          refine (Carries.ensure id).bind ?_
          intro _ _ _
          exact verifyDims_carries leftSide rank ha hb

theorem TriangularSolve.infer_carries (leftSide : Bool) (transposeA : Payload) {a' a b' b : Ty}
    (ha : a'.Refines a) (hb : b'.Refines b) :
    Carries Ty.RefinesAll (infer ⟨a', b', leftSide, transposeA⟩)
      (infer ⟨a, b, leftSide, transposeA⟩) := by
  refine (ha.needTensor _ _).bind ?_
  intro s' s hs
  refine (hb.needTensor _ _).bind ?_
  intro t' t ht
  refine (Carries.ensure id).bind ?_
  intro _ _ _
  refine (Carries.ensure fun same => ?_).bind ?_
  · rwa [← Ty.same_congr hs.element ht.element]
  intro _ _ _
  refine (verifySquare_carries _ hs).bind ?_
  intro _ _ _
  refine (verifySides_carries leftSide hs ht).bind ?_
  intro _ _ _
  exact .pure (.cons ht.ty .nil)

end Op

end TensorTyping
