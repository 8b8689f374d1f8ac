import TensorTyping.Op.Indexing
import TensorTyping.Proofs.Indexing.Mapping
import TensorTyping.Proofs.Refinement.Reduction
import TensorTyping.Proofs.Refinement.Windowed

/-!
# Refinement of gathers, scatters and dynamic slices

A mapping that is consistent with an operand and with indices is consistent with them when less is
known. The extents of a gather are taken from the start indices and from the slice sizes, and are
refined with the start indices; a scatter keeps its operand.
-/

namespace TensorTyping

open Check (Carries)

namespace Mapping

/-! ### Mappings -/

theorem ensureInRange_carries (dims : List Int) (name range : String) {bound' bound : Option Nat}
    (h : bound = none ∨ bound = bound') :
    Carries (fun _ _ => True) (ensureInRange dims bound' name range)
      (ensureInRange dims bound name range) := by
  refine .checkAll_same ?_
  intro d _
  exact (Carries.ensure (Dimensions.isPosition_of_refines h)).mono fun _ _ _ => trivial

theorem indexVectorExtent_carries {t' t : Tensor} (ht : t'.Refines t) (indexVectorDim : Payload) :
    Carries Extent.Refines (indexVectorExtent t' indexVectorDim)
      (indexVectorExtent t indexVectorDim) := by
  unfold indexVectorExtent
  rcases ht.rank?_eq_or with unknown | equal
  · rw [unknown]
    exact .to_ok fun _ _ => .unknown _
  rw [equal]
  cases t'.rank? with
  | none => exact .pure (.refl _)
  | some rank =>
    simp only
    split
    · exact .pure (.refl _)
    · exact ht.dimAt indexVectorDim

theorem isBeyond_carries (indexVectorDim : Payload) {rank' rank : Option Nat}
    (h : rank = none ∨ rank = rank') :
    Carries (fun beyond' beyond => beyond' = false → beyond = false)
      (isBeyond indexVectorDim rank') (isBeyond indexVectorDim rank) := by
  rcases h with rfl | rfl
  · exact .to_ok fun _ _ _ => rfl
  · exact (Carries.same _).mono fun _ _ h => h.1 ▸ id

theorem ensureIndexVectorDim_carries {t' t : Tensor} (ht : t'.Refines t) (indexVectorDim : Payload)
    (what : String) :
    Carries (fun _ _ => True) (ensureIndexVectorDim t' indexVectorDim what)
      (ensureIndexVectorDim t indexVectorDim what) := by
  apply Carries.bind_same
  intro negative _
  refine (isBeyond_carries indexVectorDim ht.rank?_eq_or).bind ?_
  intro beyond' beyond keeps
  refine (Carries.ensure ?_).mono fun _ _ _ => trivial
  simp only [Bool.and_eq_true, Bool.not_eq_true']
  exact And.imp_right keeps

theorem ensureIndicesPositions_carries (dims : List Int) (name : String)
    {rank' rank : Option Nat} (h : rank = none ∨ rank = rank') :
    Carries (fun _ _ => True) (ensureIndicesPositions dims rank' name)
      (ensureIndicesPositions dims rank name) := by
  rcases h with rfl | rfl
  · exact .to_ok fun _ _ => trivial
  · exact (Carries.same _).mono fun _ _ _ => trivial

theorem ensureIndicesBatching_carries {t' t : Tensor} (ht : t'.Refines t)
    (dims operandDims : List Int) (indexVectorDim : Payload) (name operandName : String) :
    Carries (fun _ _ => True)
      (ensureIndicesBatching t' dims operandDims indexVectorDim name operandName)
      (ensureIndicesBatching t dims operandDims indexVectorDim name operandName) := by
  apply Carries.bind_same
  intro _ _
  refine (ensureIndicesPositions_carries dims name ht.rank?_eq_or).bind ?_
  intro _ _ _
  exact (Carries.same _).mono fun _ _ _ => trivial

theorem ensureBatchingExtents_carries {t' t i' i : Tensor} (ht : t'.Refines t)
    (hi : i'.Refines i) (operandDims indicesDims : List Int) :
    Carries (fun _ _ => True) (ensureBatchingExtents t' i' operandDims indicesDims)
      (ensureBatchingExtents t i operandDims indicesDims) := by
  refine .checkAll_same ?_
  rintro ⟨operandDim, indicesDim⟩ _
  refine (ht.dim operandDim).bind fun _ _ first => (hi.dim indicesDim).bind fun _ _ second => ?_
  exact (Carries.ensure (first.compatible second)).mono fun _ _ _ => trivial

end Mapping

/-! ### Gathers -/

namespace Gather

variable {operand' operand starts' starts : Tensor}

theorem verifyMapping_carries (hstarts : starts'.Refines starts) (dims : GatherDims)
    {rank' rank : Option Nat} (hrank : rank = none ∨ rank = rank') :
    Carries (fun _ _ => True) (verifyMapping rank' starts' dims)
      (verifyMapping rank starts dims) := by
  refine (Mapping.ensureIndexVectorDim_carries hstarts _ _).bind ?_
  intro _ _ _
  refine (Mapping.indexVectorExtent_carries hstarts _).bind ?_
  intro vector' vector hvector
  refine (Carries.ensure (hvector.compatible (.refl _))).bind ?_
  intro _ _ _
  apply Carries.bind_same
  intro _ _
  apply Carries.bind_same
  intro _ _
  apply Carries.bind_same
  intro _ _
  apply Carries.bind_same
  intro _ _
  apply Carries.bind_same
  intro _ _
  refine (Mapping.ensureInRange_carries _ _ _ hrank).bind ?_
  intro _ _ _
  apply Carries.bind_same
  intro _ _
  apply Carries.bind_same
  intro _ _
  refine (Mapping.ensureInRange_carries _ _ _ hrank).bind ?_
  intro _ _ _
  apply Carries.bind_same
  intro _ _
  apply Carries.bind_same
  intro _ _
  refine (Mapping.ensureInRange_carries _ _ _ hrank).bind ?_
  intro _ _ _
  apply Carries.bind_same
  intro _ _
  exact Mapping.ensureIndicesBatching_carries hstarts _ _ _ _ _

theorem verifySize_carries (ht : operand'.Refines operand) (i : Nat) (size : Extent) :
    Carries (fun _ _ => True) (verifySize operand' i size) (verifySize operand i size) := by
  cases size with
  | none => exact .pure trivial
  | some n =>
    refine (Carries.ensure id).bind ?_
    intro _ _ _
    refine (ht.dim i).bind ?_
    intro bound' bound hbound
    cases hbound with
    | unknown => exact .to_ok fun _ _ => trivial
    | refl => exact (Carries.same _).mono fun _ _ _ => trivial

theorem verifySizes_carries (ht : operand'.Refines operand) (hstarts : starts'.Refines starts)
    (dims : GatherDims) (sizes : List Extent) :
    Carries (fun _ _ => True) (verifySizes operand' starts' dims sizes)
      (verifySizes operand starts dims sizes) := by
  refine (Carries.ensure ht.hasOtherRank).bind ?_
  intro _ _ _
  apply Carries.bind_same
  intro _ _
  refine (Carries.checkEach (List.forall₂_same.mpr fun _ _ => rfl) ?_).bind ?_
  · rintro i size _ rfl
    exact verifySize_carries ht i size
  intro _ _ _
  apply Carries.bind_same
  intro _ _
  apply Carries.bind_same
  intro _ _
  exact Mapping.ensureBatchingExtents_carries ht hstarts _ _

/-- An operand of another rank than the number of slice sizes is refused. -/
theorem rank?_of_verifySizes {dims : GatherDims} {sizes : List Extent} {u : Unit}
    (success : verifySizes operand starts dims sizes = .ok u) :
    operand.rank? = none ∨ operand.rank? = some sizes.length := by
  obtain ⟨_, fits, -⟩ := Check.bind_eq_ok.mp success
  rw [Check.ensure_eq_ok] at fits
  cases known : operand.rank? with
  | none => exact Or.inl rfl
  | some rank =>
    have equal : rank = sizes.length := by simpa [Tensor.hasOtherRank, known] using fits
    exact Or.inr (congrArg some equal)

theorem verify_carries (ht : operand'.Refines operand) (hstarts : starts'.Refines starts)
    (dims : GatherDims) (sizes : Option (List Extent)) :
    Carries (fun _ _ => True) (verify operand' starts' dims sizes)
      (verify operand starts dims sizes) := by
  cases sizes with
  | none => exact verifyMapping_carries hstarts dims ht.rank?_eq_or
  | some sizes =>
    intro _ success
    obtain ⟨_, mapping, fits⟩ := Check.bind_eq_ok.mp success
    -- The finer operand has one dimension for each size, as the coarser is taken to have.
    have rank' : operand'.rank?.getD sizes.length = sizes.length := by
      rcases rank?_of_verifySizes fits with unknown | known
      · rw [unknown]
        rfl
      · rw [known]
        rfl
    have rank : operand.rank?.getD sizes.length = sizes.length := by
      rcases ht.rank?_eq_or with unknown | equal
      · rw [unknown]
        rfl
      · rw [equal]
        exact rank'
    obtain ⟨_, fits', -⟩ := verifySizes_carries ht hstarts dims sizes _ fits
    rw [rank'] at mapping
    obtain ⟨_, mapping', -⟩ := verifyMapping_carries hstarts dims (Or.inr rfl) _ mapping
    refine ⟨(), Check.bind_eq_ok.mpr ⟨(), ?_, fits'⟩, trivial⟩
    rw [rank]
    exact mapping'

/-- The positions that the start indices fill are refined with them. -/
theorem fill_carries {indices' indices : List Extent} (h : RefinesDims indices' indices)
    (dims : GatherDims) (count position : Nat) (sizes : List Extent) (next : Nat) :
    Carries RefinesDims (fill indices' dims count position sizes next)
      (fill indices dims count position sizes next) := by
  induction count generalizing position sizes next with
  | zero => exact .pure .nil
  | succ count ih =>
    unfold fill
    split
    · cases sizes with
      | nil => exact .of_misuse _
      | cons size sizes =>
        refine (ih _ _ _).bind ?_
        intro rest' rest hrest
        exact .pure (.cons (.refl size) hrest)
    · refine (Carries.itemAt h _).bind ?_
      intro item' item hitem
      refine (ih _ _ _).bind ?_
      intro rest' rest hrest
      exact .pure (.cons hitem hrest)

theorem compose_carries (ht : operand'.Refines operand) {indices' indices : List Extent}
    (h : RefinesDims indices' indices) (dims : GatherDims) (sizes : Option (List Extent)) :
    Carries Tensor.Refines (compose operand' indices' dims sizes)
      (compose operand indices dims sizes) := by
  unfold compose
  rw [h.length_eq]
  apply Carries.bind_same
  intro batchRank _
  apply Carries.bind_same
  intro _ _
  cases sizes with
  | none => exact .of_misuse _
  | some sizes =>
    have filled : Carries RefinesDims (resultDims (dims.offsetDims.length + batchRank) sizes.length
        indices' sizes dims)
        (resultDims (dims.offsetDims.length + batchRank) sizes.length indices sizes dims) := by
      apply Carries.bind_same
      intro kept _
      exact fill_carries h dims _ 0 kept 0
    refine filled.bind ?_
    intro shape' shape hshape
    exact Tensor.form_carries ht.element (.ranked hshape)

theorem element_of_resultTensor {dims : GatherDims} {sizes : Option (List Extent)} {t : Tensor}
    (success : resultTensor operand starts dims sizes = .ok t) : t.element = operand.element := by
  unfold resultTensor compose at success
  split at success
  · cases success
    rfl
  simp only [Check.bind_eq_ok] at success
  obtain ⟨batchRank, -, -, -, success⟩ := success
  cases sizes with
  | none => simp at success
  | some sizes =>
    simp only [Check.bind_eq_ok, Tensor.form_eq_ok] at success
    obtain ⟨-, -, -, -, rfl⟩ := success
    rfl

/-- Without a rank nothing is said about the shape of the result. -/
theorem resultTensor_to_unranked (ht : operand'.Refines operand) (dims : GatherDims)
    (sizes : Option (List Extent)) :
    Carries Tensor.Refines (resultTensor operand' starts' dims sizes)
      (.ok (.unranked operand.element)) := by
  refine .to_ok ?_
  intro t success
  refine ⟨?_, .unranked _⟩
  rw [element_of_resultTensor success]
  exact ht.element

theorem resultTensor_carries (ht : operand'.Refines operand) (hstarts : starts'.Refines starts)
    (dims : GatherDims) (sizes : Option (List Extent)) :
    Carries Tensor.Refines (resultTensor operand' starts' dims sizes)
      (resultTensor operand starts dims sizes) := by
  obtain ⟨element', shape'⟩ := starts'
  obtain ⟨element, shape⟩ := starts
  cases hstarts.shape with
  | ranked startDims => exact compose_carries ht startDims dims sizes
  | unranked => exact resultTensor_to_unranked ht dims sizes

theorem infer_carries {input' input indices' indices : Ty} (dims : Option GatherDims)
    (sizes : Option (List Extent)) (h : input'.Refines input)
    (hindices : indices'.Refines indices) :
    Carries Tensor.Refines (infer input' indices' dims sizes) (infer input indices dims sizes) := by
  refine (h.needTensor _ _).bind ?_
  intro operand' operand ht
  refine (hindices.needTensor _ _).bind ?_
  intro starts' starts hstarts
  refine (Carries.ensure ?_).bind ?_
  · rw [Ty.isInteger_eq, Ty.isInteger_eq, Ty.kind?_of_same hstarts.element]
    exact id
  intro _ _ _
  apply Carries.bind_same
  intro dims _
  refine (verify_carries ht hstarts dims sizes).bind ?_
  intro _ _ _
  exact resultTensor_carries ht hstarts dims sizes

/-! ### Gathers whose slice sizes are an operand -/

/-- A number of slice sizes that agrees with the rank of the operand is refined with both. -/
theorem sizeCount_carries {sizes' sizes : Tensor} (ht : operand'.Refines operand)
    (hsizes : sizes'.Refines sizes) :
    Carries (fun count' count => Extent.compatible count' (operand'.rank?.map Int.ofNat) = true →
      Extent.Refines count' count) (sizeCount operand' sizes') (sizeCount operand sizes) := by
  refine (hsizes.dim 0).bind ?_
  intro dim' dim hdim
  have either (a b : Extent) : (a <|> b) = a.refine b := by cases a <;> rfl
  refine .pure fun agree => ?_
  rw [either, either]
  refine hdim.refine ht.rankExtent ?_
  cases dim' with
  | none => exact Extent.compatible_none_left _
  | some n => exact agree

/-- The slice sizes are those of the finer operands, unless even their number is unknown. -/
theorem dynamicSizes_carries {count' count : Extent} (h : count'.Refines count)
    (values : Option (List Extent)) :
    Carries (fun sizes' sizes => sizes = none ∨ sizes' = sizes) (dynamicSizes count' values)
      (dynamicSizes count values) := by
  cases values with
  | some sizes =>
    refine (Carries.ensure (h.compatible (.refl _))).bind ?_
    intro _ _ _
    exact .pure (Or.inr rfl)
  | none =>
    cases h with
    | unknown => exact .to_ok fun _ _ => Or.inl rfl
    | refl => exact (Carries.same _).mono fun _ _ h => Or.inr h.1

/-- With slice sizes more is checked than without. -/
theorem verify_none_carries (ht : operand'.Refines operand) (hstarts : starts'.Refines starts)
    (dims : GatherDims) (sizes : List Extent) :
    Carries (fun _ _ => True) (verify operand' starts' dims (some sizes))
      (verify operand starts dims none) := by
  have rank : operand.rank? = none ∨
      operand.rank? = some (operand'.rank?.getD sizes.length) := by
    rcases ht.rank?_eq_or with unknown | equal
    · exact Or.inl unknown
    · cases known : operand'.rank? with
      | none => exact Or.inl (equal.trans known)
      | some rank => exact Or.inr (equal.trans known)
  exact (verifyMapping_carries hstarts dims rank).bind_discard fun _ _ _ _ _ => trivial

theorem inferDynamic_carries {input' input indices' indices count' count : Ty}
    (dims : Option GatherDims) (values : Option (List Extent)) (h : input'.Refines input)
    (hindices : indices'.Refines indices) (hcount : count'.Refines count) :
    Carries Tensor.Refines (inferDynamic input' indices' count' dims values)
      (inferDynamic input indices count dims values) := by
  refine (h.needTensor _ _).with_success.bind ?_
  rintro operand' operand ⟨ht, needed, -⟩
  refine (hcount.needTensor _ _).bind ?_
  intro sizes' sizes hsizes
  refine (Carries.ensure hsizes.hasOtherRank).bind ?_
  intro _ _ _
  refine (Carries.ensure ?_).bind ?_
  · rw [Ty.isInteger_eq, Ty.isInteger_eq, Ty.kind?_of_same hsizes.element]
    exact id
  intro _ _ _
  refine (sizeCount_carries ht hsizes).bind ?_
  intro number' number hnumber
  refine (Carries.ensure fun agree => (hnumber agree).compatible ht.rankExtent agree).bind ?_
  intro _ _ agree
  refine (dynamicSizes_carries (hnumber agree) values).bind ?_
  intro known' known hknown
  cases known with
  | some sizes =>
    obtain rfl : known' = some sizes := by simpa using hknown
    exact infer_carries dims (some sizes) h hindices
  | none =>
    cases known' with
    | none =>
      refine (hindices.needTensor _ _).bind ?_
      intro starts' starts hstarts
      apply Carries.bind_same
      intro dims _
      refine (verify_carries ht hstarts dims none).bind ?_
      intro _ _ _
      exact .pure ⟨ht.element, .unranked _⟩
    | some known' =>
      refine .bind_left ?_
      intro other needed'
      obtain rfl : other = operand' := Except.ok.inj (needed'.symm.trans needed)
      refine (hindices.needTensor _ _).bind ?_
      intro starts' starts hstarts
      refine .bind_left fun _ _ => ?_
      apply Carries.bind_same
      intro dims _
      refine (verify_none_carries ht hstarts dims known').bind ?_
      intro _ _ _
      exact resultTensor_to_unranked ht dims (some known')

end Gather

namespace Op

theorem GatherSlices.infer_carries {operand' operand starts' starts : Ty}
    (dimensions : Option GatherDims) (sizes : Payload) (h : operand'.Refines operand)
    (hstarts : starts'.Refines starts) :
    Carries Ty.RefinesAll (infer ⟨operand', starts', dimensions, sizes⟩)
      (infer ⟨operand, starts, dimensions, sizes⟩) := by
  apply Carries.bind_same
  intro sizes _
  refine (Gather.infer_carries dimensions _ h hstarts).bind ?_
  intro t' t ht
  exact .pure (.cons ht.ty .nil)

theorem DynamicGather.infer_carries {operand' operand starts' starts sizes' sizes : Ty}
    (dimensions : Option GatherDims) (sizeValues : Payload) (h : operand'.Refines operand)
    (hstarts : starts'.Refines starts) (hsizes : sizes'.Refines sizes) :
    Carries Ty.RefinesAll (infer ⟨operand', starts', sizes', dimensions, sizeValues⟩)
      (infer ⟨operand, starts, sizes, dimensions, sizeValues⟩) := by
  apply Carries.bind_same
  intro values _
  refine (Gather.inferDynamic_carries dimensions _ h hstarts hsizes).bind ?_
  intro t' t ht
  exact .pure (.cons ht.ty .nil)

end Op

/-! ### Scatters -/

namespace Scatter

variable {operand' operand indices' indices : Tensor}

theorem ensureCovered_carries (dims : ScatterDims) {rank' rank : Option Nat}
    (h : rank = none ∨ rank = rank') :
    Carries (fun _ _ => True) (ensureCovered rank' dims) (ensureCovered rank dims) := by
  rcases h with rfl | rfl
  · exact .to_ok fun _ _ => trivial
  · exact (Carries.same _).mono fun _ _ _ => trivial

theorem verifyMapping_carries (ht : operand'.Refines operand) (hindices : indices'.Refines indices)
    (dims : ScatterDims) :
    Carries (fun _ _ => True) (verifyMapping operand' indices' dims)
      (verifyMapping operand indices dims) := by
  have rank := ht.rank?_eq_or
  refine (Mapping.ensureIndexVectorDim_carries hindices _ _).bind ?_
  intro _ _ _
  apply Carries.bind_same
  intro _ _
  apply Carries.bind_same
  intro _ _
  apply Carries.bind_same
  intro _ _
  apply Carries.bind_same
  intro _ _
  apply Carries.bind_same
  intro _ _
  refine (Mapping.ensureInRange_carries _ _ _ rank).bind ?_
  intro _ _ _
  apply Carries.bind_same
  intro _ _
  apply Carries.bind_same
  intro _ _
  refine (Mapping.ensureInRange_carries _ _ _ rank).bind ?_
  intro _ _ _
  apply Carries.bind_same
  intro _ _
  refine (Mapping.indexVectorExtent_carries hindices _).bind ?_
  intro vector' vector hvector
  refine (Carries.ensure (hvector.compatible (.refl _))).bind ?_
  intro _ _ _
  apply Carries.bind_same
  intro _ _
  refine (Mapping.ensureInRange_carries _ _ _ rank).bind ?_
  intro _ _ _
  apply Carries.bind_same
  intro _ _
  refine (Mapping.ensureIndicesBatching_carries hindices _ _ _ _ _).bind ?_
  intro _ _ _
  exact ensureCovered_carries dims rank

theorem verifyWindows_carries {shape' shape : Shape} {update' update : List Extent}
    (hshape : shape'.Refines shape) (hupdate : RefinesDims update' update) (dims : ScatterDims) :
    Carries (fun _ _ => True) (verifyWindows shape' update' dims)
      (verifyWindows shape update dims) := by
  cases hshape with
  | unranked => exact .to_ok fun _ _ => trivial
  | ranked bounds =>
    have same : List.Forall₂ Eq dims.updateWindowDims dims.updateWindowDims :=
      List.forall₂_same.mpr fun _ _ => rfl
    refine .checkAll (Check.forall₂_zip_zip (bounds.without _) same) ?_
    rintro ⟨bound', d⟩ ⟨bound, _⟩ ⟨hbound, rfl⟩
    refine (Carries.itemAt hupdate d).bind ?_
    intro extent' extent hextent
    simp only at hbound ⊢
    cases hbound with
    | unknown => exact .to_ok fun _ _ => trivial
    | refl =>
      cases hextent with
      | refl => exact (Carries.same _).mono fun _ _ _ => trivial
      | unknown =>
        cases bound' <;> exact .to_ok fun _ _ => trivial

theorem verifyBatch_carries (hindices : indices'.Refines indices) (dims : ScatterDims)
    {update' update : List (Extent × Nat)}
    (hupdate : List.Forall₂ (fun a b => a.1.Refines b.1 ∧ a.2 = b.2) update' update) (next : Nat) :
    Carries (fun _ _ => True) (verifyBatch indices' dims update' next)
      (verifyBatch indices dims update next) := by
  induction hupdate generalizing next with
  | nil => exact .pure trivial
  | @cons item' item _ _ hitem _ ih =>
    obtain ⟨extent', i⟩ := item'
    obtain ⟨extent, j⟩ := item
    obtain ⟨hextent, rfl⟩ := hitem
    unfold verifyBatch
    split
    · exact ih next
    · refine (hindices.dim _).bind ?_
      intro bound' bound hbound
      refine (Carries.ensure (hextent.compatible hbound)).bind ?_
      intro _ _ _
      exact ih _

theorem verifyUpdate_carries (ht : operand'.Refines operand) (hindices : indices'.Refines indices)
    {update' update : List Extent} (hupdate : RefinesDims update' update) (rank : Nat)
    (dims : ScatterDims) :
    Carries (fun _ _ => True) (verifyUpdate operand' indices' update' rank dims)
      (verifyUpdate operand indices update rank dims) := by
  unfold verifyUpdate
  rw [hupdate.length_eq]
  apply Carries.bind_same
  intro batchRank _
  apply Carries.bind_same
  intro _ _
  apply Carries.bind_same
  intro _ _
  refine (verifyWindows_carries ht.shape hupdate dims).bind ?_
  intro _ _ _
  refine (verifyBatch_carries hindices dims (Check.forall₂_zipIdx hupdate 0) 0).bind ?_
  intro _ _ _
  have extents := Mapping.ensureBatchingExtents_carries ht hindices dims.inputBatchingDims
    dims.scatterIndicesBatchingDims
  cases ranked : operand.hasRank with
  | false => exact .to_ok fun _ _ => trivial
  | true =>
    have ranked' : operand'.hasRank = true := by
      cases unranked : operand'.hasRank with
      | true => rfl
      | false =>
        have still := ht.hasRank (by rw [unranked]; rfl)
        rw [ranked] at still
        exact absurd still (by decide)
    rw [ranked']
    exact extents

theorem verifyTensors_carries {update' update : Tensor} (ht : operand'.Refines operand)
    (hindices : indices'.Refines indices) (hupdate : update'.Refines update)
    (dims : ScatterDims) :
    Carries (fun _ _ => True) (verifyTensors operand' indices' update' dims)
      (verifyTensors operand indices update dims) := by
  refine (verifyMapping_carries ht hindices dims).bind ?_
  intro _ _ _
  rcases hindices.rank?_eq_or with unknown | equal
  · rw [unknown]
    exact .to_ok fun _ _ => trivial
  rw [equal]
  cases indices'.rank? with
  | none => exact .pure trivial
  | some rank =>
    obtain ⟨element', shape'⟩ := update'
    obtain ⟨element, shape⟩ := update
    cases hupdate.shape with
    | unranked => exact .to_ok fun _ _ => trivial
    | ranked updateDims => exact verifyUpdate_carries ht hindices updateDims rank dims

/-- A scatter of one update into one input. -/
theorem verify_carries {input' input index' index update' update : Ty} (dims : Option ScatterDims)
    (h : input'.Refines input) (hindex : index'.Refines index) (hupdate : update'.Refines update) :
    Carries (fun _ _ => True) (verify [input'] index' (some [update']) dims)
      (verify [input] index (some [update]) dims) := by
  intro _ success
  obtain ⟨operand', indices', window', mapping, rfl, rfl, rfl, integer, rfl, fits⟩ :=
    verify_singleton_eq_ok.mp success
  obtain ⟨operand, needed, ht⟩ := h.needTensor "" "" _ (Ty.needTensor_eq_ok.mpr rfl)
  obtain ⟨indices, needed', hindices⟩ := hindex.needTensor "" "" _ (Ty.needTensor_eq_ok.mpr rfl)
  obtain ⟨window, needed'', hwindow⟩ := hupdate.needTensor "" "" _ (Ty.needTensor_eq_ok.mpr rfl)
  obtain ⟨_, fits', -⟩ := verifyTensors_carries ht hindices hwindow mapping _ fits
  rw [Ty.isInteger_eq, Ty.kind?_of_same hindices.element, ← Ty.isInteger_eq] at integer
  refine ⟨(), verify_singleton_eq_ok.mpr ?_, trivial⟩
  exact ⟨operand, indices, window, mapping, Ty.needTensor_eq_ok.mp needed,
    Ty.needTensor_eq_ok.mp needed', Ty.needTensor_eq_ok.mp needed'', integer, rfl, fits'⟩

end Scatter

theorem Op.ScatterUpdates.infer_carries {input' input indices' indices update' update : Ty}
    (dimensions : Option ScatterDims) (body : Option Region) (h : input'.Refines input)
    (hindices : indices'.Refines indices) (hupdate : update'.Refines update) :
    Carries Ty.RefinesAll (infer ⟨[input'], indices', some [update'], dimensions, body⟩)
      (infer ⟨[input], indices, some [update], dimensions, body⟩) := by
  refine (Scatter.verify_carries dimensions h hindices hupdate).bind ?_
  intro _ _ _
  refine (needTensors_carries _ (.cons h .nil)).bind ?_
  intro inputs' inputs hinputs
  refine (Carries.needItems (.some (.cons hupdate .nil))).bind ?_
  intro given' given hgiven
  refine (needTensors_carries _ hgiven).bind ?_
  intro updates' updates hupdates
  have elements : List.Forall₂ (fun a b : Ty => a.elementType.same b.elementType = true)
      (updates'.map Tensor.element) (updates.map Tensor.element) :=
    List.forall₂_map_left_iff.mpr (List.forall₂_map_right_iff.mpr
      (hupdates.imp fun _ _ h => Ty.elementType_same h.element))
  have scalars : Ty.RefinesAll (inputs'.map fun t => (Tensor.scalar t.element).ty)
      (inputs.map fun t => (Tensor.scalar t.element).ty) :=
    List.forall₂_map_left_iff.mpr (List.forall₂_map_right_iff.mpr
      (hinputs.imp fun _ _ h => .tensor h.element (.ranked .nil)))
  refine (Reducer.verify_carries body ?_).bind ?_
  · refine ⟨elements, scalars, ?_, Or.inr .nil, Reducer.allUnranked_of_refines hinputs, rfl⟩
    simp only [hinputs.length_eq]
  intro _ _ _
  exact .pure (List.forall₂_map_left_iff.mpr (List.forall₂_map_right_iff.mpr
    (hinputs.imp fun _ _ h => h.ty)))

/-! ### Slices at computed positions -/

namespace DynamicSlice

variable {operand' operand : Tensor}

theorem verifyStart_carries (i : Nat) {index' index : Ty} (h : index'.Refines index) :
    Carries (fun a b => a.same b = true) (verifyStart i index') (verifyStart i index) := by
  refine (h.needTensor _ _).bind ?_
  intro t' t ht
  refine (Carries.ensure ht.hasOtherRank).bind ?_
  intro _ _ _
  refine (Carries.ensure ?_).bind ?_
  · rw [Ty.isInteger_eq, Ty.isInteger_eq, Ty.kind?_of_same ht.element]
    exact id
  intro _ _ _
  exact .pure ht.element

/-- Element types that are all equal stay so when each is replaced by an equal one. -/
theorem allSame_of_same {types' types : List Ty}
    (h : List.Forall₂ (fun a b : Ty => a.same b = true) types' types)
    (all : types'.all (types'.headD .missing).same = true) :
    types.all (types.headD .missing).same = true := by
  have head : (types'.headD .missing).same (types.headD .missing) = true := by
    cases h with
    | nil => exact Ty.same_refl _
    | cons first _ => exact first
  rw [List.all_eq_true] at all ⊢
  intro t member
  obtain ⟨t', member', same⟩ := Check.exists_left_of_forall₂ h member
  rw [← Ty.same_congr head same]
  exact all t' member'

theorem verifyStarts_carries {starts' starts : Option (List Ty)} (ht : operand'.Refines operand)
    (hstarts : Option.Rel Ty.RefinesAll starts' starts) :
    Carries (fun _ _ => True) (verifyStarts operand' starts') (verifyStarts operand starts) := by
  refine (Carries.needItems hstarts).bind ?_
  intro items' items hitems
  refine (Carries.ensure ?_).bind ?_
  · rw [hitems.length_eq]
    exact ht.hasOtherRank
  intro _ _ _
  have verified : Carries (List.Forall₂ fun a b : Ty => a.same b = true)
      (collect (fun item => verifyStart item.2 item.1) items'.zipIdx)
      (collect (fun item => verifyStart item.2 item.1) items.zipIdx) := by
    refine .collect (Check.forall₂_zipIdx hitems 0) ?_
    rintro ⟨index', i⟩ ⟨index, _⟩ ⟨hindex, rfl⟩
    exact verifyStart_carries i hindex
  refine verified.bind ?_
  intro elements' elements helements
  exact (Carries.ensure (allSame_of_same helements)).mono fun _ _ _ => trivial

theorem verifySize_carries (ht : operand'.Refines operand) (i : Nat) (size : Int) :
    Carries (fun _ _ => True) (verifySize operand' i size) (verifySize operand i size) := by
  refine (Carries.ensure id).bind ?_
  intro _ _ _
  refine (ht.dim i).bind ?_
  intro bound' bound hbound
  cases hbound with
  | unknown => exact .to_ok fun _ _ => trivial
  | refl => exact (Carries.same _).mono fun _ _ _ => trivial

theorem infer_carries {input' input : Ty} {starts' starts : Option (List Ty)}
    (sizes : Option (List Int)) (h : input'.Refines input)
    (hstarts : Option.Rel Ty.RefinesAll starts' starts) :
    Carries Tensor.Refines (infer input' starts' sizes) (infer input starts sizes) := by
  refine (h.needTensor _ _).bind ?_
  intro operand' operand ht
  refine (verifyStarts_carries ht hstarts).bind ?_
  intro _ _ _
  cases sizes with
  | none => exact .pure ht
  | some sizes =>
    refine (Carries.ensure ht.hasOtherRank).bind ?_
    intro _ _ _
    refine (Carries.checkEach (List.forall₂_same.mpr fun _ _ => rfl) ?_).bind ?_
    · rintro i size _ rfl
      exact verifySize_carries ht i size
    intro _ _ _
    exact Tensor.form_carries ht.element (.refl _)

theorem verifyUpdateShape_carries {s' s u' u : Shape} (hs : s'.Refines s) (hu : u'.Refines u) :
    Carries (fun _ _ => True) (verifyUpdateShape s' u') (verifyUpdateShape s u) := by
  cases hs with
  | unranked => exact .to_ok fun _ _ => trivial
  | ranked bounds =>
    cases hu with
    | unranked => exact .to_ok fun _ _ => trivial
    | ranked dims =>
      refine (Carries.ensure ?_).bind ?_
      · rw [bounds.length_eq, dims.length_eq]
        exact id
      intro _ _ _
      refine .checkEach (Check.forall₂_zip_zip bounds dims) ?_
      rintro i ⟨bound', extent'⟩ ⟨bound, extent⟩ ⟨hbound, hextent⟩
      simp only at hbound hextent
      cases hbound with
      | unknown => exact .to_ok fun _ _ => trivial
      | refl =>
        cases hextent with
        | refl => exact (Carries.same _).mono fun _ _ _ => trivial
        | unknown => cases bound' <;> exact .to_ok fun _ _ => trivial

theorem inferUpdate_carries {input' input update' update : Ty} {starts' starts : Option (List Ty)}
    (h : input'.Refines input) (hupdate : update'.Refines update)
    (hstarts : Option.Rel Ty.RefinesAll starts' starts) :
    Carries Tensor.Refines (inferUpdate input' update' starts')
      (inferUpdate input update starts) := by
  refine (h.needTensor _ _).bind ?_
  intro operand' operand ht
  refine (hupdate.needTensor _ _).bind ?_
  intro window' window hwindow
  refine (Carries.ensure ?_).bind ?_
  · rw [Ty.same_congr ht.element hwindow.element]
    exact id
  intro _ _ _
  refine (verifyUpdateShape_carries ht.shape hwindow.shape).bind ?_
  intro _ _ _
  refine (verifyStarts_carries ht hstarts).bind ?_
  intro _ _ _
  exact .pure ht

end DynamicSlice

namespace Op

theorem SliceAt.infer_carries {operand' operand : Ty} {starts' starts : Option (List Ty)}
    (sizes : Payload) (h : operand'.Refines operand)
    (hstarts : Option.Rel Ty.RefinesAll starts' starts) :
    Carries Ty.RefinesAll (infer ⟨operand', starts', sizes⟩) (infer ⟨operand, starts, sizes⟩) := by
  apply Carries.bind_same
  intro sizes _
  refine (DynamicSlice.infer_carries sizes h hstarts).bind ?_
  intro t' t ht
  exact .pure (.cons ht.ty .nil)

theorem inferDynamicUpdateSlice_carries {operand' operand update' update : Ty}
    {starts' starts : Option (List Ty)} (h : operand'.Refines operand)
    (hupdate : update'.Refines update) (hstarts : Option.Rel Ty.RefinesAll starts' starts) :
    Carries Ty.RefinesAll (inferDynamicUpdateSlice operand' update' starts')
      (inferDynamicUpdateSlice operand update starts) := by
  refine (DynamicSlice.inferUpdate_carries h hupdate hstarts).bind ?_
  intro t' t ht
  exact .pure (.cons ht.ty .nil)

end Op

end TensorTyping
