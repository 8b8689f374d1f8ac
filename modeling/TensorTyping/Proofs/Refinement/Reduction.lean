import TensorTyping.Op.Reduction
import TensorTyping.Proofs.Refinement.Types

/-!
# Refinement of reductions, maps and sorts

The body of a reduction is checked against the types of the inputs and of the initial values. A body
that fits inputs and initial values fits them when less is known of their shapes, so reductions,
maps and sorts of refined inputs give refined results.
-/

namespace TensorTyping

open Check (Carries)

namespace Reducer

/-! ### Extents that a parameter may keep -/

/-- The earliest match is found when there is one. -/
theorem embeds_iff {dims allowed : List Extent} :
    embeds dims allowed = true ↔
      List.SublistForall₂ (fun a b => Extent.compatible a b = true) dims allowed := by
  fun_induction embeds dims allowed with
  | case1 => exact ⟨fun _ => .nil, fun _ => rfl⟩
  | case2 dim dims =>
    refine ⟨by simp, fun h => ?_⟩
    cases h
  | case3 dim dims bound rest agree ih =>
    rw [ih]
    refine ⟨.cons agree, fun h => ?_⟩
    cases h with
    | cons _ others => exact others
    | cons_right others =>
      -- A later match of the first extent leaves the other matches where they are.
      obtain ⟨kept, matched, sub⟩ := List.sublistForall₂_iff.mp others
      obtain ⟨_, rest, _, others, rfl⟩ := List.forall₂_cons_left_iff.mp matched
      exact List.sublistForall₂_iff.mpr ⟨rest, others, List.sublist_of_cons_sublist sub⟩
  | case4 dim dims bound rest differ ih =>
    rw [ih]
    refine ⟨.cons_right, fun h => ?_⟩
    cases h with
    | cons agree _ => exact absurd agree differ
    | cons_right others => exact others

/-- Extents that can be matched can be matched when less is known of the allowed ones. -/
theorem embeds_of_refines {dims allowed' allowed : List Extent} (h : RefinesDims allowed' allowed)
    (fits : embeds dims allowed' = true) : embeds dims allowed = true := by
  rw [embeds_iff] at fits ⊢
  induction fits generalizing allowed with
  | nil => exact .nil
  | cons agree _ ih =>
    cases h with
    | cons first rest => exact .cons ((Extent.Refines.refl _).compatible first agree) (ih rest)
  | cons_right _ ih =>
    cases h with
    | cons first rest => exact .cons_right (ih rest)

/-! ### The contract of a body -/

/-- What a body is checked against when more or less is known of the inputs and of the initial
    values. When no input has a rank, the allowed extents do not matter. -/
structure Context.Refines (fine coarse : Context) : Prop where
  inputs : List.Forall₂ (fun a b => a.elementType.same b.elementType = true) fine.inputs
    coarse.inputs
  inits : Ty.RefinesAll fine.inits coarse.inits
  count : fine.count = coarse.count
  allowed : coarse.allUnranked = true ∨ RefinesDims fine.allowed coarse.allowed
  allUnranked : fine.allUnranked = true → coarse.allUnranked = true
  operation : fine.operation = coarse.operation

/-- The positions of one body when more or less is known of the inputs and the initial values. -/
structure Position.Refines (fine coarse : Position) : Prop where
  result : fine.result = coarse.result
  accumulator : fine.accumulator = coarse.accumulator
  operand : fine.operand = coarse.operand
  init : fine.init.Refines coarse.init
  input : fine.input.elementType.same coarse.input.elementType = true

theorem verifyKept_carries {context' context : Context} (h : context'.Refines context)
    (second i : Nat) (operand : Shape) :
    Carries (fun _ _ => True) (verifyKept context' second i operand)
      (verifyKept context second i operand) := by
  cases operand with
  | unranked => exact .pure trivial
  | ranked dims =>
    refine (Carries.ensure ?_).mono fun _ _ _ => trivial
    rcases h.allowed with free | allowed
    · exact fun _ => Or.inl free
    · exact Or.imp h.allUnranked (embeds_of_refines allowed)

theorem verifyPosition_carries {context' context : Context} (h : context'.Refines context)
    (count i : Nat) {p' p : Position} (hp : p'.Refines p) :
    Carries (fun _ _ => True) (verifyPosition context' count i p')
      (verifyPosition context count i p) := by
  unfold verifyPosition
  rw [hp.result, hp.accumulator, hp.operand, h.operation]
  refine (Carries.ensure id).bind ?_
  intro _ _ _
  refine (Carries.ensure id).bind ?_
  intro _ _ _
  refine (Carries.ensure ((Ty.Refines.refl _).compatible hp.init)).bind ?_
  intro _ _ _
  apply Carries.bind_same
  intro operand _
  refine (Carries.ensure ?_).bind ?_
  · rw [Ty.compatibleElements_congr hp.input (Ty.same_refl _)]
    exact id
  intro _ _ _
  exact verifyKept_carries h _ _ _

theorem position_carries (results : List Tensor) (parameters : List Ty)
    {inits' inits inputs' inputs : List Ty} (hinits : Ty.RefinesAll inits' inits)
    (hinputs : List.Forall₂ (fun a b => a.elementType.same b.elementType = true) inputs' inputs)
    (count i : Nat) :
    Carries Position.Refines (position results parameters inits' inputs' count i)
      (position results parameters inits inputs count i) := by
  apply Carries.bind_same
  intro result _
  apply Carries.bind_same
  intro accumulator _
  apply Carries.bind_same
  intro operand _
  refine (Carries.itemAt hinits i).bind ?_
  intro _ _ init
  refine (Carries.itemAt hinputs i).bind ?_
  intro _ _ input
  exact .pure ⟨rfl, rfl, rfl, init, input⟩

/-- A body that fulfils its contract fulfils it when less is known, and its accumulators do not
    depend on what is known. -/
theorem verify_carries (body : Option Region) {context' context : Context}
    (h : context'.Refines context) :
    Carries (fun a b => a = b) (verify body context') (verify body context) := by
  unfold verify
  rw [h.count, h.inputs.length_eq, h.inits.length_eq]
  apply Carries.bind_same
  intro _ _
  apply Carries.bind_same
  intro region _
  apply Carries.bind_same
  intro twice _
  apply Carries.bind_same
  intro _ _
  apply Carries.bind_same
  intro _ _
  apply Carries.bind_same
  intro results _
  apply Carries.bind_same
  intro _ _
  have read := Carries.collect_same fun i (_ : i ∈ List.range context.inputs.length) =>
    position_carries results region.arguments h.inits h.inputs context.inputs.length i
  refine read.bind ?_
  intro positions' positions hpositions
  refine (Carries.checkEach hpositions ?_).bind ?_
  · intro i p' p hp
    exact verifyPosition_carries h _ i hp
  intro _ _ _
  exact .pure rfl

theorem allUnranked_of_refines {tensors' tensors : List Tensor}
    (all : List.Forall₂ Tensor.Refines tensors' tensors)
    (unranked : (tensors'.all fun t => !t.hasRank) = true) :
    (tensors.all fun t => !t.hasRank) = true := by
  induction all with
  | nil => rfl
  | cons first _ ih =>
    simp only [List.all_cons, Bool.and_eq_true] at unranked ⊢
    exact ⟨first.hasRank unranked.1, ih unranked.2⟩

/-- The context of a body for tensors of which more or less is known. -/
theorem Context.ofTensors_refines {tensors' tensors starts' starts : List Tensor}
    (htensors : List.Forall₂ Tensor.Refines tensors' tensors)
    (hstarts : List.Forall₂ Tensor.Refines starts' starts) (operation : String)
    {allowed' allowed : List Extent}
    (hallowed : (tensors.all fun t => !t.hasRank) = true ∨ RefinesDims allowed' allowed) :
    (ofTensors tensors' starts' allowed' operation).Refines
      (ofTensors tensors starts allowed operation) where
  inputs :=
    List.forall₂_map_left_iff.mpr
      (List.forall₂_map_right_iff.mpr (htensors.imp fun _ _ h => h.element))
  inits :=
    List.forall₂_map_left_iff.mpr (List.forall₂_map_right_iff.mpr (hstarts.imp fun _ _ h => h.ty))
  count := by
    unfold ofTensors
    rw [htensors.length_eq]
  allowed := hallowed
  allUnranked := allUnranked_of_refines htensors
  operation := rfl

end Reducer

namespace Op

/-! ### Inputs and initial values -/

theorem unifyInputs_carries {tensors' tensors : List Tensor} (what : String)
    (all : List.Forall₂ Tensor.Refines tensors' tensors) :
    Carries Tensor.Refines (unifyInputs tensors' what) (unifyInputs tensors what) := by
  refine (Carries.itemAt all 0).bind ?_
  intro _ _ first
  refine Ty.unifyTensorList_carries ?_
  refine List.forall₂_map_left_iff.mpr (List.forall₂_map_right_iff.mpr ?_)
  exact all.imp fun _ _ h => ⟨first.element, h.shape⟩

/-- A shape refines what unified tensors say together just when it refines each of them. -/
theorem refines_of_foldlM_unifyTensors {what : String} {first base : Tensor}
    {tensors : List Tensor} {s : Shape}
    (success : tensors.foldlM (Ty.unifyTensors what false) first = .ok base) :
    s.Refines base.shape ↔ s.Refines first.shape ∧ ∀ t ∈ tensors, s.Refines t.shape := by
  induction tensors generalizing first with
  | nil =>
    cases success
    simp
  | cons t rest ih =>
    rw [List.foldlM_cons, Check.bind_eq_ok] at success
    obtain ⟨both, step, success⟩ := success
    obtain ⟨-, agree, rfl⟩ := Ty.unifyTensors_eq_ok.mp step
    rw [ih success, List.forall_mem_cons, ← and_assoc, Shape.refines_refine_iff agree]

theorem refines_of_unifyInputs {what : String} {tensors : List Tensor} {base : Tensor} {s : Shape}
    (success : unifyInputs tensors what = .ok base) :
    s.Refines base.shape ↔ ∀ t ∈ tensors, s.Refines t.shape := by
  obtain ⟨first, found, success⟩ := Check.bind_eq_ok.mp success
  cases tensors with
  | nil => simp at found
  | cons head rest =>
    rw [refines_of_foldlM_unifyTensors success, List.forall_mem_cons, List.forall_mem_map]

/-- Tensors that have no rank together have none each. -/
theorem unranked_of_unifyInputs {what : String} {tensors : List Tensor} {base : Tensor}
    (success : unifyInputs tensors what = .ok base) (unranked : base.shape = .unranked) :
    (tensors.all fun t => !t.hasRank) = true := by
  rw [List.all_eq_true]
  intro t member
  have refines := (refines_of_unifyInputs success).mp (.refl _) t member
  rw [unranked] at refines
  generalize shape : t.shape = s at refines
  cases refines
  rw [Tensor.hasRank, shape]
  rfl

theorem needInits_carries {inputs' inputs : List Ty} {inits' inits : Option (List Ty)}
    (hinputs : Ty.RefinesAll inputs' inputs) (hinits : Option.Rel Ty.RefinesAll inits' inits) :
    Carries Ty.RefinesAll (needInits inputs' inits') (needInits inputs inits) := by
  refine (Carries.ensure ?_).bind ?_
  · cases hinputs <;> simp
  intro _ _ _
  refine (Carries.needItems hinits).bind ?_
  intro inits' inits hinits
  refine (Carries.ensure ?_).bind ?_
  · rw [hinits.length_eq, hinputs.length_eq]
    exact id
  intro _ _ _
  exact .pure hinits

theorem needTensors_carries {types' types : List Ty} (what : String)
    (all : Ty.RefinesAll types' types) :
    Carries (List.Forall₂ Tensor.Refines) (collect (Ty.needTensor · what) types')
      (collect (Ty.needTensor · what) types) :=
  .collect all fun _ _ h => h.needTensor what what

theorem verifyScalarInits_carries {tensors' tensors : List Tensor}
    (all : List.Forall₂ Tensor.Refines tensors' tensors) :
    Carries (fun _ _ => True) (verifyScalarInits tensors') (verifyScalarInits tensors) := by
  refine .checkAll all ?_
  intro t' t ht
  exact (Carries.ensure ht.hasOtherRank).mono fun _ _ _ => trivial

/-! ### Reductions -/

theorem keptShape_refines {shape' shape : Shape} (h : shape'.Refines shape) (reduced : List Int) :
    (keptShape shape' reduced).Refines (keptShape shape reduced) := by
  cases h with
  | unranked => exact .unranked _
  | ranked dims => exact .ranked (dims.without reduced)

theorem verifyReducedDims_carries {base' base : Tensor} (h : base'.Refines base)
    (dims : List Int) :
    Carries (fun _ _ => True) (verifyReducedDims base' dims) (verifyReducedDims base dims) := by
  refine (Carries.ensure id).bind ?_
  intro _ _ _
  refine .checkAll_same ?_
  intro d _
  exact (Carries.ensure (Dimensions.isPosition_of_refines h.rank?_eq_or)).mono fun _ _ _ => trivial

theorem keptShape_allowed {tensors : List Tensor} {base' base : Tensor} {what : String}
    (hbase : base'.Refines base) (unified : unifyInputs tensors what = .ok base)
    (reduced : List Int) :
    (tensors.all fun t => !t.hasRank) = true ∨
      RefinesDims ((keptShape base'.shape reduced).dims?.getD [])
        ((keptShape base.shape reduced).dims?.getD []) := by
  cases known : base.shape with
  | unranked => exact Or.inl (unranked_of_unifyInputs unified known)
  | ranked dims =>
    have shapes := hbase.shape
    rw [known] at shapes
    cases known' : base'.shape with
    | unranked =>
      rw [known'] at shapes
      cases shapes
    | ranked dims' =>
      rw [known'] at shapes
      cases shapes with
      | ranked dims => exact Or.inr (dims.without reduced)

/-- With or without a body, the accumulators have the element types of the finer ones. -/
theorem Reduce.accumulators_carries {op' op : Reduce}
    {tensors' tensors starts' starts : List Tensor}
    {base' base : Tensor} {what : String} {reduced : List Int} (hbody : op'.body = op.body)
    (hbase : base'.Refines base) (unified : unifyInputs tensors what = .ok base)
    (htensors : List.Forall₂ Tensor.Refines tensors' tensors)
    (hstarts : List.Forall₂ Tensor.Refines starts' starts) :
    Carries (List.Forall₂ fun a b : Tensor => a.element.same b.element = true)
      (op'.accumulators tensors' starts' (keptShape base'.shape reduced))
      (op.accumulators tensors starts (keptShape base.shape reduced)) := by
  unfold accumulators
  rw [hbody]
  cases op.body with
  | none => exact .pure (hstarts.imp fun _ _ h => h.element)
  | some body =>
    have context := Reducer.Context.ofTensors_refines htensors hstarts "reduce"
      (keptShape_allowed hbase unified reduced)
    refine (Reducer.verify_carries (some body) context).mono ?_
    rintro accumulators _ rfl
    exact List.forall₂_same.mpr fun t _ => Ty.same_refl t.element

theorem Reduce.infer_carries {inputs' inputs : List Ty} {inits' inits : Option (List Ty)}
    (dimensions : Payload) (body : Option Region) (hinputs : Ty.RefinesAll inputs' inputs)
    (hinits : Option.Rel Ty.RefinesAll inits' inits) :
    Carries Ty.RefinesAll (infer ⟨inputs', inits', dimensions, body⟩)
      (infer ⟨inputs, inits, dimensions, body⟩) := by
  refine (needInits_carries hinputs hinits).bind ?_
  intro given' given hgiven
  refine (needTensors_carries _ hinputs).bind ?_
  intro tensors' tensors htensors
  refine (needTensors_carries _ hgiven).bind ?_
  intro starts' starts hstarts
  refine (unifyInputs_carries _ htensors).with_success.bind ?_
  rintro base' base ⟨hbase, -, unified⟩
  refine (verifyScalarInits_carries hstarts).bind ?_
  intro _ _ _
  apply Carries.bind_same
  intro dims _
  refine (verifyReducedDims_carries hbase dims).bind ?_
  intro _ _ _
  have hshape := keptShape_refines hbase.shape dims
  refine (accumulators_carries rfl hbase unified htensors hstarts).bind ?_
  intro accumulators' accumulators haccumulators
  refine .pure (List.forall₂_map_left_iff.mpr (List.forall₂_map_right_iff.mpr ?_))
  exact haccumulators.imp fun _ _ h => .tensor h hshape

/-! ### Maps and sorts -/

theorem scalar_same {element' element : Ty} (h : element'.same element = true) :
    (Tensor.scalar element').ty.same (Tensor.scalar element).ty = true := by
  simpa [Tensor.scalar, Tensor.ty, Ty.same] using h

/-- A parameter that is a scalar of the finer tensor is one of the coarser tensor. -/
theorem sameScalar_of_refines {t' t : Tensor} (h : t'.Refines t) {argument : Ty}
    (fits : argument.same (Tensor.scalar t'.element).ty = true) :
    argument.same (Tensor.scalar t.element).ty = true := by
  rwa [← Ty.same_congr (Ty.same_refl argument) (scalar_same h.element)]

theorem verifyScalarComputation_carries {tensors' tensors : List Tensor} (computation : Region)
    (all : List.Forall₂ Tensor.Refines tensors' tensors) :
    Carries (fun a b => a = b) (verifyScalarComputation tensors' computation)
      (verifyScalarComputation tensors computation) := by
  refine (Carries.ensure ?_).bind ?_
  · rw [all.length_eq]
    exact id
  intro _ _ _
  have same : List.Forall₂ Eq computation.arguments computation.arguments :=
    List.forall₂_same.mpr fun _ _ => rfl
  refine (Carries.checkEach (Check.forall₂_zip_zip same all) ?_).bind ?_
  · rintro i ⟨argument, t'⟩ ⟨_, t⟩ ⟨rfl, ht⟩
    exact (Carries.ensure (sameScalar_of_refines ht)).mono fun _ _ _ => trivial
  intro _ _ _
  exact (Carries.same _).mono fun _ _ h => h.1

theorem MapElements.infer_carries {inputs' inputs : List Ty} (dimensions : Payload)
    (computation : Option Region) (hinputs : Ty.RefinesAll inputs' inputs) :
    Carries Ty.RefinesAll (infer ⟨inputs', dimensions, computation⟩)
      (infer ⟨inputs, dimensions, computation⟩) := by
  refine (Carries.ensure ?_).bind ?_
  · cases hinputs <;> simp
  intro _ _ _
  refine (needTensors_carries _ hinputs).bind ?_
  intro tensors' tensors htensors
  refine (unifyInputs_carries _ htensors).bind ?_
  intro base' base hbase
  apply Carries.bind_same
  intro region _
  refine (verifyScalarComputation_carries region htensors).bind ?_
  rintro element _ rfl
  apply Carries.bind_same
  intro dims _
  refine (Carries.ensure ?_).bind ?_
  · intro increasing
    rcases hbase.rank?_eq_or with unknown | equal
    · rw [unknown, increasing]
      simp [Dimensions.upTo]
    · rw [equal]
      exact increasing
  intro _ _ _
  exact .pure (.cons (.tensor (Ty.same_refl element) hbase.shape) .nil)

theorem verifySortDimension_carries (dimension : Payload) {rank' rank : Option Nat}
    (h : rank = none ∨ rank = rank') :
    Carries (fun _ _ => True) (verifySortDimension rank' dimension)
      (verifySortDimension rank dimension) := by
  rcases h with rfl | rfl
  · exact .to_ok fun _ _ => trivial
  · exact (Carries.same _).mono fun _ _ _ => trivial

theorem verifyComparator_carries {tensors' tensors : List Tensor} (comparator : Region)
    (all : List.Forall₂ Tensor.Refines tensors' tensors) :
    Carries (fun _ _ => True) (verifyComparator tensors' comparator)
      (verifyComparator tensors comparator) := by
  refine (Carries.ensure ?_).bind ?_
  · rw [all.length_eq]
    exact id
  intro _ _ _
  refine (Carries.checkEach all ?_).bind ?_
  · intro i t' t ht
    refine (Carries.checkAll_same ?_).mono fun _ _ _ => trivial
    intro j _
    apply Carries.bind_same
    intro argument _
    exact (Carries.ensure (sameScalar_of_refines ht)).mono fun _ _ _ => trivial
  intro _ _ _
  exact (Carries.same _).mono fun _ _ _ => trivial

theorem SortTensors.infer_carries {inputs' inputs : List Ty} (comparator : Option Region)
    (dimension : Payload) (hinputs : Ty.RefinesAll inputs' inputs) :
    Carries Ty.RefinesAll (infer ⟨inputs', comparator, dimension⟩)
      (infer ⟨inputs, comparator, dimension⟩) := by
  refine (Carries.ensure ?_).bind ?_
  · cases hinputs <;> simp
  intro _ _ _
  refine (needTensors_carries _ hinputs).bind ?_
  intro tensors' tensors htensors
  refine (unifyInputs_carries _ htensors).bind ?_
  intro base' base hbase
  refine (verifySortDimension_carries dimension hbase.rank?_eq_or).bind ?_
  intro _ _ _
  have sorted : Ty.RefinesAll (tensors'.map fun t => .tensor t.element base'.shape)
      (tensors.map fun t => .tensor t.element base.shape) := by
    refine List.forall₂_map_left_iff.mpr (List.forall₂_map_right_iff.mpr ?_)
    exact htensors.imp fun _ _ h => .tensor h.element hbase.shape
  cases comparator with
  | none => exact .pure sorted
  | some comparator =>
    refine (verifyComparator_carries comparator htensors).bind ?_
    intro _ _ _
    exact .pure sorted

end Op

end TensorTyping
