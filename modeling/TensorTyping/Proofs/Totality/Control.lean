import TensorTyping.Op.Control
import TensorTyping.Op.Dot
import TensorTyping.Proofs.Totality.Elementwise

/-!
# Control flow and contractions without misuse

Regions that are there and whose types are well-formed have well-formed results. A precision
configuration has to be absent, a list or a text; the texts in it may be any.
-/

namespace TensorTyping

open Check

variable {excused : Misuse → Prop}

/-- The types of a region are well-formed. -/
structure Region.WellFormed (r : Region) : Prop where
  arguments : Ty.FormedAll r.arguments
  results : Ty.FormedAll r.results

/-- The region is there, and its types are well-formed. -/
def Region.Given (region : Option Region) : Prop := ∃ r, region = some r ∧ r.WellFormed

namespace Op

open Ty

/-! ### Branches -/

theorem verifyScalar_meets {operand : Ty} (form : operand.WellFormed) (element : Ty)
    (what : String) : Meets excused (fun _ => True) (verifyScalar operand element what) := by
  apply (needTensor_meets form _).bind
  intro t _ _
  exact Meets.ensure.weaken

theorem unifyBranches_meets {branches : List (Option Region)}
    (all : ∀ branch ∈ branches, Region.Given branch) :
    Meets excused FormedAll (unifyBranches branches) := by
  have regions : Meets excused (fun regions => ∀ region ∈ regions, Region.WellFormed region)
      (needBranches "branch" branches) := by
    apply Meets.collect
    intro item member
    obtain ⟨region, found, form⟩ := all item.1 (List.fst_mem_of_mem_zipIdx member)
    apply Meets.bind_ok (needPart_eq_ok.mpr found)
    apply Meets.ensure.andThen
    exact form
  apply regions.bind
  intro regions _ formed
  apply unifyLists_meets
  intro types member
  obtain ⟨region, inside, rfl⟩ := List.mem_map.mp member
  exact (formed region inside).results

theorem If.infer_meets {op : If} (pred : op.pred.WellFormed)
    (trueBranch : Region.Given op.trueBranch) (falseBranch : Region.Given op.falseBranch) :
    Meets excused FormedAll op.infer := by
  apply (verifyScalar_meets pred _ _).andThen
  exact unifyBranches_meets (by simp [trueBranch, falseBranch])

theorem inferCase_meets {index : Ty} {branches : List (Option Region)} (form : index.WellFormed)
    (all : ∀ branch ∈ branches, Region.Given branch) :
    Meets excused FormedAll (inferCase index branches) := by
  apply (verifyScalar_meets form _ _).andThen
  apply Meets.ensure.andThen
  exact unifyBranches_meets all

/-! ### Loops -/

theorem verifyCarried_meets {actual expected : List Ty} (actualForm : FormedAll actual)
    (expectedForm : FormedAll expected) (what : String) :
    Meets excused (fun _ => True) (verifyCarried actual expected what) := by
  apply Meets.ensure.andThen
  apply Meets.checkEach
  rintro i ⟨a, e⟩ found
  have inside := List.of_mem_zip (List.mem_of_getElem? found)
  apply (checkCompatible_meets (actualForm a inside.1) (expectedForm e inside.2)).bind
  intro agree _ _
  exact Meets.ensure.weaken

theorem verifyCondition_meets {operands : List Ty} {cond : Region} (all : FormedAll operands)
    (form : cond.WellFormed) : Meets excused (fun _ => True) (verifyCondition operands cond) := by
  apply (verifyCarried_meets form.arguments all _).andThen
  split
  · exact Meets.ensure.weaken
  · trivial

theorem While.infer_meets {op : While} (operands : FormedAll op.operands)
    (cond : Region.Given op.cond) (body : Region.Given op.body) :
    Meets excused FormedAll op.infer := by
  obtain ⟨cond, condFound, condForm⟩ := cond
  obtain ⟨body, bodyFound, bodyForm⟩ := body
  apply Meets.bind_ok (needPart_eq_ok.mpr condFound)
  apply (verifyCondition_meets operands condForm).andThen
  apply Meets.bind_ok (needPart_eq_ok.mpr bodyFound)
  apply (verifyCarried_meets bodyForm.arguments operands _).andThen
  apply (verifyCarried_meets bodyForm.results operands _).andThen
  exact unifyLists_meets (by simp [operands, bodyForm.results])

/-! ### Tuples and tokens -/

theorem inferGetTupleElement_meets {operand : Ty} {index : Payload} (form : operand.WellFormed)
    (number : index.Integral) : Meets excused FormedAll (inferGetTupleElement operand index) := by
  unfold inferGetTupleElement
  split
  · rename_i items
    obtain ⟨n, value⟩ := number
    apply (Payload.isWithin_meets value 0 items.length).bind
    intro inRange _ inside
    apply Meets.ensure_bind
    intro within
    obtain ⟨nonneg, below⟩ := inside within
    apply Meets.bind_ok value
    cases form with
    | tuple all =>
      apply (Meets.itemAt all nonneg below).bind
      intro item _ itemForm
      exact .single itemForm
  · trivial

theorem inferReturn_meets (values : List Ty) : Meets excused FormedAll (inferReturn values) := by
  apply (Meets.checkEach fun _ _ _ => Meets.ensure.weaken).andThen
  exact fun _ member => absurd member List.not_mem_nil

theorem inferToken_meets (values : List Ty) (what : String) :
    Meets excused FormedAll (inferToken values what) := by
  apply (Meets.checkEach fun _ _ _ => Meets.ensure.weaken).andThen
  exact .single .token

theorem formedAll_processId : FormedAll processId :=
  .single (Tensor.scalar_wellFormed rfl (.int _ _)).ty

/-! ### Contractions -/

/-- The precision configuration is absent or consists of items. -/
def PrecisionGiven (config : Payload) : Prop :=
  config.isAbsent = true ∨ ∃ items, config.items? = some items

theorem verifyPrecision_meets {config : Payload} (given : PrecisionGiven config) :
    Meets excused (fun _ => True) (verifyPrecision config) := by
  unfold verifyPrecision
  split
  · trivial
  · rename_i present
    obtain ⟨items, found⟩ := given.resolve_left present
    cases config with
    | list _ | text _ =>
      apply Meets.bind_ok (needItems_eq_ok.mpr found)
      apply Meets.ensure.andThen
      exact Meets.checkAll fun _ _ => Meets.ensure.weaken
    | _ => cases found

theorem matrixDim_meets {dims : List Extent} {index : Int} (all : ∀ dim ∈ dims, dim.WellFormed)
    (nonneg : 0 ≤ index) (inside : index < 2) :
    Meets excused (fun extents => ∀ dim ∈ extents, Extent.WellFormed dim)
      (matrixDim dims index) := by
  unfold matrixDim
  split
  · rename_i matrix
    apply Meets.collect
    intro i member
    rw [List.mem_singleton.mp member]
    exact Meets.itemAt all nonneg (by omega)
  · exact List.forall_mem_nil _

theorem dotDims_meets {left right : List Extent} (leftForm : ∀ dim ∈ left, dim.WellFormed)
    (rightForm : ∀ dim ∈ right, dim.WellFormed) :
    Meets excused (fun extents => ∀ dim ∈ extents, Extent.WellFormed dim)
      (dotDims left right) := by
  apply (matrixDim_meets leftForm (by decide) (by decide)).bind
  intro rows _ rowsForm
  apply (matrixDim_meets rightForm (by decide) (by decide)).bind
  intro columns _ columnsForm
  exact List.forall_mem_append.mpr ⟨rowsForm, columnsForm⟩

theorem dotTensor_meets {lhs rhs : Tensor} (left : lhs.WellFormed) (right : rhs.WellFormed) :
    Meets excused Tensor.WellFormed (dotTensor lhs rhs) := by
  unfold dotTensor
  split
  · rename_i leftDims rightDims leftShape rightShape
    have leftForm := Shape.wellFormed_ranked.mp (leftShape ▸ left.shape)
    have rightForm := Shape.wellFormed_ranked.mp (rightShape ▸ right.shape)
    apply Meets.ensure_bind
    rintro ⟨leftRank, rightRank⟩
    apply (Meets.itemAt leftForm (by omega) (by omega)).bind
    intro a _ _
    apply (Meets.itemAt rightForm (Int.le_refl 0) (by omega)).bind
    intro b _ _
    apply Meets.ensure.andThen
    apply (dotDims_meets leftForm rightForm).bind
    intro dims _ formed
    exact ⟨left.isElement, left.element, Shape.wellFormed_ranked.mpr formed⟩
  · exact left.unranked

/-- The settled type of a tensor that was inferred. -/
theorem settled_meets {inferred : Tensor} {declared : Option Ty} (form : inferred.WellFormed)
    (declaredForm : ∀ t ∈ declared, t.WellFormed) (operation : String) :
    Meets excused FormedAll (do return [← inferred.ty.settle declared operation]) := by
  apply (settle_meets form.ty declaredForm operation).bind
  intro t _ form
  exact .single form

theorem Dot.infer_meets {op : Dot} (lhs : op.lhs.WellFormed) (rhs : op.rhs.WellFormed)
    (precision : PrecisionGiven op.precision) (result : ∀ t ∈ op.result, t.WellFormed) :
    Meets excused FormedAll op.infer := by
  apply (needTensor_meets lhs _).bind
  intro lhs _ left
  apply (needTensor_meets rhs _).bind
  intro rhs _ right
  apply (verifyPrecision_meets precision).andThen
  apply (dotTensor_meets left right).bind
  intro inferred _ form
  exact settled_meets form result _

namespace DotGeneral

theorem ensureDims_meets (t : Tensor) (dims : List Int) (what : String) :
    Meets excused (fun _ => ∀ d ∈ dims, t.HasDim d) (ensureDims dims t.rank? what) := by
  apply Meets.checkAll_forall
  intro d _
  apply Meets.ensure_bind
  intro nonneg
  cases known : t.rank? with
  | none =>
    intro rank found
    rw [known] at found
    cases found
  | some rank => exact Meets.ensure.mono fun _ _ => Tensor.hasDim_of_rank known nonneg

theorem verifySide_meets (t : Tensor) (side : String) (batching contracting : List Int) :
    Meets excused (fun _ => ∀ d ∈ batching ++ contracting, t.HasDim d)
      (verifySide side batching contracting t.rank?) := by
  apply Meets.ensure.andThen
  apply (ensureDims_meets t batching _).bind
  intro _ _ first
  apply (ensureDims_meets t contracting _).mono
  intro _ _ second
  exact List.forall_mem_append.mpr ⟨first, second⟩

section Pairs

variable {lhs rhs : Tensor} {lefts rights : List Int}

theorem ensurePairs_meets (what : String) (leftDims : ∀ d ∈ lefts, lhs.HasDim d)
    (rightDims : ∀ d ∈ rights, rhs.HasDim d) :
    Meets excused (fun _ => True) (ensurePairs what lhs rhs (lefts.zip rights)) := by
  apply Meets.checkAll
  rintro ⟨l, r⟩ member
  have inside := List.of_mem_zip member
  apply Meets.bind_ok (leftDims l inside.1).dim_eq
  apply Meets.bind_ok (rightDims r inside.2).dim_eq
  exact Meets.ensure.weaken

theorem pairedDims_meets {left right : List Extent} (leftForm : ∀ dim ∈ left, dim.WellFormed)
    (rightForm : ∀ dim ∈ right, dim.WellFormed) (leftShape : lhs.shape = .ranked left)
    (rightShape : rhs.shape = .ranked right) (leftDims : ∀ d ∈ lefts, lhs.HasDim d)
    (rightDims : ∀ d ∈ rights, rhs.HasDim d) :
    Meets excused (fun extents => ∀ dim ∈ extents, Extent.WellFormed dim)
      (pairedDims left right (lefts.zip rights)) := by
  apply Meets.collect
  rintro ⟨l, r⟩ member
  have inside := List.of_mem_zip member
  obtain ⟨nonneg, below⟩ := (leftDims l inside.1).inside leftShape
  obtain ⟨nonneg', below'⟩ := (rightDims r inside.2).inside rightShape
  apply (Meets.itemAt leftForm nonneg below).bind
  intro a _ formed
  apply (Meets.itemAt rightForm nonneg' below').bind
  intro b _ formed'
  exact formed.refine formed'

end Pairs

theorem contract_meets {lhs rhs : Tensor} {dims : DotDims} (left : lhs.WellFormed)
    (right : rhs.WellFormed)
    (leftDims : ∀ d ∈ dims.lhsBatching ++ dims.lhsContracting, lhs.HasDim d)
    (rightDims : ∀ d ∈ dims.rhsBatching ++ dims.rhsContracting, rhs.HasDim d) :
    Meets excused Tensor.WellFormed (contract lhs rhs dims) := by
  obtain ⟨leftBatching, leftContracting⟩ := List.forall_mem_append.mp leftDims
  obtain ⟨rightBatching, rightContracting⟩ := List.forall_mem_append.mp rightDims
  unfold contract
  split
  · rename_i leftExtents rightExtents leftShape rightShape
    have leftForm := Shape.wellFormed_ranked.mp (leftShape ▸ left.shape)
    have rightForm := Shape.wellFormed_ranked.mp (rightShape ▸ right.shape)
    have extents : Meets excused (fun extents => ∀ dim ∈ extents, Extent.WellFormed dim)
        (resultDims leftExtents rightExtents dims) := by
      apply (pairedDims_meets leftForm rightForm leftShape rightShape leftBatching
        rightBatching).bind
      intro batch _ formed
      refine List.forall_mem_append.mpr ⟨List.forall_mem_append.mpr ⟨formed, ?_⟩, ?_⟩
      · exact Extent.WellFormed.without leftForm _
      · exact Extent.WellFormed.without rightForm _
    apply (ensurePairs_meets _ leftBatching rightBatching).andThen
    apply (ensurePairs_meets _ leftContracting rightContracting).andThen
    apply extents.bind
    intro dims _ formed
    exact ⟨left.isElement, left.element, Shape.wellFormed_ranked.mpr formed⟩
  · exact left.unranked

theorem infer_meets {op : DotGeneral} (lhs : op.lhs.WellFormed) (rhs : op.rhs.WellFormed)
    (dimensions : op.dimensions.isSome = true) (precision : PrecisionGiven op.precision)
    (result : ∀ t ∈ op.result, t.WellFormed) : Meets excused FormedAll op.infer := by
  obtain ⟨dims, found⟩ := Option.isSome_iff_exists.mp dimensions
  apply (needTensor_meets lhs _).bind
  intro lhs _ left
  apply (needTensor_meets rhs _).bind
  intro rhs _ right
  apply (verifyPrecision_meets precision).andThen
  apply Meets.bind_ok (needPart_eq_ok.mpr found)
  apply Meets.ensure.andThen
  apply Meets.ensure.andThen
  apply (verifySide_meets lhs ..).bind
  intro _ _ leftDims
  apply (verifySide_meets rhs ..).bind
  intro _ _ rightDims
  apply (contract_meets left right leftDims rightDims).bind
  intro inferred _ form
  exact settled_meets form result _

end DotGeneral

end Op

end TensorTyping
