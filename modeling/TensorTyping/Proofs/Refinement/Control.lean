import TensorTyping.Op.Control
import TensorTyping.Proofs.Refinement.Types

/-!
# Refinement of control flow

Branches, loops and tuples give refined results when the types of their operands and of their
regions are refined.
-/

namespace TensorTyping

open Check (Carries)

/-- The types that flow into the region and out of it are refined. -/
structure Region.Refines (fine coarse : Region) : Prop where
  arguments : Ty.RefinesAll fine.arguments coarse.arguments
  results : Ty.RefinesAll fine.results coarse.results

namespace Ty

/-! ### Lists of lists of types -/

theorem map_length_of_refines {lists' lists : List (List Ty)}
    (all : List.Forall₂ RefinesAll lists' lists) :
    lists'.map List.length = lists.map List.length := by
  induction all with
  | nil => rfl
  | cons first _ ih => rw [List.map_cons, List.map_cons, first.length_eq, ih]

theorem unifyLists_carries {lists' lists : List (List Ty)} (what : String)
    (all : List.Forall₂ RefinesAll lists' lists) :
    Carries RefinesAll (unifyLists lists' what) (unifyLists lists what) := by
  unfold unifyLists
  dsimp only
  rw [map_length_of_refines all]
  refine (Carries.ensure id).bind ?_
  intro _ _ _
  refine .collect_same fun i _ => ?_
  refine (Carries.collect all fun _ _ types => .itemAt types i).bind ?_
  intro _ _ column
  exact unifyList_carries column

end Ty

namespace Op

/-! ### Branches -/

theorem verifyScalar_carries {operand' operand : Ty} (h : operand'.Refines operand) (element : Ty)
    (what : String) :
    Carries (fun _ _ => True) (verifyScalar operand' element what)
      (verifyScalar operand element what) := by
  refine (h.needTensor _ _).bind ?_
  intro t' t ht
  refine (Carries.ensure ?_).mono fun _ _ _ => trivial
  rintro ⟨same, scalar⟩
  rw [Ty.same_congr ht.element (Ty.same_refl element)] at same
  exact ⟨same, ht.hasOtherRank scalar⟩

theorem needBranches_carries {branches' branches : List (Option Region)} (what : String)
    (all : List.Forall₂ (Option.Rel Region.Refines) branches' branches) :
    Carries (List.Forall₂ Region.Refines) (needBranches what branches')
      (needBranches what branches) := by
  refine .collect (Check.forall₂_zipIdx all 0) ?_
  rintro ⟨branch', i⟩ ⟨branch, j⟩ ⟨h, rfl⟩
  refine (Carries.needPart h).bind ?_
  intro region' region hregion
  refine (Carries.ensure ?_).bind ?_
  · rw [List.isEmpty_iff_length_eq_zero, List.isEmpty_iff_length_eq_zero,
      hregion.arguments.length_eq]
    exact id
  intro _ _ _
  exact .pure hregion

theorem unifyBranches_carries {branches' branches : List (Option Region)}
    (all : List.Forall₂ (Option.Rel Region.Refines) branches' branches) :
    Carries Ty.RefinesAll (unifyBranches branches') (unifyBranches branches) := by
  refine (needBranches_carries _ all).bind ?_
  intro regions' regions hregions
  refine Ty.unifyLists_carries _ ?_
  rw [List.forall₂_map_left_iff, List.forall₂_map_right_iff]
  exact hregions.imp fun _ _ h => h.results

theorem If.infer_carries {pred' pred : Ty} {onTrue' onTrue onFalse' onFalse : Option Region}
    (hpred : pred'.Refines pred) (htrue : Option.Rel Region.Refines onTrue' onTrue)
    (hfalse : Option.Rel Region.Refines onFalse' onFalse) :
    Carries Ty.RefinesAll (infer ⟨pred', onTrue', onFalse'⟩) (infer ⟨pred, onTrue, onFalse⟩) := by
  refine (verifyScalar_carries hpred _ _).bind ?_
  intro _ _ _
  exact unifyBranches_carries (.cons htrue (.cons hfalse .nil))

theorem inferCase_carries {index' index : Ty} {branches' branches : List (Option Region)}
    (hindex : index'.Refines index)
    (all : List.Forall₂ (Option.Rel Region.Refines) branches' branches) :
    Carries Ty.RefinesAll (inferCase index' branches') (inferCase index branches) := by
  refine (verifyScalar_carries hindex _ _).bind ?_
  intro _ _ _
  refine (Carries.ensure ?_).bind ?_
  · cases all with
    | nil => exact id
    | cons => exact id
  intro _ _ _
  exact unifyBranches_carries all

/-! ### Loops -/

theorem verifyCarried_eq_ok {actual expected : List Ty} {what : String} {u : Unit} :
    verifyCarried actual expected what = .ok u ↔
      List.Forall₂ (fun a e => Ty.compatible false a e = true) actual expected := by
  simp only [verifyCarried, Check.bind_eq_ok, Check.ensure_eq_ok, Check.checkEach_eq_ok,
    List.forall₂_iff_zip]
  constructor
  · rintro ⟨-, lengths, all⟩
    refine ⟨lengths, ?_⟩
    intro a e member
    obtain ⟨i, found⟩ := List.mem_iff_getElem?.mp member
    obtain ⟨_, success, rfl⟩ := all i (a, e) found
    exact Ty.checkCompatible_eq_ok_true.mp success
  · rintro ⟨lengths, all⟩
    refine ⟨(), lengths, ?_⟩
    rintro i ⟨a, e⟩ found
    have agree := all (List.mem_of_getElem? found)
    exact ⟨true, Ty.checkCompatible_eq_ok_true.mpr agree, rfl⟩

theorem verifyCarried_carries {actual' actual expected' expected : List Ty} (what : String)
    (ha : Ty.RefinesAll actual' actual) (he : Ty.RefinesAll expected' expected) :
    Carries (fun _ _ => True) (verifyCarried actual' expected' what)
      (verifyCarried actual expected what) := by
  intro u success
  refine ⟨(), verifyCarried_eq_ok.mpr ?_, trivial⟩
  rw [verifyCarried_eq_ok] at success
  induction success generalizing actual expected with
  | nil =>
    cases ha
    cases he
    exact .nil
  | cons first _ ih =>
    cases ha with
    | cons head ha =>
      cases he with
      | cons head' he => exact .cons (head.compatible head' first) (ih ha he)

theorem isCondition_of_refines {t' t : Ty} (h : t'.Refines t) (condition : isCondition t' = true) :
    isCondition t = true := by
  cases h with
  | tensor element shape =>
    simp only [isCondition, Ty.tensor?, Bool.and_eq_true] at condition ⊢
    have refines : Tensor.Refines ⟨_, _⟩ ⟨_, _⟩ := ⟨element, shape⟩
    refine ⟨refines.hasOtherRank condition.1, ?_⟩
    rw [← Ty.same_congr element (Ty.same_refl _)]
    exact condition.2
  | element isElement => simp [isCondition, Ty.tensor?_of_isElement isElement] at condition
  | _ => simp [isCondition, Ty.tensor?] at condition

theorem verifyCondition_carries {operands' operands : List Ty} {cond' cond : Region}
    (h : Ty.RefinesAll operands' operands) (hcond : cond'.Refines cond) :
    Carries (fun _ _ => True) (verifyCondition operands' cond')
      (verifyCondition operands cond) := by
  obtain ⟨arguments', results'⟩ := cond'
  obtain ⟨arguments, results⟩ := cond
  obtain ⟨harguments, hresults⟩ := hcond
  refine (verifyCarried_carries _ harguments h).bind ?_
  intro _ _ _
  cases hresults with
  | nil => exact .of_reject _ _ _
  | cons first rest =>
    cases rest with
    | nil => exact (Carries.ensure (isCondition_of_refines first)).mono fun _ _ _ => trivial
    | cons => exact .of_reject _ _ _

theorem While.infer_carries {operands' operands : List Ty} {cond' cond body' body : Option Region}
    (h : Ty.RefinesAll operands' operands) (hcond : Option.Rel Region.Refines cond' cond)
    (hbody : Option.Rel Region.Refines body' body) :
    Carries Ty.RefinesAll (infer ⟨operands', cond', body'⟩) (infer ⟨operands, cond, body⟩) := by
  refine (Carries.needPart hcond).bind ?_
  intro c' c hc
  refine (verifyCondition_carries h hc).bind ?_
  intro _ _ _
  refine (Carries.needPart hbody).bind ?_
  intro b' b hb
  refine (verifyCarried_carries _ hb.arguments h).bind ?_
  intro _ _ _
  refine (verifyCarried_carries _ hb.results h).bind ?_
  intro _ _ _
  exact Ty.unifyLists_carries _ (.cons h (.cons hb.results .nil))

/-! ### Tuples and tokens -/

theorem inferGetTupleElement_carries {operand' operand : Ty} (index : Payload)
    (h : operand'.Refines operand) :
    Carries Ty.RefinesAll (inferGetTupleElement operand' index)
      (inferGetTupleElement operand index) := by
  cases h with
  | @tuple items' items all =>
    unfold inferGetTupleElement
    dsimp only
    rw [all.length_eq]
    apply Carries.bind_same
    intro inRange _
    refine (Carries.ensure id).bind ?_
    intro _ _ _
    apply Carries.bind_same
    intro i _
    refine (Carries.itemAt all i).bind ?_
    intro _ _ refines
    exact .pure (.cons refines .nil)
  | element isElement => cases operand' <;> simp at isElement <;> exact .of_reject _ _ _
  | _ => exact .of_reject _ _ _

theorem isValue_of_refines {t' t : Ty} (h : t'.Refines t) (value : isValue t' = true) :
    isValue t = true := by
  cases h with
  | element isElement => cases t' <;> simp_all [isValue]
  | missing => exact value
  | _ => rfl

theorem inferReturn_carries {values' values : List Ty} (all : Ty.RefinesAll values' values) :
    Carries Ty.RefinesAll (inferReturn values') (inferReturn values) := by
  refine (Carries.checkEach all ?_).bind ?_
  · intro i t' t h
    exact (Carries.ensure (isValue_of_refines h)).mono fun _ _ _ => trivial
  intro _ _ _
  exact .pure .nil

theorem isToken_of_refines {t' t : Ty} (h : t'.Refines t) (token : isToken t' = true) :
    isToken t = true := by
  cases h with
  | element isElement => cases t' <;> simp_all [isToken]
  | token => rfl
  | _ => exact token

theorem inferToken_carries {values' values : List Ty} (what : String)
    (all : Ty.RefinesAll values' values) :
    Carries Ty.RefinesAll (inferToken values' what) (inferToken values what) := by
  refine (Carries.checkEach all ?_).bind ?_
  · intro i t' t h
    exact (Carries.ensure (isToken_of_refines h)).mono fun _ _ _ => trivial
  intro _ _ _
  exact .pure (.cons .token .nil)

end Op

end TensorTyping
