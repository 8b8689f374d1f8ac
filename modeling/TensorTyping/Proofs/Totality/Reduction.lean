import TensorTyping.Op.Reduction
import TensorTyping.Proofs.Totality.Control

/-!
# Reductions without misuse

A reduction body that is there has as many accumulators as there are inputs, and they are
well-formed.
-/

namespace TensorTyping

open Check

variable {excused : Misuse → Prop}

/-! ### Reduction bodies -/

namespace Reducer

/-- The operand parameter is found to be compatible with a tensor before its parts are read. -/
theorem verifyPosition_meets (context : Context) (count i : Nat) (p : Position) :
    Meets excused (fun _ => True) (verifyPosition context count i p) := by
  apply Meets.ensure.andThen
  apply Meets.ensure_bind
  intro agree
  apply Meets.ensure.andThen
  obtain ⟨operand, found⟩ := Tensor.exists_of_compatible agree
  apply Meets.bind_ok (needPart_eq_ok.mpr (Ty.tensor?_eq_some.mpr found))
  apply Meets.ensure.andThen
  unfold verifyKept
  split
  · exact Meets.ensure.weaken
  · trivial

/-- Every position below the number of inputs has its types. -/
theorem position_meets {results : List Tensor} {parameters inits inputs : List Ty} {count i : Nat}
    (below : i < count) (resultCount : results.length = count)
    (parameterCount : parameters.length = 2 * count) (initCount : inits.length = count)
    (inputCount : inputs.length = count) :
    Meets excused (fun _ => True) (position results parameters inits inputs count i) := by
  apply (Meets.itemAt (fun _ _ => trivial) (Int.natCast_nonneg i) (by omega)).bind
  intro result _ _
  apply (Meets.itemAt (fun _ _ => trivial) (Int.natCast_nonneg i) (by omega)).bind
  intro accumulator _ _
  apply (Meets.itemAt (fun _ _ => trivial) (by omega) (by omega)).bind
  intro operand _ _
  apply (Meets.itemAt (fun _ _ => trivial) (Int.natCast_nonneg i) (by omega)).bind
  intro init _ _
  apply (Meets.itemAt (fun _ _ => trivial) (Int.natCast_nonneg i) (by omega)).bind
  intro input _ _
  trivial

theorem tensorResults_meets {results : List Ty} (all : Ty.FormedAll results) :
    Meets excused (fun tensors => ∀ t ∈ tensors, t.WellFormed) (tensorResults results) := by
  apply Meets.collect
  intro result member
  have form := all result member
  cases result with
  | tensor element shape => exact form.tensor? rfl
  | _ => trivial

theorem verify_meets {region : Option Region} {context : Context} (given : Region.Given region)
    (number : context.count.Integral) :
    Meets excused (fun accumulators => (∀ t ∈ accumulators, t.WellFormed) ∧
      accumulators.length = context.inputs.length) (verify region context) := by
  obtain ⟨body, found, form⟩ := given
  obtain ⟨twice, product⟩ := number.times 2
  obtain ⟨n, value⟩ := number
  apply Meets.ensure_bind
  rintro ⟨inputCount, initCount⟩
  rw [Payload.isInt_of_needInt value, decide_eq_true_eq] at inputCount initCount
  apply Meets.bind_ok (needPart_eq_ok.mpr found)
  apply Meets.bind_ok product
  apply Meets.ensure_bind
  intro parameterCount
  apply Meets.ensure_bind
  intro length
  apply (tensorResults_meets form.results).bind
  intro accumulators collected formed
  have resultCount := (length_of_collect collected).trans length
  apply Meets.bind_ok value
  have read : ∀ i ∈ List.range context.inputs.length, Meets excused (fun _ => True)
      (position accumulators body.arguments context.inits context.inputs
        context.inputs.length i) := fun i inside =>
    position_meets (List.mem_range.mp inside) resultCount parameterCount (by omega) rfl
  apply (Meets.collect read).bind
  intro positions _ _
  apply (Meets.checkEach fun i p _ => verifyPosition_meets context _ i p).andThen
  exact ⟨formed, resultCount⟩

end Reducer

namespace Op

open Ty

/-! ### Reductions -/

theorem unifyInputs_meets {inputs : List Tensor} (all : ∀ t ∈ inputs, t.WellFormed)
    (present : 0 < inputs.length) (what : String) :
    Meets excused Tensor.WellFormed (unifyInputs inputs what) := by
  apply (Meets.itemAt all (Int.le_refl 0) (Int.ofNat_lt.mpr present)).bind
  intro first _ form
  apply unifyTensorList_meets
  intro t member
  obtain ⟨input, inside, rfl⟩ := List.mem_map.mp member
  exact ⟨form.isElement, form.element, (all input inside).shape⟩

theorem length_pos_of_needTensor {types : List Ty} {tensors : List Tensor} {what : String}
    (present : (!types.isEmpty) = true)
    (collected : collect (Ty.needTensor · what) types = .ok tensors) : 0 < tensors.length := by
  rw [length_of_collect collected]
  cases types with
  | nil => cases present
  | cons first rest => exact Nat.succ_pos _

/-- Types that are there and well-formed. -/
def TypesGiven (types : Option (List Ty)) : Prop := ∃ given, types = some given ∧ FormedAll given

/-- Where there are initial values, there is an input, and as many of the one as of the other. -/
theorem needInits_meets {inputs : List Ty} {inits : Option (List Ty)} (given : TypesGiven inits) :
    Meets excused (fun inits => FormedAll inits ∧ (!inputs.isEmpty) = true ∧
      inits.length = inputs.length) (needInits inputs inits) := by
  obtain ⟨types, found, form⟩ := given
  apply Meets.ensure_bind
  intro present
  apply Meets.bind_ok (needItems_eq_ok.mpr found)
  apply Meets.ensure_bind
  intro count
  exact ⟨form, present, count⟩

theorem verifyScalarInits_meets (inits : List Tensor) :
    Meets excused (fun _ => True) (verifyScalarInits inits) :=
  .checkAll fun _ _ => Meets.ensure.weaken

theorem keptShape_wellFormed {shape : Shape} (form : shape.WellFormed) (reduced : List Int) :
    (keptShape shape reduced).WellFormed := by
  cases shape with
  | unranked => exact Shape.wellFormed_unranked
  | ranked dims =>
    rw [Shape.wellFormed_ranked] at form
    exact Shape.wellFormed_ranked.mpr (Extent.WellFormed.without form reduced)

theorem verifyReducedDims_meets (base : Tensor) (dims : List Int) :
    Meets excused (fun _ => True) (verifyReducedDims base dims) := by
  apply Meets.ensure.andThen
  exact Meets.checkAll fun _ _ => Meets.ensure.weaken

theorem Reduce.accumulators_meets {op : Reduce} {inits : List Tensor} (inputs : List Tensor)
    (shape : Shape) (body : ∀ r ∈ op.body, r.WellFormed) (all : ∀ t ∈ inits, t.WellFormed) :
    Meets excused (fun accumulators => ∀ t ∈ accumulators, t.WellFormed)
      (op.accumulators inputs inits shape) := by
  unfold accumulators
  split
  · exact all
  · rename_i region found
    apply (Reducer.verify_meets ⟨region, rfl, body region found⟩ (Payload.integral_int _)).mono
    intro accumulators _ formed
    exact formed.1

theorem formedAll_map {tensors : List Tensor} {shape : Shape}
    (all : ∀ t ∈ tensors, t.WellFormed) (form : shape.WellFormed) :
    FormedAll (tensors.map fun t => .tensor t.element shape) := by
  intro t member
  obtain ⟨view, inside, rfl⟩ := List.mem_map.mp member
  exact (all view inside).withShape form

theorem Reduce.infer_meets {op : Reduce} (inputs : FormedAll op.inputs)
    (inits : TypesGiven op.inits) (body : ∀ r ∈ op.body, r.WellFormed)
    (timed : op.dimensions.TimedIsExcused excused) : Meets excused FormedAll op.infer := by
  apply (needInits_meets inits).bind
  rintro inits _ ⟨initTypes, present, -⟩
  apply (collect_needTensor_meets inputs _).bind
  intro inputs collected inputsForm
  apply (collect_needTensor_meets initTypes _).bind
  intro inits _ initsForm
  apply (unifyInputs_meets inputsForm (length_pos_of_needTensor present collected) _).bind
  intro base _ baseForm
  apply (verifyScalarInits_meets inits).andThen
  apply (Payload.decodeInts_meets timed _ _).bind
  intro dims _ _
  apply (verifyReducedDims_meets base dims).andThen
  apply (accumulators_meets inputs _ body initsForm).bind
  intro accumulators _ formed
  exact formedAll_map formed (keptShape_wellFormed baseForm.shape dims)

/-! ### Maps and sorts -/

theorem verifyScalarComputation_meets {computation : Region} (inputs : List Tensor)
    (form : computation.WellFormed) :
    Meets excused (fun element => element.isElement = true ∧ element.WellFormed)
      (verifyScalarComputation inputs computation) := by
  apply Meets.ensure.andThen
  apply (Meets.checkEach fun _ _ _ => Meets.ensure.weaken).andThen
  have results := form.results
  split
  · rename_i result shown
    split
    · rename_i element
      rw [shown] at results
      cases results _ List.mem_cons_self with
      | tensor isElement elementForm _ => exact ⟨isElement, elementForm⟩
    · trivial
  · trivial

theorem MapElements.infer_meets {op : MapElements} (inputs : FormedAll op.inputs)
    (computation : Region.Given op.computation) (timed : op.dimensions.TimedIsExcused excused) :
    Meets excused FormedAll op.infer := by
  obtain ⟨region, found, form⟩ := computation
  apply Meets.ensure_bind
  intro present
  apply (collect_needTensor_meets inputs _).bind
  intro inputs collected inputsForm
  apply (unifyInputs_meets inputsForm (length_pos_of_needTensor present collected) _).bind
  intro base _ baseForm
  apply Meets.bind_ok (needPart_eq_ok.mpr found)
  apply (verifyScalarComputation_meets inputs form).bind
  intro element _ elementForm
  apply (Payload.decodeInts_meets timed _ _).bind
  intro dims _ _
  apply Meets.ensure.andThen
  exact .single (.tensor elementForm.1 elementForm.2 baseForm.shape)

theorem verifyComparator_meets (inputs : List Tensor) (comparator : Region) :
    Meets excused (fun _ => True) (verifyComparator inputs comparator) := by
  apply Meets.ensure_bind
  intro count
  refine Meets.andThen (Meets.checkEach ?each) Meets.ensure.weaken
  intro i input found
  have below := (List.getElem?_eq_some_iff.mp found).1
  apply Meets.checkAll
  intro j member
  simp only [List.mem_cons, List.not_mem_nil, or_false] at member
  apply (Meets.itemAt (fun _ _ => trivial) (Int.natCast_nonneg j) (by omega)).bind
  intro argument _ _
  exact Meets.ensure.weaken

theorem verifySortDimension_meets {dimension : Payload} (rank : Option Nat)
    (number : dimension.Integral) :
    Meets excused (fun _ => True) (verifySortDimension rank dimension) := by
  unfold verifySortDimension
  split
  · trivial
  · trivial
  · apply (number.numeric.test _ _).bind
    intro inRange _ _
    exact Meets.ensure.weaken

theorem SortTensors.infer_meets {op : SortTensors} (inputs : FormedAll op.inputs)
    (dimension : op.dimension.Integral) : Meets excused FormedAll op.infer := by
  apply Meets.ensure_bind
  intro present
  apply (collect_needTensor_meets inputs _).bind
  intro inputs collected inputsForm
  apply (unifyInputs_meets inputsForm (length_pos_of_needTensor present collected) _).bind
  intro base _ baseForm
  apply (verifySortDimension_meets _ dimension).andThen
  have results := formedAll_map inputsForm baseForm.shape
  split
  · exact results
  · apply (verifyComparator_meets inputs _).andThen
    exact results

end Op

end TensorTyping
