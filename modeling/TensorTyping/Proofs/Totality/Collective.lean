import TensorTyping.Op.Collective
import TensorTyping.Proofs.Collective.ReplicaGroups
import TensorTyping.Proofs.Totality.Reduction

/-!
# Collectives without misuse

The collectives divide extents by counts that their replica groups show to be positive: a valid grid
has a group with an id, and no id is a padding.
-/

namespace TensorTyping

open Check

variable {excused : Misuse → Prop}

/-! ### Replica groups -/

namespace ReplicaGroups

theorem violations_eq {rows : List (List Int)} (sameSize : Bool) (expected : Payload)
    (present : rows ≠ []) :
    ∃ entries, violations sameSize expected rows = .ok entries := by
  rw [violations, unevenness?_eq present]
  exact ⟨_, rfl⟩

/-- The largest of valid groups of one size has an id. -/
theorem groupSize_of_verifyRows {rows valid : List (List Int)} {expected : Payload}
    (success : verifyRows rows true expected = .ok valid) :
    ∃ size, groupSize valid = .ok size ∧ 0 < size := by
  unfold verifyRows at success
  split at success
  · simp at success
  · rename_i nonempty
    have ids : rows.flatMap (idsOf true) ≠ [] := by simpa using nonempty
    obtain ⟨entries, found, success⟩ := bind_eq_ok.mp success
    split at success
    · obtain rfl := Except.ok.inj success
      rw [violations, unevenness?_eq (ne_nil_of_ids ids), if_pos rfl, ok_bind, pure_eq,
        Except.ok.injEq] at found
      simp only [List.append_eq_nil_iff, Option.toList_eq_nil_iff, sizeViolation?_eq_none,
        idViolation?_eq_none] at found
      obtain ⟨⟨alike, perm⟩, -⟩ := found
      obtain ⟨size, found, positive, -⟩ := @groupSize_of_equalSizes .none rows ids alike perm
      exact ⟨size, found, positive⟩
    · simp at success

theorem verify_meets {groups : Payload} (timed : groups.TimedIsExcused excused) (sameSize : Bool)
    (expected : Payload) :
    Meets excused (fun valid => ∃ rows, verifyRows rows sameSize expected = .ok valid)
      (verify groups sameSize expected) := by
  apply (Payload.decodeRows_meets timed).bind
  intro rows _ _
  cases rows with
  | none => trivial
  | some rows =>
    have checked : Meets excused (fun _ => True) (verifyRows rows sameSize expected) := by
      unfold verifyRows
      split
      · trivial
      · rename_i nonempty
        have ids : rows.flatMap (idsOf sameSize) ≠ [] := by simpa using nonempty
        obtain ⟨entries, found⟩ := violations_eq sameSize expected (ne_nil_of_ids ids)
        apply Meets.bind_ok found
        cases entries <;> trivial
    apply checked.mono
    intro valid success _
    exact ⟨rows, success⟩

end ReplicaGroups

/-! ### Collectives -/

namespace Op

open Ty

theorem reduceScalar_meets {operand : Tensor} {computation : Option Region}
    (given : Region.Given computation) (operation : String) :
    Meets excused Tensor.WellFormed (reduceScalar operand computation operation) := by
  apply (Reducer.verify_meets given (Payload.integral_int _)).bind
  rintro accumulators _ ⟨formed, count⟩
  have one : accumulators.length = 1 := count
  exact Meets.itemAt formed (Int.le_refl 0) (by omega)

theorem AllReduce.infer_meets {op : AllReduce} (operand : op.operand.WellFormed)
    (computation : Region.Given op.computation) (timed : op.groups.TimedIsExcused excused) :
    Meets excused FormedAll op.infer := by
  apply (needTensor_meets operand _).bind
  intro operand _ form
  apply (ReplicaGroups.verify_meets timed false .null).andThen
  apply (reduceScalar_meets computation _).bind
  intro accumulator _ accumulatorForm
  exact .single (accumulatorForm.withShape form.shape)

/-! ### Exchanges -/

/-- An extent within the rank may be replaced by one that is well-formed again. -/
theorem replaceKnown_meets {dims : List Extent} {index : Int} {replace : Int → Check Int}
    (all : ∀ dim ∈ dims, dim.WellFormed) (nonneg : 0 ≤ index) (inside : index < dims.length)
    (image : ∀ n, 0 ≤ n → Meets excused (fun m => 0 ≤ m) (replace n)) :
    Meets excused (fun result => result.length = dims.length ∧ ∀ dim ∈ result, dim.WellFormed)
      (replaceKnown dims index replace) := by
  apply (Meets.itemAt all nonneg inside).bind
  intro dim _ form
  cases dim with
  | none => exact ⟨rfl, all⟩
  | some n =>
    apply (image n (Extent.wellFormed_some.mp form)).bind
    intro m _ formed
    apply (Meets.setItem all (Extent.wellFormed_some.mpr formed) nonneg inside).mono
    intro result success formed
    exact ⟨length_of_setItem success, formed⟩

theorem exchangedDims_meets {dims : List Extent} {split concat count : Int}
    (all : ∀ dim ∈ dims, dim.WellFormed) (splitInside : 0 ≤ split ∧ split < dims.length)
    (concatInside : 0 ≤ concat ∧ concat < dims.length) (positive : 0 < count) :
    Meets excused (fun result => ∀ dim ∈ result, Extent.WellFormed dim)
      (exchangedDims dims split concat count) := by
  apply (replaceKnown_meets all splitInside.1 splitInside.2 ?divided).bind
  · rintro divided _ ⟨length, formed⟩
    rw [← length] at concatInside
    apply (replaceKnown_meets formed concatInside.1 concatInside.2 ?multiplied).mono
    · intro result _ formed
      exact formed.2
    · intro n nonneg
      exact Int.mul_nonneg nonneg (Int.le_of_lt positive)
  · intro n nonneg
    rw [floorDiv_of_pos positive]
    exact Int.ediv_nonneg nonneg (Int.le_of_lt positive)

theorem AllToAll.ensureDimension_meets {dimension : Payload} {d : Int} (rank : Nat) (name : String)
    (value : dimension.needInt = .ok d) :
    Meets excused (fun _ => 0 ≤ d ∧ d < rank) (ensureDimension rank name dimension) := by
  apply (Payload.isWithin_meets value 0 rank).bind
  intro inRange _ inside
  exact Meets.ensure.mono fun _ _ => inside

theorem AllToAll.ensureMultiple_meets {count : Payload} {n : Int} (extent : Extent)
    (value : count.needInt = .ok n) (positive : 0 < n) :
    Meets excused (fun _ => True) (ensureMultiple extent count) := by
  unfold ensureMultiple
  split
  · trivial
  · apply Meets.bind_ok (Payload.divides_of_needInt value positive _)
    exact Meets.ensure.weaken

theorem exchange_meets {operand : Tensor} {dims : List Extent} {split concat : Int}
    {count : Payload} {n : Int} (form : operand.WellFormed) (all : ∀ dim ∈ dims, dim.WellFormed)
    (splitInside : 0 ≤ split ∧ split < dims.length)
    (concatInside : 0 ≤ concat ∧ concat < dims.length) (value : count.needInt = .ok n)
    (positive : 0 < n) :
    Meets excused Tensor.WellFormed (exchange operand dims split concat count) := by
  unfold exchange
  split
  · cases value
  · apply Meets.bind_ok value
    apply (exchangedDims_meets all splitInside concatInside positive).bind
    intro exchanged _ formed
    exact Tensor.form_meets form.isElement form.element (Shape.wellFormed_ranked.mpr formed)

theorem AllToAll.infer_meets {op : AllToAll} (operand : op.operand.WellFormed)
    (splitDimension : op.splitDimension.Integral) (concatDimension : op.concatDimension.Integral)
    (splitCount : op.splitCount.Integral) (timed : op.groups.TimedIsExcused excused) :
    Meets excused FormedAll op.infer := by
  obtain ⟨count, value⟩ := splitCount
  obtain ⟨split, splitValue⟩ := splitDimension
  obtain ⟨concat, concatValue⟩ := concatDimension
  apply (needTensor_meets operand _).bind
  intro operand _ form
  apply Meets.bind_ok (Payload.test_of_needInt value _ _)
  apply Meets.ensure_bind
  intro positive
  rw [Bool.not_eq_true', decide_eq_false_iff_not, Int.not_le] at positive
  apply (ReplicaGroups.verify_meets timed true op.splitCount).andThen
  split
  · exact .single form.ty
  · rename_i dims shape
    have extents := form.shape dims shape
    apply (ensureDimension_meets dims.length _ splitValue).bind
    intro _ _ splitInside
    apply (ensureDimension_meets dims.length _ concatValue).bind
    intro _ _ concatInside
    apply Meets.bind_ok splitValue
    apply (Meets.itemAt extents splitInside.1 splitInside.2).bind
    intro extent _ _
    apply (ensureMultiple_meets _ value positive).andThen
    apply Meets.bind_ok concatValue
    apply (exchange_meets form extents splitInside concatInside value positive).bind
    intro t _ form
    exact .single form.ty

/-! ### Reductions that are spread -/

theorem ReduceScatter.spreadExtent_meets {n : Int} {size : Nat} (nonneg : 0 ≤ n)
    (positive : 0 < size) : Meets excused (fun m => 0 ≤ m) (spreadExtent n size) := by
  have divisor : 0 < (size : Int) := Int.natCast_pos.mpr positive
  apply Meets.bind_ok (floorMod_of_pos divisor n)
  apply Meets.ensure.andThen
  rw [floorDiv_of_pos divisor]
  exact Int.ediv_nonneg nonneg (Int.natCast_nonneg size)

theorem ReduceScatter.spread_meets {op : ReduceScatter} {element : Ty} {shape : Shape}
    {rows : List (List Int)} {size : Nat} (isElement : element.isElement = true)
    (elementForm : element.WellFormed) (shapeForm : shape.WellFormed)
    (number : op.scatterDimension.Integral) (group : ReplicaGroups.groupSize rows = .ok size)
    (positive : 0 < size) : Meets excused Tensor.WellFormed (op.spread element shape rows) := by
  obtain ⟨dimension, value⟩ := number
  unfold spread
  split
  · exact ⟨isElement, elementForm, Shape.wellFormed_unranked⟩
  · rename_i dims
    rw [Shape.wellFormed_ranked] at shapeForm
    apply Meets.ensure.andThen
    apply (Payload.isWithin_meets value 0 dims.length).bind
    intro inRange _ inside
    apply Meets.ensure_bind
    intro within
    obtain ⟨nonneg, below⟩ := inside within
    apply Meets.bind_ok group
    apply Meets.bind_ok value
    apply (replaceKnown_meets shapeForm nonneg below fun n nonneg =>
      spreadExtent_meets nonneg positive).bind
    rintro divided _ ⟨-, formed⟩
    exact Tensor.form_meets isElement elementForm (Shape.wellFormed_ranked.mpr formed)

theorem ReduceScatter.infer_meets {op : ReduceScatter} (operand : op.operand.WellFormed)
    (scatterDimension : op.scatterDimension.Integral) (computation : Region.Given op.computation)
    (result : ∀ t ∈ op.result, t.WellFormed) (timed : op.groups.TimedIsExcused excused) :
    Meets excused FormedAll op.infer := by
  apply (needTensor_meets operand _).bind
  intro operand _ form
  apply (scatterDimension.numeric.test _ _).bind
  intro negative _ _
  apply Meets.ensure.andThen
  apply (ReplicaGroups.verify_meets timed true .null).bind
  intro rows _ valid
  obtain ⟨given, checked⟩ := valid
  obtain ⟨size, group, positive⟩ := ReplicaGroups.groupSize_of_verifyRows checked
  apply (reduceScalar_meets computation _).bind
  intro accumulator _ accumulatorForm
  apply (spread_meets accumulatorForm.isElement accumulatorForm.element form.shape
    scatterDimension group positive).bind
  intro inferred _ inferredForm
  exact settled_meets inferredForm result _

/-- A row that is a pair can be taken apart. -/
theorem verifyPairs_meets {sources targets : List Int} {pairs : List (List Int)}
    (all : ∀ row ∈ pairs, (row.length : Int) = 2) :
    Meets excused (fun _ => True) (verifyPairs sources targets pairs) := by
  fun_induction verifyPairs sources targets pairs with
  | case1 sources targets source target rest ih =>
    apply Meets.ensure.andThen
    apply Meets.ensure.andThen
    apply Meets.ensure.andThen
    exact ih (List.forall_mem_cons.mp all).2
  | case2 sources targets row rest other =>
    have pair := Int.ofNat_inj.mp (List.forall_mem_cons.mp all).1
    obtain ⟨source, target, rfl⟩ := List.length_eq_two.mp pair
    exact absurd rfl (other source target)
  | case3 => trivial

theorem inferCollectivePermute_meets {operand : Ty} {pairs : Payload} (form : operand.WellFormed)
    (timed : pairs.TimedIsExcused excused) :
    Meets excused FormedAll (inferCollectivePermute operand pairs) := by
  apply (needTensor_meets form _).bind
  intro operand _ form
  apply (Payload.decodeTable_meets timed _ 2).bind
  intro rows _ width
  apply (verifyPairs_meets width).andThen
  exact .single form.ty

end Op

end TensorTyping
