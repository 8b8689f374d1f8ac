import Mathlib.Data.List.GetD
import Mathlib.Data.List.Nodup
import Mathlib.Data.List.Perm.Subperm
import Mathlib.Data.List.Range
import TensorTyping.Dimensions
import TensorTyping.Proofs.Items

/-!
# The positions below a rank

The list of all positions below a rank, the lists that hold each of them once, and what a list
holds at the positions that another one names.
-/

namespace TensorTyping

namespace Dimensions

theorem mem_upTo {count : Nat} {d : Int} : d ∈ upTo count ↔ 0 ≤ d ∧ d < count := by
  simp only [upTo, List.mem_map, List.mem_range, Int.ofNat_eq_natCast]
  constructor
  · rintro ⟨i, inside, rfl⟩
    omega
  · rintro ⟨nonneg, inside⟩
    exact ⟨d.toNat, by omega, by omega⟩

@[simp] theorem length_upTo (count : Nat) : (upTo count).length = count := by
  simp [upTo]

theorem upTo_increasing (count : Nat) : (upTo count).Pairwise (· < ·) := by
  rw [upTo, List.pairwise_map]
  refine List.pairwise_lt_range.imp ?_
  intro i j less
  exact Int.ofNat_lt.mpr less

theorem map_upTo {α : Type} {items : List α} {read : Int → α}
    (reads : ∀ (i : Nat) (inside : i < items.length), read i = items[i]) :
    (upTo items.length).map read = items := by
  apply List.ext_getElem (by simp)
  intro i _ inside
  simp [upTo, reads i inside]

theorem nodup_upTo (count : Nat) : (upTo count).Nodup := (upTo_increasing count).imp Int.ne_of_lt

/-- Distinct positions below a rank are all of them when there are as many. -/
theorem perm_upTo {dims : List Int} {rank : Nat} (unique : dims.Nodup)
    (inRange : ∀ d ∈ dims, 0 ≤ d ∧ d < rank) (length : dims.length = rank) :
    dims.Perm (upTo rank) := by
  have inside : dims ⊆ upTo rank := fun d member => mem_upTo.mpr (inRange d member)
  exact (unique.subperm inside).perm_of_length_le (by rw [length_upTo, length])

theorem isPosition_some {rank : Nat} {d : Int} :
    isPosition (some rank) d = true ↔ 0 ≤ d ∧ d < rank := by
  simp [isPosition]

theorem hasDim_of_isPosition {t : Tensor} {d : Int} (inRange : isPosition t.rank? d = true) :
    t.HasDim d := by
  intro rank known
  rw [known] at inRange
  exact isPosition_some.mp inRange

theorem ensurePositions_eq_ok {dims : List Int} {rank : Option Nat} {name : String} {u : Unit} :
    ensurePositions dims rank name = .ok u ↔
      dims.Nodup ∧ ∀ d ∈ dims, isPosition rank d = true := by
  simp [ensurePositions, Check.bind_eq_ok, Check.checkAll_eq_ok]

theorem mem_of_perm {dims : List Int} {rank : Nat} (perm : dims.Perm (upTo rank)) {d : Int} :
    d ∈ dims ↔ 0 ≤ d ∧ d < rank := by
  rw [perm.mem_iff, mem_upTo]

theorem length_of_perm {dims : List Int} {rank : Nat} (perm : dims.Perm (upTo rank)) :
    dims.length = rank := by
  rw [perm.length_eq, length_upTo]

theorem isPermutation_of_perm {dims : List Int} {rank : Nat} (perm : dims.Perm (upTo rank)) :
    isPermutation dims = true := by
  have length := length_of_perm perm
  rw [isPermutation, List.all_eq_true]
  intro i inside
  rw [List.contains_iff_mem, perm.mem_iff, mem_upTo, Int.ofNat_eq_natCast]
  rw [List.mem_range, length] at inside
  omega

theorem isPermutation_iff {dims : List Int} :
    isPermutation dims = true ↔ dims.Perm (upTo dims.length) := by
  constructor
  · intro holds
    have inside : upTo dims.length ⊆ dims := by
      intro d member
      obtain ⟨i, small, rfl⟩ := List.mem_map.mp member
      exact List.contains_iff_mem.mp (List.all_eq_true.mp holds i small)
    have all := (nodup_upTo dims.length).subperm inside
    exact (all.perm_of_length_le (by rw [length_upTo])).symm
  · exact isPermutation_of_perm

/-! ### Numbers at listed positions -/

/-- The numbers that stand at the given positions of a list, in the order of the positions. -/
def select (dims positions : List Int) : List Int := positions.map fun i => dims.getD i.toNat 0

section Select

variable {dims positions : List Int} {i j : Int}

@[simp] theorem length_select (dims positions : List Int) :
    (select dims positions).length = positions.length := List.length_map _

theorem getD_mem (inside : 0 ≤ i ∧ i < dims.length) : dims.getD i.toNat 0 ∈ dims := by
  rw [List.getD_eq_getElem _ _ (by omega)]
  exact List.getElem_mem _

theorem select_subset (inRange : ∀ i ∈ positions, 0 ≤ i ∧ i < dims.length) :
    select dims positions ⊆ dims := by
  intro d member
  obtain ⟨i, listed, rfl⟩ := List.mem_map.mp member
  exact getD_mem (inRange i listed)

/-- Distinct positions of a list without repetitions hold distinct numbers. -/
theorem nodup_select (unique : dims.Nodup) (distinct : positions.Nodup)
    (inRange : ∀ i ∈ positions, 0 ≤ i ∧ i < dims.length) : (select dims positions).Nodup := by
  refine distinct.map_on fun i here j there same => ?_
  have insideI := inRange i here
  have insideJ := inRange j there
  rw [List.getD_eq_getElem _ _ (by omega), List.getD_eq_getElem _ _ (by omega),
    unique.getElem_inj_iff] at same
  omega

theorem select_upTo (dims : List Int) : select dims (upTo dims.length) = dims :=
  map_upTo fun i inside => by simp [inside]

/-- A permutation of a permutation is a permutation. -/
theorem select_perm {rank : Nat} (perm : dims.Perm (upTo rank))
    (perm' : positions.Perm (upTo rank)) : (select dims positions).Perm (upTo rank) := by
  have length := length_of_perm perm
  have moved : (select dims positions).Perm (select dims (upTo rank)) := perm'.map _
  rw [← length, select_upTo] at moved
  exact moved.trans perm

end Select

end Dimensions

end TensorTyping
