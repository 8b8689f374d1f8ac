import Mathlib.Data.List.Nodup
import TensorTyping.Proofs.Dimensions

/-!
# Dropping dimensions

Operations that drop dimensions keep the others in order and number them anew. `Dimensions.kept` is
the list of the positions that are kept, and `Dimensions.original` leads from a new number back to
the position it stands for. Distinct positions and the kept ones make up all positions of a tensor,
and dropping dimensions in two steps is dropping them in one.
-/

namespace TensorTyping

namespace Dimensions

variable {rank : Nat} {dropped : List Int} {d e : Int}

/-! ### Kept positions -/

/-- The positions below a rank that are not dropped, in increasing order. -/
def kept (rank : Nat) (dropped : List Int) : List Int :=
  (upTo rank).filter fun d => !dropped.contains d

theorem mem_kept : d ∈ kept rank dropped ↔ (0 ≤ d ∧ d < rank) ∧ d ∉ dropped := by
  simp [kept, mem_upTo]

theorem kept_increasing (rank : Nat) (dropped : List Int) :
    (kept rank dropped).Pairwise (· < ·) :=
  (upTo_increasing rank).filter _

theorem nodup_kept (rank : Nat) (dropped : List Int) : (kept rank dropped).Nodup :=
  (kept_increasing rank dropped).imp Int.ne_of_lt

theorem kept_congr {dropped' : List Int} (same : ∀ d, d ∈ dropped ↔ d ∈ dropped') :
    kept rank dropped = kept rank dropped' := by
  apply List.filter_congr
  intro d _
  simp [same]

/-- Distinct positions and the others make up all positions. -/
theorem append_kept_perm (unique : dropped.Nodup) (inRange : ∀ d ∈ dropped, 0 ≤ d ∧ d < rank) :
    (dropped ++ kept rank dropped).Perm (upTo rank) := by
  have apart : dropped.Disjoint (kept rank dropped) := fun d gone here => (mem_kept.mp here).2 gone
  have both := List.nodup_append'.mpr ⟨unique, nodup_kept rank dropped, apart⟩
  refine (List.perm_ext_iff_of_nodup both (nodup_upTo rank)).mpr fun d => ?_
  rw [List.mem_append, mem_kept, mem_upTo]
  by_cases gone : d ∈ dropped
  · simp [gone, inRange d gone]
  · simp [gone]

/-! ### New numbers -/

/-- The position that has the number `d` once the dropped ones are left out. -/
def original (rank : Nat) (dropped : List Int) (d : Int) : Int :=
  (kept rank dropped).getD d.toNat 0

theorem original_natCast {i : Nat} (inside : i < (kept rank dropped).length) :
    original rank dropped i = (kept rank dropped)[i] := by
  simp [original, inside]

theorem map_original_upTo (rank : Nat) (dropped : List Int) :
    (upTo (kept rank dropped).length).map (original rank dropped) = kept rank dropped :=
  map_upTo fun _ inside => original_natCast inside

theorem original_mem (inside : 0 ≤ d ∧ d < (kept rank dropped).length) :
    original rank dropped d ∈ kept rank dropped := by
  rw [← map_original_upTo]
  exact List.mem_map_of_mem (mem_upTo.mpr inside)

theorem original_inj (inside : 0 ≤ d ∧ d < (kept rank dropped).length)
    (inside' : 0 ≤ e ∧ e < (kept rank dropped).length) :
    original rank dropped d = original rank dropped e ↔ d = e := by
  have unique := nodup_kept rank dropped
  rw [← map_original_upTo] at unique
  constructor
  · exact List.inj_on_of_nodup_map unique (mem_upTo.mpr inside) (mem_upTo.mpr inside')
  · rintro rfl
    rfl

section Later

variable {later : List Int} (inRange : ∀ d ∈ later, 0 ≤ d ∧ d < (kept rank dropped).length)

include inRange

/-- What is dropped in two steps is distinct when it is in each of them. -/
theorem nodup_append_original (unique : dropped.Nodup) (laterUnique : later.Nodup) :
    (dropped ++ later.map (original rank dropped)).Nodup := by
  refine List.nodup_append'.mpr ⟨unique, laterUnique.map_on fun d here e there same => ?_, ?_⟩
  · exact (original_inj (inRange d here) (inRange e there)).mp same
  · intro d gone member
    obtain ⟨e, here, rfl⟩ := List.mem_map.mp member
    exact (mem_kept.mp (original_mem (inRange e here))).2 gone

theorem inRange_append_original (dropsInRange : ∀ d ∈ dropped, 0 ≤ d ∧ d < rank) :
    ∀ d ∈ dropped ++ later.map (original rank dropped), 0 ≤ d ∧ d < rank := by
  refine List.forall_mem_append.mpr ⟨dropsInRange, List.forall_mem_map.mpr fun d here => ?_⟩
  exact (mem_kept.mp (original_mem (inRange d here))).1

/-- Dropping some of the positions that are kept leaves those that are dropped in neither step. -/
theorem map_original_kept :
    (kept (kept rank dropped).length later).map (original rank dropped) =
      kept rank (dropped ++ later.map (original rank dropped)) := by
  have unnumbered : ∀ d ∈ upTo (kept rank dropped).length,
      (!later.contains d) =
        !(later.map (original rank dropped)).contains (original rank dropped d) := by
    intro d member
    have inside := mem_upTo.mp member
    have listed : original rank dropped d ∈ later.map (original rank dropped) ↔ d ∈ later := by
      rw [List.mem_map]
      constructor
      · rintro ⟨e, here, same⟩
        rwa [← (original_inj (inRange e here) inside).mp same]
      · exact fun here => ⟨d, here, rfl⟩
    simp [listed]
  calc (kept (kept rank dropped).length later).map (original rank dropped)
    _ = ((upTo (kept rank dropped).length).map (original rank dropped)).filter
          fun d => !(later.map (original rank dropped)).contains d := by
        rw [List.filter_map, kept, List.filter_congr unnumbered]
        rfl
    _ = kept rank (dropped ++ later.map (original rank dropped)) := by
        rw [map_original_upTo, kept, List.filter_filter, kept]
        apply List.filter_congr
        intro d _
        simp [Bool.and_comm]

end Later

end Dimensions

/-! ### Extents at listed positions -/

namespace Shape

variable {dims : List Extent} {positions : List Int}

/-- The extents at the given positions, in their order. -/
def pick (dims : List Extent) (positions : List Int) : List Extent :=
  positions.map fun d => dims[d.toNat]?.join

@[simp] theorem length_pick : (pick dims positions).length = positions.length := List.length_map _

/-- Reading positions that are there one after another picks their extents. -/
theorem collect_itemAt_eq_ok (inRange : ∀ d ∈ positions, 0 ≤ d ∧ d < dims.length) :
    collect (itemAt dims) positions = .ok (pick dims positions) :=
  Check.collect_eq_map fun d member => itemAt_eq_join (inRange d member).1 (inRange d member).2

theorem pick_append (dims : List Extent) (positions positions' : List Int) :
    pick dims (positions ++ positions') = pick dims positions ++ pick dims positions' :=
  List.map_append

theorem pick_upTo (dims : List Extent) : pick dims (Dimensions.upTo dims.length) = dims :=
  Dimensions.map_upTo fun i inside => by simp [inside]

theorem pick_replicate_none (count : Nat) (positions : List Int) :
    pick (List.replicate count none) positions = List.replicate positions.length none := by
  rw [List.eq_replicate_iff, length_pick]
  refine ⟨rfl, fun dim member => ?_⟩
  obtain ⟨d, -, rfl⟩ := List.mem_map.mp member
  rw [List.getElem?_replicate]
  split <;> rfl

theorem without_eq_pick (dims : List Extent) (positions : List Int) :
    without dims positions = pick dims (Dimensions.kept dims.length positions) := by
  have numbers : dims.zipIdx.map (fun dim => Int.ofNat dim.2) = Dimensions.upTo dims.length := by
    rw [Dimensions.upTo, List.range_eq_range', ← List.zipIdx_map_snd 0 dims, List.map_map]
    rfl
  rw [without, Dimensions.kept, pick, ← numbers, List.filter_map, List.map_map]
  apply List.map_congr_left
  rintro ⟨dim, i⟩ member
  have found := List.mk_mem_zipIdx_iff_getElem?.mp (List.mem_of_mem_filter member)
  simp [found]

theorem length_without (dims : List Extent) (positions : List Int) :
    (without dims positions).length = (Dimensions.kept dims.length positions).length := by
  rw [without_eq_pick, length_pick]

theorem without_congr {positions' : List Int} (same : ∀ d, d ∈ positions ↔ d ∈ positions') :
    without dims positions = without dims positions' := by
  rw [without_eq_pick, without_eq_pick, Dimensions.kept_congr same]

/-- Distinct positions of a tensor and the others hold all of its extents. -/
theorem pick_append_without_perm (unique : positions.Nodup)
    (inRange : ∀ d ∈ positions, 0 ≤ d ∧ d < dims.length) :
    (pick dims positions ++ without dims positions).Perm dims := by
  have all := (Dimensions.append_kept_perm unique inRange).map fun d => dims[d.toNat]?.join
  rw [List.map_append] at all
  rw [without_eq_pick]
  exact all.trans (.of_eq (pick_upTo dims))

/-- Extents that are picked from picked ones. -/
theorem pick_pick {positions' : List Int}
    (inRange : ∀ d ∈ positions', 0 ≤ d ∧ d < positions.length) :
    pick (pick dims positions) positions' = pick dims (Dimensions.select positions positions') := by
  simp only [pick, Dimensions.select, List.map_map]
  apply List.map_congr_left
  intro d member
  have bounds := inRange d member
  have inside : d.toNat < positions.length := by omega
  simp [inside]

theorem pick_kept {dropped : List Int}
    (inRange : ∀ d ∈ positions, 0 ≤ d ∧ d < (Dimensions.kept dims.length dropped).length) :
    pick (without dims dropped) positions =
      pick dims (positions.map (Dimensions.original dims.length dropped)) := by
  rw [without_eq_pick]
  exact pick_pick inRange

/-- Dropping dimensions in two steps is dropping them in one. -/
theorem without_without {dropped later : List Int}
    (inRange : ∀ d ∈ later, 0 ≤ d ∧ d < (without dims dropped).length) :
    without (without dims dropped) later =
      without dims (dropped ++ later.map (Dimensions.original dims.length dropped)) := by
  rw [length_without] at inRange
  rw [without_eq_pick _ later, length_without, pick_kept, Dimensions.map_original_kept inRange,
    without_eq_pick]
  exact fun d member => (Dimensions.mem_kept.mp member).1

end Shape

end TensorTyping
