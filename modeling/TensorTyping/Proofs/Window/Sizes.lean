import TensorTyping.Proofs.Totality.Payload
import TensorTyping.Window.Decode

/-!
# The sizes of a window

Sizes take two routes. A list that holds an unknown size is taken over item by item; any other
payload is decoded as a vector of integers. On the first route nothing is decoded, so the sizes are
extents just when the items of the list are.
-/

namespace TensorTyping

open Check

namespace Window

variable {items : List Payload} {sizes : Payload}

/-! ### Two routes -/

theorem decodeSizes_of_null (unknown : .null ∈ items) :
    decodeSizes (.list items) = .ok (items.map WindowSize.ofPayload) := by
  have found : items.any Payload.isNull = true := List.any_eq_true.mpr ⟨.null, unknown, rfl⟩
  rw [decodeSizes, if_pos found]

theorem decodeSizes_of_not_null (known : ∀ items, sizes = .list items → .null ∉ items) :
    decodeSizes sizes = (sizes.decodeInts "window_dimensions").map (List.map .known) := by
  unfold decodeSizes
  split
  · rename_i items
    have absent : ¬ items.any Payload.isNull = true := by
      intro found
      obtain ⟨item, member, null⟩ := List.any_eq_true.mp found
      cases item with
      | null => exact known items rfl member
      | _ => cases null
    rw [if_neg absent]
  · rfl

theorem null_notMem_ofInts (values : List Int) :
    ∀ items, Payload.ofInts values = .list items → .null ∉ items := by
  rintro _ ⟨⟩
  simp

/-! ### Sizes that were read -/

/-- The size was read as an integer, or is unknown. -/
def IsRead (size : WindowSize) : Prop := ∀ value, size ≠ .unread value

theorem isBelowOne_of_isRead {size : WindowSize} (read : IsRead size) :
    ∃ answer, size.isBelowOne = .ok answer := by
  cases size with
  | unread value => exact absurd rfl (read value)
  | _ => exact ⟨_, rfl⟩

theorem isRead_ofPayload {item : Payload} :
    IsRead (.ofPayload item) ↔ ∃ extent, item = .ofExtent extent := by
  constructor
  · intro read
    cases item with
    | null => exact ⟨none, rfl⟩
    | int n => exact ⟨some n, rfl⟩
    | _ => exact absurd rfl (read _)
  · rintro ⟨extent, rfl⟩ value
    cases extent <;> simp [Payload.ofExtent, WindowSize.ofPayload]

/-- A size of the list is unknown, and some item is neither unknown nor an integer. -/
def HoldsUndecoded (items : List Payload) : Prop :=
  .null ∈ items ∧ ∃ item ∈ items, ∀ extent, item ≠ .ofExtent extent

theorem not_holdsUndecoded_ofExtents (values : List Extent) :
    ∀ items, Payload.ofExtents values = .list items → ¬ HoldsUndecoded items := by
  rintro _ ⟨⟩ ⟨-, item, member, undecoded⟩
  obtain ⟨extent, -, rfl⟩ := List.mem_map.mp member
  exact undecoded extent rfl

theorem not_holdsUndecoded_ofInts (values : List Int) :
    ∀ items, Payload.ofInts values = .list items → ¬ HoldsUndecoded items :=
  fun items given holds => null_notMem_ofInts values items given holds.1

/-- All sizes are read unless an item is taken over as it is. -/
theorem isRead_of_decodeSizes {sizes : Payload} {read : List WindowSize}
    (success : decodeSizes sizes = .ok read) :
    (∀ size ∈ read, IsRead size) ↔
      ∀ items, sizes = .list items → ¬ HoldsUndecoded items := by
  by_cases taken : ∃ items, sizes = .list items ∧ .null ∈ items
  · obtain ⟨items, rfl, unknown⟩ := taken
    rw [decodeSizes_of_null unknown] at success
    obtain rfl := Except.ok.inj success
    simp only [List.forall_mem_map, isRead_ofPayload]
    constructor
    · rintro extents _ ⟨⟩ ⟨-, item, member, undecoded⟩
      obtain ⟨extent, same⟩ := extents item member
      exact undecoded extent same
    · intro decoded item member
      by_contra undecoded
      exact decoded items rfl ⟨unknown, item, member, not_exists.mp undecoded⟩
  · have known : ∀ items, sizes = .list items → .null ∉ items :=
      fun items given unknown => taken ⟨items, given, unknown⟩
    rw [decodeSizes_of_not_null known] at success
    obtain ⟨values, -, rfl⟩ := map_eq_ok.mp success
    refine iff_of_true ?_ fun items given holds => known items given holds.1
    simp [IsRead]

/-- Vectors of durations are the only sizes that cannot be decoded without a diagnostic. -/
theorem decodeSizes_eq_misuse {sizes : Payload} {m : Misuse} :
    decodeSizes sizes = misuse m ↔ m = .wrongSort ∧ sizes.TimedVector := by
  by_cases taken : ∃ items, sizes = .list items ∧ .null ∈ items
  · obtain ⟨items, rfl, unknown⟩ := taken
    rw [decodeSizes_of_null unknown]
    refine iff_of_false (by simp [misuse]) ?_
    rintro ⟨-, vector⟩
    exact Payload.not_timed_of_null unknown vector.timed
  · have known : ∀ items, sizes = .list items → .null ∉ items :=
      fun items given unknown => taken ⟨items, given, unknown⟩
    rw [decodeSizes_of_not_null known, map_eq_misuse, Payload.decodeInts_eq_misuse]

theorem decodeSizes_meets {excused : Misuse → Prop} {sizes : Payload}
    (excuse : sizes.TimedVector → excused .wrongSort) :
    Meets excused (fun read => (∀ size ∈ read, IsRead size) ↔
      ∀ items, sizes = .list items → ¬ HoldsUndecoded items) (decodeSizes sizes) := by
  refine .of_outcomes (fun read success => isRead_of_decodeSizes success) fun m failed => ?_
  obtain ⟨rfl, vector⟩ := decodeSizes_eq_misuse.mp failed
  exact excuse vector

end Window

end TensorTyping
