import TensorTyping.Proofs.Totality.Windowed
import TensorTyping.Proofs.Window.Places

/-!
# Windows from raw attributes

A window that was decoded has as many dimensions as were asked for, and its strides and dilations
are positive. Its sizes are unknown or positive integers, unless a list with an unknown size holds
something else. Such an item is not decoded but only compared with one: what is not less stays in
the window, and what has no order cannot be compared at all. Only an item that is too small, and is
looked at before, keeps it out.
-/

namespace TensorTyping

open Check

/-- The size of the window along one dimension is unknown or a positive integer, and its stride and
    its dilations are positive. -/
structure WindowDim.WellFormed (dim : WindowDim) : Prop where
  size : dim.size = .unknown ∨ ∃ n, dim.size = .known n ∧ 1 ≤ n
  stride : 1 ≤ dim.stride
  baseDilation : 1 ≤ dim.baseDilation
  windowDilation : 1 ≤ dim.windowDilation

namespace Window

variable {items : List Payload} {sizes : Payload} {raw : RawAttributes} {window : List WindowDim}
  {n : Int} {excused : Misuse → Prop}

/-! ### Accepted windows -/

theorem BuiltFrom.wellFormed_iff {size : WindowSize} {dim : WindowDim}
    (built : BuiltFrom size dim) : dim.WellFormed ↔ IsRead size := by
  constructor
  · rintro ⟨known, -, -, -⟩ value unread
    rw [built.size_eq, unread] at known
    simp at known
  · intro read
    refine ⟨?_, built.stride, built.baseDilation, built.windowDilation⟩
    rw [built.size_eq]
    cases size with
    | unknown => exact Or.inl rfl
    | known n =>
      have large : ¬ n < 1 := by
        simpa [WindowSize.isBelowOne] using built.size
      exact Or.inr ⟨n, rfl, by omega⟩
    | unread value => exact absurd rfl (read value)

theorem builtFrom_of_decode (decoded : decode sizes (.int n) raw = .ok window) :
    (window.length : Int) = n ∧
      ∃ read, decodeSizes sizes = .ok read ∧ List.Forall₂ BuiltFrom read window := by
  simp only [decode, bind_eq_ok, ensure_eq_ok, Payload.isInt, beq_iff_eq] at decoded
  obtain ⟨read, success, -, count, attributes, -, built⟩ := decoded
  have each := builtFrom_of_build built
  rw [each.length_eq] at count
  exact ⟨count.symm, read, success, each⟩

/-- The window is well-formed unless an item of its sizes was taken over undecoded. -/
theorem wellFormed_iff_of_decode (decoded : decode sizes (.int n) raw = .ok window) :
    (∀ dim ∈ window, dim.WellFormed) ↔ ∀ items, sizes = .list items → ¬ HoldsUndecoded items := by
  obtain ⟨-, read, success, built⟩ := builtFrom_of_decode decoded
  exact (forall_mem_iff_of_forall₂ built fun _ _ made => made.wellFormed_iff).trans
    (isRead_of_decodeSizes success)

/-! ### Items that stop a run -/

/-- An item is less than one, and all items before it are unknown or numbers. -/
def StopsAtSmall (items : List Payload) : Prop :=
  ∃ (i : Nat) (item : Payload), items[i]? = some item ∧ item.isBelow 1 = .ok true ∧
    ∀ j < i, ∀ earlier, items[j]? = some earlier →
      earlier = .null ∨ ∃ answer, earlier.isBelow 1 = .ok answer

theorem isBelowOne_ofPayload_eq_true {item : Payload} :
    (WindowSize.ofPayload item).isBelowOne = .ok true ↔ item.isBelow 1 = .ok true := by
  cases item with
  | null => simp [WindowSize.ofPayload, WindowSize.isBelowOne, Payload.isBelow, Payload.test]
  | _ => rfl

theorem isBelowOne_ofPayload_eq_ok {item : Payload} :
    (∃ answer, (WindowSize.ofPayload item).isBelowOne = .ok answer) ↔
      item = .null ∨ ∃ answer, item.isBelow 1 = .ok answer := by
  cases item with
  | null => exact iff_of_true ⟨false, rfl⟩ (Or.inl rfl)
  | _ => simp [WindowSize.ofPayload, WindowSize.isBelowOne, Payload.isBelow, Payload.test]

/-- A comparison with one is answered or a misuse. -/
theorem isBelowOne_ne_diagnostic (size : WindowSize) (d : Diagnostic) :
    size.isBelowOne ≠ .error (.diagnostic d) := by
  cases size with
  | unread value =>
    cases value <;> simp [WindowSize.isBelowOne, Payload.isBelow, Payload.test, misuse]
  | _ => simp [WindowSize.isBelowOne]

/-- A size that is too small ends in a diagnostic, whatever else is given. -/
theorem buildDim_meets_of_small {attributes : Attributes} {i : Nat} {size : WindowSize}
    (small : size.isBelowOne = .ok true) :
    Meets excused (fun _ => False) (buildDim attributes i size) := by
  apply Meets.bind_ok small
  apply Meets.ensure_bind
  intro large
  cases large

/-- Undecoded items of the wrong number, or after an item that is too small, end in a diagnostic. -/
theorem decode_meets_of_stops (unknown : .null ∈ items)
    (stops : (items.length : Int) = n → StopsAtSmall items)
    (timed : ∀ payload ∈ raw.integers, payload.TimedIsExcused excused) :
    Meets excused (fun _ => False) (decode (.list items) (.int n) raw) := by
  apply Meets.bind_ok (decodeSizes_of_null unknown)
  apply Meets.ensure_bind
  intro count
  have length : (items.length : Int) = n := by
    rw [eq_of_beq count, List.length_map]
  obtain ⟨i, item, found, small, ordered⟩ := stops length
  apply (RawAttributes.decode_meets timed (Payload.integral_int n)).bind
  intro attributes _ rows
  apply build_meets_of_fits rows
  intro fits
  have at_index : (items.map WindowSize.ofPayload).zipIdx[i]? = some (.ofPayload item, i) := by
    simp [List.getElem?_zipIdx, found]
  have stop := isBelowOne_ofPayload_eq_true.mpr small
  apply Meets.collect_of_stop at_index (buildDim_meets_of_small stop)
  rintro j less ⟨size, k⟩ earlier
  simp only [List.getElem?_zipIdx, List.getElem?_map, Option.map_eq_some_iff, Prod.mk.injEq,
    Nat.zero_add] at earlier
  obtain ⟨_, ⟨before, there, rfl⟩, rfl, rfl⟩ := earlier
  have inside : j < (items.map WindowSize.ofPayload).length := by
    rw [List.length_map]
    exact (List.getElem?_eq_some_iff.mp there).1
  exact buildDim_meets fits inside (isBelowOne_ofPayload_eq_ok.mpr (ordered j less before there))

/-- Without attributes, only a size that is too small ends in a diagnostic. -/
theorem isBelowOne_of_buildDim_bare {count i : Nat} {size : WindowSize} {d : Diagnostic}
    (inside : i < count) (failed : buildDim (bare count) i size = .error (.diagnostic d)) :
    size.isBelowOne = .ok true := by
  cases answer : size.isBelowOne with
  | ok tooSmall =>
    cases tooSmall with
    | true => rfl
    | false =>
      rw [buildDim_bare inside answer] at failed
      cases failed
  | error fault =>
    rw [buildDim, answer] at failed
    obtain rfl := Except.error.inj failed
    exact absurd answer (isBelowOne_ne_diagnostic size d)

theorem stopsAtSmall_of_decode_bare (unknown : .null ∈ items) {d : Diagnostic}
    (failed : decode (.list items) (.int items.length) {} = .error (.diagnostic d)) :
    StopsAtSmall items := by
  have run := decode_bare (decodeSizes_of_null unknown)
  rw [build_bare_eq_collect, List.length_map, failed] at run
  obtain ⟨i, size, found, cause, passed⟩ := exists_first_of_collect_zipIdx_eq_error run.symm
  rw [List.getElem?_map, Option.map_eq_some_iff] at found
  obtain ⟨item, found, rfl⟩ := found
  have inside : i < items.length := (List.getElem?_eq_some_iff.mp found).1
  have small := isBelowOne_of_buildDim_bare inside cause
  refine ⟨i, item, found, isBelowOne_ofPayload_eq_true.mp small, fun j less earlier there => ?_⟩
  have mapped : (items.map WindowSize.ofPayload)[j]? = some (.ofPayload earlier) := by
    rw [List.getElem?_map, there]
    rfl
  obtain ⟨dim, built⟩ := passed j less _ mapped
  exact isBelowOne_ofPayload_eq_ok.mp ⟨false, (builtFrom_of_buildDim built).size⟩

/-! ### Well-formed windows -/

/-- There are durations among the attributes, some of which cannot be read as integers. -/
def RawAttributes.Timed (raw : RawAttributes) : Prop := ∃ payload ∈ raw.integers, payload.Timed

theorem not_timed_bare : ¬ ({} : RawAttributes).Timed := by
  simp [RawAttributes.Timed, RawAttributes.integers, Payload.not_timed_null]

/-- Whatever the other attributes are, the sizes lead to a well-formed window with `n` dimensions or
    to a diagnostic. Only durations among these attributes may be a misuse. -/
def LeadsToWellFormed (sizes : Payload) (n : Int) : Prop :=
  ∀ raw : RawAttributes,
    Meets (fun m => m = .wrongSort ∧ raw.Timed)
      (fun window => (window.length : Int) = n ∧ ∀ dim ∈ window, dim.WellFormed)
      (decode sizes (.int n) raw)

/-- A window that is accepted has the number of dimensions asked for and positive strides and
    dilations, and it is well-formed just when no list of sizes was taken over with undecoded items.
    A list with undecoded items leads to well-formed windows or diagnostics only when its length is
    wrong or when it stops at an item that is too small, and a vector of durations never does. -/
theorem decode_wellFormed_iff (sizes : Payload) (n : Int) :
    (∀ raw window, decode sizes (.int n) raw = .ok window →
      (window.length : Int) = n ∧
      (∀ dim ∈ window, 1 ≤ dim.stride ∧ 1 ≤ dim.baseDilation ∧ 1 ≤ dim.windowDilation) ∧
      ((∀ dim ∈ window, dim.WellFormed) ↔
        ∀ items, sizes = .list items → ¬ HoldsUndecoded items)) ∧
    (LeadsToWellFormed sizes n ↔ ¬ sizes.TimedVector ∧
      ∀ items, sizes = .list items → HoldsUndecoded items → (items.length : Int) = n →
        StopsAtSmall items) := by
  refine ⟨?_, fun meets => ⟨fun vector => ?_, ?_⟩, ?_⟩
  · intro raw window decoded
    obtain ⟨count, read, -, built⟩ := builtFrom_of_decode decoded
    refine ⟨count, fun dim member => ?_, wellFormed_iff_of_decode decoded⟩
    obtain ⟨size, -, made⟩ := exists_left_of_forall₂ built member
    exact ⟨made.stride, made.baseDilation, made.windowDilation⟩
  · have failed : decode sizes (.int n) {} = misuse .wrongSort :=
      bind_eq_misuse.mpr (.inl (decodeSizes_eq_misuse.mpr ⟨rfl, vector⟩))
    exact not_timed_bare ((meets {}).excused_of_misuse failed).2
  · rintro items rfl holds rfl
    have outcome := meets {}
    cases result : decode (.list items) (.int items.length) {} with
    | ok window =>
      rw [result] at outcome
      exact absurd holds ((wellFormed_iff_of_decode result).mp outcome.2 items rfl)
    | error fault =>
      cases fault with
      | diagnostic d => exact stopsAtSmall_of_decode_bare holds.1 result
      | misuse m => exact absurd (outcome.excused_of_misuse result).2 not_timed_bare
  · rintro ⟨plain, stops⟩ raw
    have timed : ∀ payload ∈ raw.integers,
        payload.TimedIsExcused fun m => m = .wrongSort ∧ raw.Timed :=
      fun payload member given => ⟨rfl, payload, member, given⟩
    by_cases undecoded : ∃ items, sizes = .list items ∧ HoldsUndecoded items
    · obtain ⟨items, rfl, holds⟩ := undecoded
      have stopped := decode_meets_of_stops holds.1 (stops items rfl holds) timed
      exact stopped.mono fun _ _ absurd => absurd.elim
    · have decoded : ∀ items, sizes = .list items → ¬ HoldsUndecoded items :=
        fun items given holds => undecoded ⟨items, given, holds⟩
      refine (decode_meets decoded (fun vector => absurd vector plain) timed
        (Payload.integral_int n)).mono fun window success _ => ?_
      exact ⟨(builtFrom_of_decode success).1, (wellFormed_iff_of_decode success).mpr decoded⟩

/-- Beside an unknown size, two and a half is taken over as a size and a text cannot be compared; a
    zero before them is rejected in time. Two days are not read as a size. -/
theorem decode_wellFormed_iff_undecoded :
    (∃ window, decode (.list [.null, .real ⟨false, 4612811918334230528⟩]) (.int 2) {} = .ok window ∧
      ¬ ∀ dim ∈ window, dim.WellFormed) ∧
    ¬ LeadsToWellFormed (.list [.null, .text "a"]) 2 ∧
    LeadsToWellFormed (.list [.int 0, .null, .text "a"]) 3 ∧
    ¬ LeadsToWellFormed
      (.array { dims := [1], format := .duration .day, entries := [2], filled := rfl }) 1 := by
  have apart : ∀ extent, Payload.real ⟨false, 4612811918334230528⟩ ≠ .ofExtent extent := by
    rintro (_ | _) <;> simp [Payload.ofExtent]
  have apart' : ∀ extent, Payload.text "a" ≠ .ofExtent extent := by
    rintro (_ | _) <;> simp [Payload.ofExtent]
  have accepted : decode (.list [.null, .real ⟨false, 4612811918334230528⟩]) (.int 2) {} =
      .ok [{ size := .unknown }, { size := .unread (.real ⟨false, 4612811918334230528⟩) }] := rfl
  refine ⟨⟨_, accepted, ?_⟩, ?_, ?_, ?_⟩
  · intro formed
    have decoded := ((decode_wellFormed_iff _ 2).1 {} _ accepted).2.2.mp formed
    exact decoded _ rfl ⟨by simp, _, by simp, apart⟩
  · intro leads
    obtain ⟨i, item, found, small, -⟩ := ((decode_wellFormed_iff _ 2).2.mp leads).2 _ rfl
      ⟨by simp, _, by simp, apart'⟩ rfl
    rcases i with _ | _ | i
    · cases found
      cases small
    · cases found
      cases small
    · simp at found
  · have plain : ¬ (Payload.list [.int 0, .null, .text "a"]).TimedVector :=
      fun vector => Payload.not_timed_of_null (by simp) vector.timed
    refine (decode_wellFormed_iff _ 3).2.mpr ⟨plain, ?_⟩
    rintro _ ⟨⟩ - -
    exact ⟨0, .int 0, rfl, rfl, fun j less => absurd less (Nat.not_lt_zero j)⟩
  · intro leads
    exact ((decode_wellFormed_iff _ 1).2.mp leads).1 ⟨_, rfl, rfl, rfl⟩

end Window

end TensorTyping
