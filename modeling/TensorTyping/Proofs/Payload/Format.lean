import TensorTyping.Payload.Grid

/-!
# Formats and flat lists

The format of scalars is an integer format just when all of them are truth values and integers of
one 64-bit range, with or without a sign. A list without arrays forms an array of one dimension just
when none of its items is a list.
-/

namespace TensorTyping

/-- The payload is no array. -/
def Payload.NoArray (payload : Payload) : Prop := ∀ grid, payload ≠ .array grid

namespace EntryFormat

/-! ### Integer formats -/

/-- The format of truth values, or of integers with or without a sign as said. -/
def isOf (signed : Bool) : EntryFormat → Bool
  | .bool => true
  | .signed _ => signed
  | .unsigned _ => !signed
  | _ => false

/-- The integer lies in the signed 64-bit range, or in the part of the unsigned one beyond it. -/
def inRange (signed : Bool) (n : Int) : Bool := if signed then fitsWord n else needsUnsigned n

/-- A format that scalars are joined in: its integers have 64 bits. -/
def isScalar : EntryFormat → Bool
  | .signed bits | .unsigned bits => bits == 64
  | .duration _ | .named .. => false
  | _ => true

theorem isScalar_ofLeaf {leaf : Payload} (scalar : leaf.NoArray) :
    (ofLeaf leaf).isScalar = true := by
  cases leaf with
  | int n =>
    rw [ofLeaf]
    split
    · rfl
    · split <;> rfl
  | array grid => exact absurd rfl (scalar grid)
  | _ => rfl

theorem isScalar_join {a b : EntryFormat} (ha : a.isScalar = true) (hb : b.isScalar = true) :
    (a.join b).isScalar = true := by
  cases a <;> cases b <;> simp_all [isScalar, join, joinSigns]

theorem isIntegral_iff {format : EntryFormat} (scalar : format.isScalar = true) :
    format.isIntegral = true ↔ ∃ signed, format.isOf signed = true := by
  cases format <;> simp_all [isIntegral, isOf, isScalar]

/-- Joining the formats of scalars loses nothing only within one range. -/
theorem isOf_join (signed : Bool) {a b : EntryFormat} (ha : a.isScalar = true)
    (hb : b.isScalar = true) : (a.join b).isOf signed = (a.isOf signed && b.isOf signed) := by
  cases a <;> cases b <;> cases signed <;> simp_all [isScalar, isOf, join, joinSigns]

theorem isOf_foldl_join (signed : Bool) {leaves : List Payload} {format : EntryFormat}
    (scalar : format.isScalar = true) (scalars : ∀ leaf ∈ leaves, leaf.NoArray) :
    (leaves.foldl (fun format leaf => format.join (ofLeaf leaf)) format).isScalar = true ∧
      (leaves.foldl (fun format leaf => format.join (ofLeaf leaf)) format).isOf signed =
        (format.isOf signed && leaves.all fun leaf => (ofLeaf leaf).isOf signed) := by
  induction leaves generalizing format with
  | nil => simp [scalar]
  | cons leaf rest ih =>
    obtain ⟨first, others⟩ := List.forall_mem_cons.mp scalars
    have own := isScalar_ofLeaf first
    obtain ⟨joined, each⟩ := ih (isScalar_join scalar own) others
    rw [List.foldl_cons, each, isOf_join signed scalar own, List.all_cons, Bool.and_assoc]
    exact ⟨joined, rfl⟩

/-- An array without entries passes for integers, and any other array of scalars when they lie in
    one range. -/
theorem isIntegral_formatOf {leaves : List Payload} (scalars : ∀ leaf ∈ leaves, leaf.NoArray) :
    leaves = [] ∨ (formatOf leaves).isIntegral = true ↔
      ∃ signed, ∀ leaf ∈ leaves, (ofLeaf leaf).isOf signed = true := by
  cases leaves with
  | nil => simp
  | cons leaf rest =>
    obtain ⟨first, others⟩ := List.forall_mem_cons.mp scalars
    have joined (signed : Bool) := isOf_foldl_join signed (isScalar_ofLeaf first) others
    simp only [formatOf, isIntegral_iff (joined true).1, (joined _).2, Bool.and_eq_true,
      List.all_eq_true, List.forall_mem_cons, reduceCtorEq, false_or]

/-- Scalars are not joined to durations. -/
theorem formatOf_ne_duration {leaves : List Payload} (scalars : ∀ leaf ∈ leaves, leaf.NoArray)
    (unit : TimeUnit) : formatOf leaves ≠ .duration unit := by
  intro same
  cases leaves with
  | nil => cases same
  | cons leaf rest =>
    obtain ⟨first, others⟩ := List.forall_mem_cons.mp scalars
    have joined := (isOf_foldl_join true (isScalar_ofLeaf first) others).1
    rw [formatOf] at same
    rw [same] at joined
    cases joined

theorem foldl_join_eq_object {leaves : List Payload} {format : EntryFormat}
    (kept : format = .object ∨ .null ∈ leaves) :
    leaves.foldl (fun format leaf => format.join (ofLeaf leaf)) format = .object := by
  induction leaves generalizing format with
  | nil => simpa using kept
  | cons leaf rest ih =>
    apply ih
    rcases kept with rfl | listed
    · exact .inl rfl
    · rcases List.mem_cons.mp listed with rfl | later
      · exact .inl (by cases format <;> rfl)
      · exact .inr later

/-- Beside an unknown value all others are kept as they are. -/
theorem formatOf_eq_object {leaves : List Payload} (unknown : .null ∈ leaves) :
    formatOf leaves = .object := by
  cases leaves with
  | nil => cases unknown
  | cons leaf rest =>
    apply foldl_join_eq_object
    rcases List.mem_cons.mp unknown with rfl | later
    · exact .inl rfl
    · exact .inr later

theorem isOf_ofLeaf {signed : Bool} {leaf : Payload} (scalar : leaf.NoArray) :
    (ofLeaf leaf).isOf signed = true ↔
      (∃ value, leaf = .bool value) ∨ ∃ n, leaf = .int n ∧ inRange signed n = true := by
  cases leaf with
  | array grid => exact absurd rfl (scalar grid)
  | int n =>
    have apart : fitsWord n = true → needsUnsigned n = false := by
      simp only [fitsWord, needsUnsigned, Bool.and_eq_true, decide_eq_true_eq,
        Bool.and_eq_false_iff, decide_eq_false_iff_not]
      omega
    by_cases fits : fitsWord n = true
    · cases signed <;> simp [ofLeaf, isOf, inRange, fits, apart fits]
    · by_cases needs : needsUnsigned n = true
      · cases signed <;> simp [ofLeaf, isOf, inRange, fits, needs]
      · cases signed <;> simp [ofLeaf, isOf, inRange, fits, needs]
  | _ => simp [ofLeaf, isOf]

end EntryFormat

namespace Payload

/-! ### Flat lists -/

theorem commonNesting?_eq_some {items : List Payload} {dims : List Nat} :
    nesting?.commonNesting? items = some dims ↔
      items ≠ [] ∧ ∀ item ∈ items, item.nesting? = some dims := by
  induction items with
  | nil => simp [nesting?.commonNesting?]
  | cons item rest ih =>
    cases rest with
    | nil => simp [nesting?.commonNesting?]
    | cons next more =>
      have others : nesting?.commonNesting? (next :: more) = some dims ↔
          ∀ item ∈ next :: more, item.nesting? = some dims := by
        rw [ih]
        exact and_iff_right (List.cons_ne_nil _ _)
      rw [nesting?.commonNesting?, List.forall_mem_cons, ← others]
      cases item.nesting? with
      | none => simp
      | some own =>
        cases nesting?.commonNesting? (next :: more) with
        | none => simp
        | some shared =>
          simp only [Option.ite_none_right_eq_some, Option.some.injEq, ne_eq, reduceCtorEq,
            not_false_eq_true, true_and]
          constructor
          · rintro ⟨rfl, rfl⟩
            exact ⟨rfl, rfl⟩
          · rintro ⟨rfl, rfl⟩
            exact ⟨rfl, rfl⟩

/-- What is nested in no dimension is a leaf. -/
theorem leaves_of_nesting? {payload : Payload} (leaf : payload.nesting? = some []) :
    payload.leaves = [payload] := by
  cases payload with
  | list items => cases items <;> simp [nesting?] at leaf
  | _ => rfl

theorem leaves_list (items : List Payload) : (list items).leaves = items.flatMap leaves := by
  rw [leaves]
  induction items with
  | nil => rfl
  | cons item rest ih => rw [leaves.leavesOf, ih, List.flatMap_cons]

theorem flatMap_eq_self {items : List Payload} {parts : Payload → List Payload}
    (own : ∀ item ∈ items, parts item = [item]) : items.flatMap parts = items := by
  rw [List.flatMap_def, List.map_congr_left own, ← List.flatMap_def, List.flatMap_singleton']

theorem leaves_list_eq_self {items : List Payload}
    (flat : ∀ item ∈ items, item.nesting? = some []) : (list items).leaves = items := by
  rw [leaves_list]
  exact flatMap_eq_self fun item member => leaves_of_nesting? (flat item member)

theorem leaves_ofExtents (values : List (Option Int)) :
    (ofExtents values).leaves = values.map ofExtent := by
  refine leaves_list_eq_self (List.forall_mem_map.mpr fun extent _ => ?_)
  cases extent <;> rfl

theorem leaves_ofInts (values : List Int) : (ofInts values).leaves = values.map .int :=
  leaves_list_eq_self (List.forall_mem_map.mpr fun _ _ => rfl)

/-- A list has one dimension just when its items are leaves. -/
theorem nesting?_list_eq_singleton {items : List Payload} {count : Nat} :
    (list items).nesting? = some [count] ↔
      items.length = count ∧ ∀ item ∈ items, item.nesting? = some [] := by
  cases items with
  | nil => simp [nesting?]
  | cons item rest =>
    have nested : (list (item :: rest)).nesting? =
        (nesting?.commonNesting? (item :: rest)).map ((item :: rest).length :: ·) := rfl
    rw [nested, Option.map_eq_some_iff]
    constructor
    · rintro ⟨inner, common, same⟩
      obtain ⟨rfl, rfl⟩ := List.cons.inj same
      exact ⟨rfl, (commonNesting?_eq_some.mp common).2⟩
    · rintro ⟨rfl, flat⟩
      exact ⟨[], commonNesting?_eq_some.mpr ⟨List.cons_ne_nil _ _, flat⟩, rfl⟩

/-- The array that a nesting forms, arrays themselves apart. -/
theorem grid?_eq_some {payload : Payload} {grid : Grid} (nested : payload.NoArray) :
    payload.grid? = some grid ↔
      payload.dims? = some grid.dims ∧ grid.format = EntryFormat.formatOf payload.leaves ∧
        grid.entries = payload.scalars.map entry := by
  obtain ⟨dims, format, entries, filled⟩ := grid
  rw [grid?]
  · split
    · simp_all
    · next dims' found => simp only [found, Option.some.injEq, Grid.mk.injEq, @eq_comm _ format,
        @eq_comm _ entries]
  · exact nested

theorem scalars_list {items : List Payload} (flat : ∀ item ∈ items, item.nesting? = some [])
    (plain : ∀ item ∈ items, item.NoArray) : (list items).scalars = items := by
  rw [scalars, leaves_list_eq_self flat]
  refine flatMap_eq_self fun item member => ?_
  cases item with
  | array grid => exact absurd rfl (plain _ member grid)
  | _ => rfl

/-- The array that a flat list of scalars forms. -/
theorem grid?_list_eq_some {items : List Payload} {grid : Grid}
    (plain : ∀ item ∈ items, item.NoArray) :
    (list items).grid? = some grid ∧ grid.rank = 1 ↔
      (∀ item ∈ items, item.nesting? = some []) ∧ grid.dims = [items.length] ∧
        grid.format = EntryFormat.formatOf items ∧ grid.entries = items.map entry := by
  rw [grid?_eq_some (by simp [NoArray]), dims?, Option.filter_eq_some_iff]
  constructor
  · rintro ⟨⟨⟨nested, -⟩, format, entries⟩, rank⟩
    obtain ⟨count, single⟩ := List.length_eq_one_iff.mp rank
    rw [single] at nested
    obtain ⟨rfl, flat⟩ := nesting?_list_eq_singleton.mp nested
    rw [scalars_list flat plain] at entries
    rw [leaves_list_eq_self flat] at format
    exact ⟨flat, single, format, entries⟩
  · rintro ⟨flat, single, format, entries⟩
    rw [Grid.rank, single, scalars_list flat plain, leaves_list_eq_self flat]
    have nested := nesting?_list_eq_singleton.mpr ⟨rfl, flat⟩
    exact ⟨⟨⟨nested, by simp [maxRank]⟩, format, entries⟩, rfl⟩

end Payload

end TensorTyping
