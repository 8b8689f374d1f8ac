import Mathlib.Algebra.Ring.Int.Defs
import TensorTyping.Proofs.Payload.Decode

/-!
# Vectors of integers

A payload that holds no array is decoded as a vector just when it is a flat list of integers and
truth values, and no integer is altered on the way. The integers have to share one of two ranges:
those with a sign that fit into 64 bits, and those beyond them that fit without a sign. Integers of
both ranges, numbers that are too large, real numbers, texts, missing values and nested lists are
all malformed, and a vector of another length than the expected one is told apart from these.
-/

namespace TensorTyping

open Check

namespace Payload

variable {payload : Payload} {name : String}

/-! ### The integers that a list holds -/

/-- The payload is an integer, or a truth value, which stands for 0 or 1. -/
inductive Denotes : Payload → Int → Prop
  | int (n : Int) : Denotes (.int n) n
  | bool (value : Bool) : Denotes (.bool value) (if value then 1 else 0)

/-- The payload is a flat list of integers and truth values. Its integers either all fit into 64
    bits with a sign, or all of them need the 64th bit. -/
def Lists (payload : Payload) (values : List Int) : Prop :=
  ∃ items, payload = .list items ∧ List.Forall₂ Denotes items values ∧
    ((∀ n, .int n ∈ items → -2 ^ 63 ≤ n ∧ n < 2 ^ 63) ∨
      ∀ n, .int n ∈ items → 2 ^ 63 ≤ n ∧ n < 2 ^ 64)

theorem denotes_iff {value : Int} :
    payload.Denotes value ↔
      ((∃ truth, payload = .bool truth) ∨ ∃ n, payload = .int n) ∧ value = payload.entry := by
  constructor
  · intro denotes
    cases denotes with
    | int => exact ⟨Or.inr ⟨_, rfl⟩, rfl⟩
    | bool truth => cases truth <;> exact ⟨Or.inl ⟨_, rfl⟩, rfl⟩
  · rintro ⟨⟨truth, rfl⟩ | ⟨n, rfl⟩, rfl⟩
    · cases truth
      · exact .bool false
      · exact .bool true
    · exact .int _

theorem forall₂_denotes_iff {items : List Payload} {values : List Int} :
    List.Forall₂ Denotes items values ↔
      (∀ item ∈ items, (∃ truth, item = .bool truth) ∨ ∃ n, item = .int n) ∧
        values = items.map entry := by
  induction items generalizing values with
  | nil => simp
  | cons item rest ih =>
    simp only [List.forall₂_cons_left_iff, denotes_iff, ih, List.forall_mem_cons, List.map_cons]
    constructor
    · rintro ⟨_, _, ⟨first, rfl⟩, ⟨others, rfl⟩, rfl⟩
      exact ⟨⟨first, others⟩, rfl⟩
    · rintro ⟨⟨first, others⟩, rfl⟩
      exact ⟨_, _, ⟨first, rfl⟩, ⟨others, rfl⟩, rfl⟩

theorem isOf_forall_iff {items : List Payload} {signed : Bool}
    (plain : ∀ item ∈ items, item.NoArray) :
    (∀ item ∈ items, (EntryFormat.ofLeaf item).isOf signed = true) ↔
      (∀ item ∈ items, (∃ truth, item = .bool truth) ∨ ∃ n, item = .int n) ∧
        ∀ n, .int n ∈ items → EntryFormat.inRange signed n = true := by
  constructor
  · intro each
    have both (item : Payload) (member : item ∈ items) :=
      (EntryFormat.isOf_ofLeaf (plain item member)).mp (each item member)
    refine ⟨fun item member => ?_, fun n member => ?_⟩
    · rcases both item member with truth | ⟨n, same, -⟩
      · exact Or.inl truth
      · exact Or.inr ⟨n, same⟩
    · simpa using both _ member
  · rintro ⟨whole, ranges⟩ item member
    rw [EntryFormat.isOf_ofLeaf (plain item member)]
    rcases whole item member with truth | ⟨n, rfl⟩
    · exact Or.inl truth
    · exact Or.inr ⟨n, rfl, ranges n member⟩

/-- A payload without arrays is no array, and none of its items is one. -/
theorem noArray_of_leaves (plain : ∀ grid, .array grid ∉ payload.leaves) :
    payload.NoArray ∧ ∀ items, payload = .list items → ∀ item ∈ items, item.NoArray := by
  constructor
  · rintro grid rfl
    exact plain grid List.mem_cons_self
  · rintro items rfl item member grid rfl
    rw [leaves_list] at plain
    exact plain grid (List.mem_flatMap.mpr ⟨.array grid, member, List.mem_cons_self⟩)

/-- What is nested in no dimension is no vector. -/
theorem decodeInts_scalar_ne_ok {values : List Int} (given : payload ≠ .null)
    (noArray : payload.NoArray) (scalar : payload.nesting? = some []) :
    payload.decodeInts name ≠ .ok values := by
  intro success
  rcases decodeInts_eq_ok.mp success with ⟨absent, -⟩ | ⟨-, -, grid, found, rank, -⟩
  · exact given absent
  · obtain ⟨nested, -⟩ := (grid?_eq_some noArray).mp found
    have dims := scalar.symm.trans (nesting?_of_dims? nested)
    rw [Grid.rank, ← Option.some.inj dims] at rank
    cases rank

/-- Apart from arrays, exactly the payloads that list integers are decoded, and to these. -/
theorem decodeInts_eq_ok_iff_lists {values : List Int} (given : payload ≠ .null)
    (plain : ∀ grid, .array grid ∉ payload.leaves) :
    payload.decodeInts name = .ok values ↔ payload.Lists values := by
  obtain ⟨noArray, items⟩ := noArray_of_leaves plain
  cases payload with
  | list listed =>
    have signedRange (n : Int) :
        EntryFormat.inRange true n = true ↔ -2 ^ 63 ≤ n ∧ n < 2 ^ 63 := by
      simp only [EntryFormat.inRange, if_true, fitsWord, Bool.and_eq_true, decide_eq_true_eq]
      rfl
    have unsignedRange (n : Int) :
        EntryFormat.inRange false n = true ↔ 2 ^ 63 ≤ n ∧ n < 2 ^ 64 := by
      simp only [EntryFormat.inRange, Bool.false_eq_true, if_false, EntryFormat.needsUnsigned,
        Bool.and_eq_true, decide_eq_true_eq]
      rfl
    have scalars := items listed rfl
    simp only [decodeInts_list_eq_ok scalars, isOf_forall_iff scalars, exists_and_left,
      Bool.exists_bool, signedRange, unsignedRange, Lists, list.injEq, exists_eq_left',
      forall₂_denotes_iff]
    rw [or_comm]
    exact and_right_comm
  | null => exact absurd rfl given
  | array grid => exact absurd rfl (noArray grid)
  | _ =>
    refine ⟨fun success => absurd success (decodeInts_scalar_ne_ok given noArray rfl), ?_⟩
    rintro ⟨_, ⟨⟩, -⟩

/-- What lists integers holds no array. -/
theorem Lists.noArray {values : List Int} (lists : payload.Lists values) (grid : Grid) :
    .array grid ∉ payload.leaves := by
  obtain ⟨items, rfl, denoted, -⟩ := lists
  intro member
  rw [leaves_list_eq_self] at member
  · rcases (forall₂_denotes_iff.mp denoted).1 _ member with ⟨_, ⟨⟩⟩ | ⟨_, ⟨⟩⟩
  · intro item inside
    rcases (forall₂_denotes_iff.mp denoted).1 item inside with ⟨_, rfl⟩ | ⟨_, rfl⟩ <;> rfl

theorem Lists.unique {values values' : List Int} (lists : payload.Lists values)
    (lists' : payload.Lists values') : values = values' := by
  obtain ⟨items, rfl, denoted, -⟩ := lists
  obtain ⟨_, ⟨⟩, denoted', -⟩ := lists'
  rw [(forall₂_denotes_iff.mp denoted).2, (forall₂_denotes_iff.mp denoted').2]

/-! ### How decoding ends -/

/-- The expected number of elements is looked at last, once the payload is known to be a vector.
    What is no vector is malformed. -/
theorem decodeInts_cases (given : payload ≠ .null) (plain : ∀ grid, .array grid ∉ payload.leaves)
    (name : String) (arity : Payload) :
    (∃ values, payload.decodeInts name = .ok values ∧
        payload.decodeInts name arity = (do
          ensureArity name arity values.length
          return values)) ∨
      (∀ values, payload.decodeInts name ≠ .ok values) ∧
        Rejects .malformedAttribute (payload.decodeInts name arity) := by
  have steps (arity : Payload) : payload.decodeInts name arity = (do
      let grid ← payload.rectangle name
      ensureRank grid name 1
      ensureIntegers grid name
      ensureArity name arity grid.entries.length
      needNumbers grid
      return grid.entries) := by
    cases payload with
    | null => exact absurd rfl given
    | _ => rfl
  simp only [steps]
  cases found : payload.grid? with
  | none =>
    have failed : Rejects .malformedAttribute (payload.rectangle name) := by simp [rectangle, found]
    exact Or.inr ⟨(failed.bind _).ne_ok, failed.bind _⟩
  | some grid =>
    have format := ((grid?_eq_some (noArray_of_leaves plain).1).mp found).2.1
    have scalars : ∀ leaf ∈ payload.leaves, leaf.NoArray := by
      rintro _ member grid rfl
      exact plain grid member
    have numbers : needNumbers grid = .ok () :=
      needNumbers_eq_ok.mpr
        (listsNumbers_of_format (format ▸ EntryFormat.formatOf_ne_duration scalars))
    simp only [rectangle_eq_ok.mpr found, numbers, ok_bind]
    by_cases rank : grid.rank = 1
    · simp only [ensureRank, ensure_of rank, ok_bind]
      by_cases integers : grid.size = 0 ∨ grid.format.isIntegral = true
      · simp only [ensureIntegers, ensure_of integers, ok_bind]
        exact Or.inl ⟨grid.entries, rfl, rfl⟩
      · have failed : Rejects .malformedAttribute (ensureIntegers grid name) :=
          rejects_ensure.mpr ⟨integers, rfl⟩
        exact Or.inr ⟨(failed.bind _).ne_ok, failed.bind _⟩
    · have failed : Rejects .malformedAttribute (ensureRank grid name 1) :=
        rejects_ensure.mpr ⟨rank, rfl⟩
      exact Or.inr ⟨(failed.bind _).ne_ok, failed.bind _⟩

theorem decodeInts_of_lists {values : List Int} (lists : payload.Lists values) (name : String)
    (arity : Payload) : payload.decodeInts name arity = (do
      ensureArity name arity values.length
      return values) := by
  have listed : ∃ items, payload = .list items := by
    obtain ⟨items, shown, -⟩ := lists
    exact ⟨items, shown⟩
  obtain ⟨items, rfl⟩ := listed
  have given : Payload.list items ≠ .null := by simp
  have plain : ∀ grid, .array grid ∉ (Payload.list items).leaves := lists.noArray
  rcases decodeInts_cases given plain name arity with ⟨values', success, counted⟩ | ⟨unread, -⟩
  · rw [counted, lists.unique ((decodeInts_eq_ok_iff_lists given plain).mp success)]
  · exact absurd ((decodeInts_eq_ok_iff_lists given plain).mpr lists) (unread values)

theorem rejects_of_unlisted (given : payload ≠ .null)
    (plain : ∀ grid, .array grid ∉ payload.leaves)
    (unlisted : ∀ values, ¬ payload.Lists values) (name : String) (arity : Payload) :
    Rejects .malformedAttribute (payload.decodeInts name arity) := by
  rcases decodeInts_cases given plain name arity with ⟨values, success, -⟩ | ⟨-, malformed⟩
  · exact absurd ((decodeInts_eq_ok_iff_lists given plain).mp success) (unlisted values)
  · exact malformed

theorem ensureArity_of_count {arity : Option Int} {length : Nat}
    (count : ∀ n ∈ arity, (length : Int) = n) :
    ensureArity name (.ofExtent arity) length = .ok () := by
  cases arity with
  | none => rfl
  | some n => exact ensure_of (isInt_int.mpr (count n rfl).symm) _ _

theorem rejects_ensureArity {arity : Option Int} {length : Nat}
    (differs : ¬ ∀ n ∈ arity, (length : Int) = n) :
    Rejects .attributeArityMismatch (ensureArity name (.ofExtent arity) length) := by
  cases arity with
  | none => simp at differs
  | some n =>
    have other : ¬ (Payload.int n).isInt length = true := by
      rw [isInt_int, eq_comm]
      simpa using differs
    exact rejects_ensure.mpr ⟨other, rfl⟩

/-- A payload that is given and holds no array is decoded to the integers that it lists, when it
    lists any and their number is the expected one. A list of integers is refused for its length
    only, and everything else is malformed. -/
theorem decodeInts_decides_vector (given : payload ≠ .null)
    (plain : ∀ grid, .array grid ∉ payload.leaves) (name : String) (arity : Option Int) :
    (∀ values, payload.decodeInts name (.ofExtent arity) = .ok values ↔
      payload.Lists values ∧ ∀ n ∈ arity, (values.length : Int) = n) ∧
    (Rejects .attributeArityMismatch (payload.decodeInts name (.ofExtent arity)) ↔
      ∃ values, payload.Lists values ∧ ∃ n ∈ arity, (values.length : Int) ≠ n) ∧
    (Rejects .malformedAttribute (payload.decodeInts name (.ofExtent arity)) ↔
      ∀ values, ¬ payload.Lists values) := by
  refine outcome_iff (by decide) ?_ ?_ ?_ fun unlisted => ?_
  · by_cases listed : ∃ values, payload.Lists values
    · obtain ⟨values, lists⟩ := listed
      by_cases count : ∀ n ∈ arity, (values.length : Int) = n
      · exact Or.inl ⟨values, lists, count⟩
      · exact Or.inr (Or.inl ⟨values, lists, by simpa using count⟩)
    · exact Or.inr (Or.inr (not_exists.mp listed))
  · rintro values ⟨lists, count⟩
    rw [decodeInts_of_lists lists, ensureArity_of_count count]
    rfl
  · rintro ⟨values, lists, n, member, differs⟩
    rw [decodeInts_of_lists lists]
    exact (rejects_ensureArity fun count => differs (count n member)).bind _
  · exact rejects_of_unlisted given plain unlisted name (.ofExtent arity)

/-- A truth value goes with a number that needs the 64th bit, a small number does not. -/
theorem decodeInts_decides_vector_wide :
    let wide : Payload := .list [.bool true, .int 9223372036854775808]
    let both : Payload := .list [.int 9223372036854775808, .int 1]
    wide.decodeInts "sizes" (.int 2) = .ok [1, 9223372036854775808] ∧
      Rejects .attributeArityMismatch (wide.decodeInts "sizes" (.int 3)) ∧
      Rejects .malformedAttribute (both.decodeInts "sizes") := by
  intro wide both
  have lists : wide.Lists [1, 9223372036854775808] := by
    refine ⟨_, rfl, .cons (.bool true) (.cons (.int _) .nil), Or.inr fun n member => ?_⟩
    obtain rfl : n = 9223372036854775808 := by simpa using member
    decide
  have unlisted : ∀ values, ¬ both.Lists values := by
    rintro values ⟨items, same, -, small | large⟩ <;> obtain rfl := Payload.list.inj same
    · have bound := (small 9223372036854775808 (by simp)).2
      omega
    · have bound := (large 1 (by simp)).1
      omega
  have plain : ∀ grid, .array grid ∉ both.leaves := by
    simp [both, leaves, leaves.leavesOf]
  obtain ⟨accepts, -, -⟩ :=
    @decodeInts_decides_vector wide (by simp [wide]) lists.noArray "sizes" (some 2)
  obtain ⟨-, counts, -⟩ :=
    @decodeInts_decides_vector wide (by simp [wide]) lists.noArray "sizes" (some 3)
  obtain ⟨-, -, refuses⟩ :=
    @decodeInts_decides_vector both (by simp [both]) plain "sizes" none
  refine ⟨(accepts _).mpr ⟨lists, ?_⟩, counts.mpr ⟨_, lists, 3, rfl, by decide⟩,
    refuses.mpr unlisted⟩
  rintro n ⟨⟩
  rfl

end Payload

end TensorTyping
