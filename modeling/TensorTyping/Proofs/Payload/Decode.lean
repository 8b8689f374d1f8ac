import TensorTyping.Payload.Decode
import TensorTyping.Proofs.Check
import TensorTyping.Proofs.Payload.Format

/-!
# When attributes can be decoded

What the decoders give when they succeed. A decoder with an expected number of elements gives what
it gives without, when the number is right.
-/

namespace TensorTyping

namespace Payload

variable {payload : Payload} {name : String}

@[simp] theorem isInt_int {m n : Int} : (Payload.int m).isInt n = true ↔ m = n := by
  simp [isInt]

@[simp] theorem rectangle_eq_ok {grid : Grid} :
    payload.rectangle name = .ok grid ↔ payload.grid? = some grid := by
  unfold rectangle
  cases payload.grid? <;> simp

@[simp] theorem ensureArity_eq_ok {arity : Payload} {length : Nat} {u : Unit} :
    ensureArity name arity length = .ok u ↔ arity = .null ∨ arity.isInt length = true := by
  cases arity <;> simp [ensureArity, ensureCount]

@[simp] theorem needNumbers_eq_ok {grid : Grid} {u : Unit} :
    needNumbers grid = .ok u ↔ grid.listsNumbers = true := by
  unfold needNumbers
  split <;> simp_all

/-- Everything but durations is listed as a number. -/
theorem listsNumbers_of_format {grid : Grid}
    (plain : ∀ unit, grid.format ≠ .duration unit) : grid.listsNumbers = true := by
  rw [Grid.listsNumbers, List.all_eq_true]
  intro entry _
  cases format : grid.format with
  | duration unit => exact absurd format (plain unit)
  | _ => rfl

theorem decodeInts_of_ne_null (given : payload ≠ .null) (name : String) (arity : Payload) :
    payload.decodeInts name arity = (do
      let grid ← payload.rectangle name
      ensureRank grid name 1
      ensureIntegers grid name
      ensureArity name arity grid.entries.length
      needNumbers grid
      return grid.entries) := by
  cases payload with
  | null => exact absurd rfl given
  | _ => rfl

/-- A vector of integers is decoded from nothing, or from the entries of an array. -/
theorem decodeInts_eq_ok {arity : Payload} {values : List Int} :
    payload.decodeInts name arity = .ok values ↔
      payload = .null ∧ values = [] ∨
        payload ≠ .null ∧ (arity = .null ∨ arity.isInt values.length = true) ∧
          ∃ grid, payload.grid? = some grid ∧ grid.rank = 1 ∧
            (grid.size = 0 ∨ grid.format.isIntegral = true) ∧ grid.listsNumbers = true ∧
            grid.entries = values := by
  by_cases absent : payload = .null
  · subst absent
    simp only [decodeInts, Check.pure_eq, Except.ok.injEq, true_and, ne_eq, not_true_eq_false,
      false_and, or_false]
    exact eq_comm
  · rw [decodeInts_of_ne_null absent]
    simp only [Check.bind_eq_ok, rectangle_eq_ok, ensureRank, ensureIntegers, Check.ensure_eq_ok,
      ensureArity_eq_ok, needNumbers_eq_ok, Check.pure_eq, Except.ok.injEq, absent, false_and,
      ne_eq, not_false_eq_true, true_and, false_or]
    constructor
    · rintro ⟨grid, found, -, rank, -, integral, -, arity, -, numbers, rfl⟩
      exact ⟨arity, grid, found, rank, integral, numbers, rfl⟩
    · rintro ⟨arity, grid, found, rank, integral, numbers, rfl⟩
      exact ⟨grid, found, (), rank, (), integral, (), arity, (), numbers, rfl⟩

/-- An expected number of elements does not change what is decoded. -/
theorem decodeInts_arity_eq_ok {arity : Payload} {values : List Int} :
    payload.decodeInts name arity = .ok values ↔
      payload.decodeInts name = .ok values ∧
        (payload = .null ∨ arity = .null ∨ arity.isInt values.length = true) := by
  rw [decodeInts_eq_ok, decodeInts_eq_ok]
  by_cases absent : payload = .null
  · simp [absent]
  · simp [absent, and_comm]

/-- A vector of 64-bit integers is decoded to its entries. -/
theorem decodeInts_array (values : List Int) (name : String) :
    (array ⟨[values.length], .signed 64, values, (Nat.one_mul _).symm⟩).decodeInts name =
      .ok values := by
  rw [decodeInts_eq_ok]
  exact .inr ⟨by simp, .inl rfl, _, rfl, rfl, .inr rfl, listsNumbers_of_format (by simp), rfl⟩

/-! ### Lists of integers -/

/-- A list without arrays is decoded when its items are truth values and integers of one range, and
    then item by item. -/
theorem decodeInts_list_eq_ok {items : List Payload} {values : List Int}
    (plain : ∀ item ∈ items, item.NoArray) :
    (list items).decodeInts name = .ok values ↔
      (∃ signed, ∀ item ∈ items, (EntryFormat.ofLeaf item).isOf signed = true) ∧
        values = items.map entry := by
  have size {grid : Grid} (single : grid.dims = [items.length]) : grid.size = 0 ↔ items = [] := by
    simp [Grid.size, gridSize, single]
  rw [decodeInts_eq_ok, ← EntryFormat.isIntegral_formatOf plain]
  constructor
  · rintro (⟨⟨⟩, -⟩ | ⟨-, -, grid, found, rank, integral, -, rfl⟩)
    obtain ⟨-, single, format, entries⟩ := (grid?_list_eq_some plain).mp ⟨found, rank⟩
    rw [format] at integral
    exact ⟨integral.imp_left (size single).mp, entries⟩
  · rintro ⟨integral, rfl⟩
    have flat : ∀ item ∈ items, item.nesting? = some [] := by
      intro item member
      obtain ⟨signed, each⟩ := (EntryFormat.isIntegral_formatOf plain).mp integral
      rcases (EntryFormat.isOf_ofLeaf (plain item member)).mp (each item member) with
        ⟨_, rfl⟩ | ⟨_, rfl, -⟩
      · rfl
      · rfl
    let grid : Grid :=
      ⟨[items.length], EntryFormat.formatOf items, items.map entry, by simp [gridSize]⟩
    obtain ⟨found, rank⟩ : (list items).grid? = some grid ∧ grid.rank = 1 :=
      (grid?_list_eq_some plain).mpr ⟨flat, rfl, rfl, rfl⟩
    have numbers : grid.listsNumbers = true :=
      listsNumbers_of_format (EntryFormat.formatOf_ne_duration plain)
    exact Or.inr ⟨by simp, Or.inl rfl, grid, found, rank, integral.imp_left (size rfl).mpr,
      numbers, rfl⟩

/-- A list of integers is decoded when they lie in one range, and to itself. -/
theorem decodeInts_ofInts_eq_ok {values decoded : List Int} :
    (ofInts values).decodeInts name = .ok decoded ↔
      (∃ signed, ∀ n ∈ values, EntryFormat.inRange signed n = true) ∧ decoded = values := by
  have entries : (values.map Payload.int).map entry = values := by
    simp [Function.comp_def, entry]
  have plain : ∀ item ∈ values.map Payload.int, item.NoArray := by simp [NoArray]
  have ranges (signed : Bool) (n : Int) :
      (EntryFormat.ofLeaf (.int n)).isOf signed = true ↔ EntryFormat.inRange signed n = true := by
    simp [EntryFormat.isOf_ofLeaf (show (Payload.int n).NoArray by simp [NoArray])]
  rw [ofInts, decodeInts_list_eq_ok plain, entries]
  simp [ranges]

/-- A list of integers that can be decoded is decoded to itself. -/
theorem decodeInts_ofInts {values decoded : List Int}
    (success : (ofInts values).decodeInts name = .ok decoded) : decoded = values :=
  (decodeInts_ofInts_eq_ok.mp success).2

/-- A list of 64-bit integers can be decoded. -/
theorem decodeInts_of_fits {values : List Int}
    (fits : ∀ n ∈ values, fitsWord n = true) (name : String) :
    (ofInts values).decodeInts name = .ok values :=
  decodeInts_ofInts_eq_ok.mpr ⟨⟨true, fits⟩, rfl⟩

theorem decodeIntsOr_eq_ok {count : Nat} {default : Int} {values : List Int} :
    payload.decodeIntsOr name count default = .ok values ↔
      payload = .null ∧ values = List.replicate count default ∨
        payload ≠ .null ∧ payload.decodeInts name = .ok values ∧ values.length = count := by
  have counted : payload ≠ .null → (payload.decodeInts name (.int count) = .ok values ↔
      payload.decodeInts name = .ok values ∧ values.length = count) := by
    intro present
    simp only [decodeInts_eq_ok, present, false_and, false_or, ne_eq, not_false_eq_true, true_and,
      reduceCtorEq, isInt_int, true_or]
    constructor
    · rintro ⟨count, grid⟩
      exact ⟨grid, by omega⟩
    · rintro ⟨grid, rfl⟩
      exact ⟨rfl, grid⟩
  cases payload with
  | null =>
    simp only [decodeIntsOr, Except.ok.injEq, true_and, ne_eq, not_true_eq_false, false_and,
      or_false]
    exact eq_comm
  | _ => simpa [decodeIntsOr] using counted

theorem length_of_decodeIntsOr {count : Nat} {default : Int} {values : List Int}
    (decoded : payload.decodeIntsOr name count default = .ok values) : values.length = count := by
  rcases decodeIntsOr_eq_ok.mp decoded with ⟨-, rfl⟩ | ⟨-, -, length⟩
  · exact List.length_replicate
  · exact length

/-- A list of 64-bit integers is decoded where as many are expected. -/
theorem decodeIntsOr_of_fits {values : List Int}
    (fits : ∀ n ∈ values, fitsWord n = true) (name : String) (default : Int) :
    (ofInts values).decodeIntsOr name values.length default = .ok values :=
  decodeIntsOr_eq_ok.mpr (.inr ⟨by simp [ofInts], decodeInts_of_fits fits name, rfl⟩)

end Payload

end TensorTyping
