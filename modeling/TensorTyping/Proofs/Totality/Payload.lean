import TensorTyping.Payload.Order
import TensorTyping.Proofs.Items
import TensorTyping.Proofs.Payload.Decode

/-!
# Decoding without misuse

Every payload can be decoded as a vector or as a table of integers, or there is a diagnostic that
says why not. The one exception are durations: they pass for integers, and some of them cannot be
read as such. Attributes that are used as they are given have to be numbers of their sort.
-/

namespace TensorTyping

open Check

namespace Payload

variable {payload : Payload} {name : String} {excused : Misuse → Prop}

/-! ### Sorts of numbers -/

/-- The payload is an integer; a truth value counts as one. -/
def Integral (payload : Payload) : Prop := ∃ n, payload.needInt = .ok n

/-- The payload is an integer or a real number. -/
def Numeric (payload : Payload) : Prop := payload.Integral ∨ ∃ x, payload = .real x

/-- The payload is an integer greater than zero. -/
def Positive (payload : Payload) : Prop := ∃ n, payload.needInt = .ok n ∧ 0 < n

theorem integral_int (n : Int) : (Payload.int n).Integral := ⟨n, rfl⟩

theorem test_of_needInt {n : Int} (value : payload.needInt = .ok n) (onInt : Int → Bool)
    (onReal : Binary64 → Bool) : payload.test onInt onReal = .ok (onInt n) := by
  cases payload <;> simp_all [needInt, test]

theorem isWithin_meets {n : Int} (value : payload.needInt = .ok n) (least bound : Int) :
    Meets excused (fun inside => inside = true → least ≤ n ∧ n < bound)
      (payload.isWithin least bound) := by
  refine .of_ok (test_of_needInt value _ _) fun inside => ?_
  simpa using inside

theorem isInt_of_needInt {n m : Int} (value : payload.needInt = .ok n) :
    payload.isInt m = decide (m = n) := by
  cases payload with
  | int _ | bool _ =>
    obtain rfl := Except.ok.inj value
    exact decide_eq_decide.mpr eq_comm
  | _ => simp [needInt] at value

theorem Numeric.test (number : payload.Numeric) (onInt : Int → Bool) (onReal : Binary64 → Bool) :
    Meets excused (fun _ => True) (payload.test onInt onReal) := by
  rcases number with ⟨n, value⟩ | ⟨x, rfl⟩
  · exact .of_ok (test_of_needInt value onInt onReal) trivial
  · trivial

theorem Integral.numeric (number : payload.Integral) : payload.Numeric := Or.inl number

theorem Integral.isPosition (number : payload.Integral) (rank : Option Nat) :
    Meets excused (fun _ => True) (payload.isPosition rank) := by
  cases rank with
  | some n => exact number.numeric.test _ _
  | none =>
    apply (number.numeric.test _ _).bind
    intro below _ _
    trivial

theorem Integral.times {payload : Payload} (number : payload.Integral) (n : Int) :
    ∃ product, payload.times (.int n) = .ok product := by
  obtain ⟨value, found⟩ := number
  cases payload <;> simp_all [needInt, Payload.times]

theorem divides_of_needInt {divisor : Payload} {k : Int} (value : divisor.needInt = .ok k)
    (positive : 0 < k) (n : Int) : divisor.divides n = .ok (n % k == 0) := by
  have left := floorMod_of_pos positive n
  cases divisor <;> simp_all [needInt, Payload.divides]

theorem areDistinct_of_integral {payloads : List Payload}
    (all : ∀ payload ∈ payloads, payload.Integral) :
    areDistinct payloads = .ok (areDistinct.distinct payloads) := by
  refine if_neg ?_
  rw [List.any_eq_true]
  rintro ⟨payload, member, compound⟩
  obtain ⟨n, value⟩ := all payload member
  cases payload <;> simp [needInt] at value compound

theorem share_of_needInt {divisor : Payload} {k : Int} (value : divisor.needInt = .ok k)
    (positive : 0 < k) (n : Int) : divisor.share n = .ok (.int (n / k)) := by
  have part := floorDiv_of_pos positive n
  cases divisor <;> simp_all [needInt, Payload.share]

/-! ### Durations -/

/-- The payload forms an array of durations, some of which are not listed as numbers. -/
def Timed (payload : Payload) : Prop :=
  ∃ grid, payload.grid? = some grid ∧ grid.listsNumbers = false

/-- If the payload is a timed one, then it is excused that its entries are no numbers. -/
def TimedIsExcused (payload : Payload) (excused : Misuse → Prop) : Prop :=
  payload.Timed → excused .wrongSort

/-- The payload forms a vector of durations, some of which are not listed as numbers. -/
def TimedVector (payload : Payload) : Prop :=
  ∃ grid, payload.grid? = some grid ∧ grid.rank = 1 ∧ grid.listsNumbers = false

theorem TimedVector.timed (vector : payload.TimedVector) : payload.Timed := by
  obtain ⟨grid, found, -, others⟩ := vector
  exact ⟨grid, found, others⟩

theorem not_timed_of_format (nested : payload.NoArray)
    (plain : ∀ unit, EntryFormat.formatOf payload.leaves ≠ .duration unit) : ¬ payload.Timed := by
  rintro ⟨grid, found, others⟩
  obtain ⟨-, format, -⟩ := (grid?_eq_some nested).mp found
  have numbers : grid.listsNumbers = true := listsNumbers_of_format (format ▸ plain)
  rw [numbers] at others
  cases others

theorem TimedIsExcused.vector (timed : payload.TimedIsExcused excused)
    (vector : payload.TimedVector) : excused .wrongSort :=
  timed vector.timed

/-- Where there are no arrays, there are no durations. -/
theorem not_timed_of_leaves (plain : ∀ leaf ∈ payload.leaves, leaf.NoArray) : ¬ payload.Timed := by
  refine not_timed_of_format ?_ (EntryFormat.formatOf_ne_duration plain)
  rintro grid rfl
  exact plain (.array grid) List.mem_cons_self grid rfl

/-- A list with an unknown item is no array of durations. -/
theorem not_timed_of_null {items : List Payload} (unknown : .null ∈ items) :
    ¬ (list items).Timed := by
  have leaf : .null ∈ (list items).leaves := by
    rw [leaves_list]
    exact List.mem_flatMap.mpr ⟨.null, unknown, List.mem_singleton_self _⟩
  refine not_timed_of_format (by simp [NoArray]) ?_
  rw [EntryFormat.formatOf_eq_object leaf]
  simp

theorem not_timed_null : ¬ Payload.null.Timed := not_timed_of_leaves (by simp [leaves, NoArray])

theorem timedIsExcused_null : Payload.null.TimedIsExcused excused :=
  fun timed => absurd timed not_timed_null

theorem timedIsExcused_ofExtents (values : List Extent) :
    (ofExtents values).TimedIsExcused excused := by
  refine fun timed => absurd timed (not_timed_of_leaves ?_)
  rw [leaves_ofExtents]
  refine List.forall_mem_map.mpr fun extent _ => ?_
  cases extent <;> simp [ofExtent, NoArray]

theorem timedIsExcused_ofInts (values : List Int) : (ofInts values).TimedIsExcused excused := by
  refine fun timed => absurd timed (not_timed_of_leaves ?_)
  rw [leaves_ofInts]
  exact List.forall_mem_map.mpr fun _ _ => by simp [NoArray]

theorem needNumbers_eq_misuse {grid : Grid} {m : Misuse} :
    needNumbers grid = misuse m ↔ grid.listsNumbers = false ∧ m = .wrongSort := by
  cases numbers : grid.listsNumbers <;> simp [needNumbers, numbers, misuse, eq_comm]

theorem needNumbers_meets {grid : Grid} (timed : payload.TimedIsExcused excused)
    (found : payload.grid? = some grid) : Meets excused (fun _ => True) (needNumbers grid) := by
  refine .of_outcomes (fun _ _ => trivial) fun m failed => ?_
  obtain ⟨others, rfl⟩ := needNumbers_eq_misuse.mp failed
  exact timed ⟨grid, found, others⟩

/-! ### Decoders -/

theorem rectangle_meets (payload : Payload) (name : String) :
    Meets excused (fun grid => payload.grid? = some grid) (payload.rectangle name) := by
  unfold rectangle
  cases payload.grid? with
  | some grid => exact rfl
  | none => trivial

theorem ensureArity_meets (name : String) (arity : Payload) (length : Nat) :
    Meets excused (fun _ => True) (ensureArity name arity length) := by
  unfold ensureArity
  split
  · trivial
  · exact Meets.ensure.weaken

theorem isIntegral_of_not_listsNumbers {grid : Grid} (others : grid.listsNumbers = false) :
    grid.format.isIntegral = true := by
  cases format : grid.format with
  | duration unit => rfl
  | _ =>
    have numbers : grid.listsNumbers = true := listsNumbers_of_format (by simp [format])
    rw [numbers] at others
    cases others

/-- Vectors of durations are the only payloads for which there is neither a vector of integers nor
    a diagnostic. -/
theorem decodeInts_eq_misuse {m : Misuse} :
    payload.decodeInts name = misuse m ↔ m = .wrongSort ∧ payload.TimedVector := by
  by_cases absent : payload = .null
  · subst absent
    refine iff_of_false (by simp [decodeInts, misuse]) ?_
    rintro ⟨-, vector⟩
    exact not_timed_null vector.timed
  · rw [decodeInts_of_ne_null absent]
    have nested := (rectangle_meets payload name).ne_misuse m
    have condition (p : Prop) [Decidable p] (kind : Diagnostic.Kind) (message : String) :
        ensure p kind message ≠ misuse m := Meets.ensure.ne_misuse m
    have arity (length : Nat) : ensureArity name .null length = .ok () := rfl
    have listed (grid : Grid) : (pure grid.entries : Check (List Int)) ≠ misuse m := by
      simp [misuse]
    simp only [bind_eq_misuse, nested, rectangle_eq_ok, ensureRank, ensureIntegers, condition,
      ensure_eq_ok, arity, Check.ok_bind, needNumbers_eq_misuse, listed, and_false, exists_const,
      or_false, false_or]
    constructor
    · rintro ⟨grid, found, rank, -, others, rfl⟩
      exact ⟨rfl, grid, found, rank, others⟩
    · rintro ⟨rfl, grid, found, rank, others⟩
      exact ⟨grid, found, rank, .inr (isIntegral_of_not_listsNumbers others), others, rfl⟩

theorem decodeInts_meets (timed : payload.TimedIsExcused excused) (name : String)
    (arity : Payload) : Meets excused (fun _ => True) (payload.decodeInts name arity) := by
  by_cases absent : payload = .null
  · subst absent
    trivial
  · rw [decodeInts_of_ne_null absent]
    apply (rectangle_meets payload name).bind
    intro grid _ found
    apply Meets.ensure.andThen
    apply Meets.ensure.andThen
    apply (ensureArity_meets name arity _).andThen
    apply (needNumbers_meets timed found).andThen
    trivial

theorem decodeIntsOr_meets (timed : payload.TimedIsExcused excused) (name : String) (count : Nat)
    (default : Int) :
    Meets excused (fun values => values.length = count)
      (payload.decodeIntsOr name count default) := by
  have decoded : Meets excused (fun _ => True) (payload.decodeIntsOr name count default) := by
    unfold decodeIntsOr
    split
    · trivial
    · exact decodeInts_meets timed name (.int count)
  exact decoded.mono fun _ success _ => length_of_decodeIntsOr success

theorem decodeBools_meets (payload : Payload) (name : String) :
    Meets excused (fun _ => True) (payload.decodeBools name) := by
  unfold decodeBools
  split
  · trivial
  · apply (rectangle_meets payload name).bind
    intro grid _ _
    apply Meets.ensure.andThen
    apply Meets.ensure.andThen
    trivial

theorem length_of_mem_chunks {α : Type} {width count : Nat} {items : List α}
    (length : items.length = count * width) :
    ∀ row ∈ chunks width count items, row.length = width := by
  induction count generalizing items with
  | zero => simp [chunks]
  | succ count ih =>
    rw [Nat.succ_mul] at length
    rw [chunks, List.forall_mem_cons]
    refine ⟨?_, ih ?_⟩
    · rw [List.length_take]
      omega
    · rw [List.length_drop]
      omega

/-- The rows of an array are as long as its second extent says. -/
theorem length_of_mem_rowsOf {grid : Grid} (rank : grid.rank = 2) {width : Nat}
    (second : grid.dims[1]? = some width) : ∀ row ∈ rowsOf grid, row.length = width := by
  obtain ⟨count, columns, dims⟩ := List.length_eq_two.mp rank
  rw [dims] at second
  obtain rfl : columns = width := Option.some.inj second
  rw [rowsOf, dims]
  refine length_of_mem_chunks ?_
  rw [grid.filled, dims, gridSize_cons, gridSize_cons, gridSize, List.foldl_nil, Nat.mul_one]

/-- Every row of a table is as long as it was asked for. -/
theorem decodeTable_meets (timed : payload.TimedIsExcused excused) (name : String)
    (columns : Int) :
    Meets excused (fun rows => ∀ row ∈ rows, (row.length : Int) = columns)
      (payload.decodeTable name (.int columns)) := by
  unfold decodeTable
  split
  · exact List.forall_mem_nil _
  · apply (rectangle_meets payload name).bind
    intro grid _ found
    apply Meets.ensure_bind
    intro rank
    apply Meets.ensure.andThen
    have two : ((1 : Nat) : Int) < grid.dims.length := by
      have length : grid.dims.length = 2 := rank
      omega
    apply (Meets.itemAt (fun _ _ => trivial) (Int.natCast_nonneg 1) two).bind
    intro width second _
    apply Meets.ensure_bind
    intro asked
    apply (needNumbers_meets timed found).andThen
    intro row member
    rw [length_of_mem_rowsOf rank (itemAt_natCast_eq_ok.mp second) row member]
    exact (beq_iff_eq.mp asked).symm

/-- Every row of a padding is a pair. -/
theorem readPadding_meets {arity : Payload} (timed : payload.TimedIsExcused excused)
    (count : arity.Integral) :
    Meets excused (fun rows => ∀ row ∈ rows, row.length = 2) (payload.readPadding arity name) := by
  obtain ⟨n, value⟩ := count
  unfold readPadding
  split
  · apply Meets.bind_ok value
    intro row member
    rw [List.eq_of_mem_replicate member]
    rfl
  · apply (rectangle_meets payload name).bind
    intro grid _ found
    apply Meets.ensure_bind
    rintro ⟨rank, last⟩
    apply Meets.ensure.andThen
    apply Meets.ensure.andThen
    apply (needNumbers_meets timed found).andThen
    have length : grid.dims.length = 2 := rank
    rw [List.getLast?_eq_getElem?, length] at last
    exact length_of_mem_rowsOf rank last

theorem decodeRow_meets (name : String) (row : Payload) :
    Meets excused (fun _ => True) (decodeRow name row) := by
  unfold decodeRow
  split
  · trivial
  · split
    · trivial
    · apply Meets.ensure.andThen
      trivial

theorem decodeRowList_meets (name : String) (rows : List Payload) :
    Meets excused (fun _ => True) (decodeRowList name rows) := by
  induction rows with
  | nil => trivial
  | cons row rest ih =>
    apply (decodeRow_meets name row).bind
    intro values _ _
    cases values with
    | none => trivial
    | some values =>
      apply ih.bind
      intro others _ _
      cases others <;> trivial

theorem decodeRows_meets (timed : payload.TimedIsExcused excused) :
    Meets excused (fun _ => True) (payload.decodeRows name) := by
  unfold decodeRows
  cases payload with
  | array grid =>
    dsimp only
    split
    · trivial
    · apply Meets.ensure.andThen
      apply (needNumbers_meets timed rfl).andThen
      trivial
  | list items => exact decodeRowList_meets name items
  | _ => trivial

end Payload

end TensorTyping
