import Mathlib.Data.List.Forall2
import Mathlib.Data.List.Infix
import Mathlib.Data.List.Nodup
import Mathlib.Data.List.Range
import TensorTyping.Proofs.Indexing.Mapping
import TensorTyping.Proofs.Items

/-!
# Items at marked positions

A gather puts its result together from two lists, one for the marked positions and one for the
others; a scatter takes its update apart in the same way. `itemsAt` is the list of the items at
marked positions, in order. `Gather.fill` succeeds with a list exactly when its items at offset
positions begin the slice sizes and its other items begin the extents of the start indices without
the index vector dimension.
-/

namespace TensorTyping

/-- The items at marked positions, which are counted from `start`. -/
def itemsAt {α : Type} (marked : Nat → Bool) : (start : Nat) → List α → List α
  | _, [] => []
  | start, item :: rest =>
      if marked start then item :: itemsAt marked (start + 1) rest
      else itemsAt marked (start + 1) rest

section ItemsAt

variable {α : Type} {marked marked' : Nat → Bool}

@[simp] theorem itemsAt_nil (start : Nat) : itemsAt marked start ([] : List α) = [] := rfl

theorem itemsAt_cons (start : Nat) (item : α) (rest : List α) :
    itemsAt marked start (item :: rest) =
      if marked start then item :: itemsAt marked (start + 1) rest
      else itemsAt marked (start + 1) rest := rfl

theorem itemsAt_congr {start : Nat} (items : List α)
    (agree : ∀ i, start ≤ i → marked i = marked' i) :
    itemsAt marked start items = itemsAt marked' start items := by
  induction items generalizing start with
  | nil => rfl
  | cons item rest ih =>
    have later := @ih (start + 1) fun i h => agree i (by omega)
    rw [itemsAt_cons, itemsAt_cons, agree start (by omega), later]

/-- Lists that agree at the marked positions. -/
theorem itemsAt_congr_items {start : Nat} {items items' : List α}
    (length : items.length = items'.length)
    (agree : ∀ i, marked (start + i) = true → items[i]? = items'[i]?) :
    itemsAt marked start items = itemsAt marked start items' := by
  induction items generalizing items' start with
  | nil => rw [List.eq_nil_of_length_eq_zero length.symm]
  | cons item rest ih =>
    cases items' with
    | nil => simp at length
    | cons item' rest' =>
      have later : itemsAt marked (start + 1) rest = itemsAt marked (start + 1) rest' := by
        refine ih (Nat.succ.inj length) fun i mark => ?_
        have here := agree (i + 1) (by rwa [Nat.add_right_comm, Nat.add_assoc] at mark)
        simpa using here
      rw [itemsAt_cons, itemsAt_cons, later]
      by_cases mark : marked start = true
      · have first : item = item' := by simpa using agree 0 mark
        rw [first]
      · simp only [mark, Bool.false_eq_true, if_false]

theorem itemsAt_none {start : Nat} (items : List α) (none : ∀ i, start ≤ i → marked i = false) :
    itemsAt marked start items = [] := by
  induction items generalizing start with
  | nil => rfl
  | cons item rest ih =>
    have unmarked := none start (by omega)
    rw [itemsAt_cons, unmarked]
    exact ih fun i h => none i (by omega)

theorem itemsAt_all {start : Nat} (items : List α)
    (all : ∀ i, start ≤ i → i < start + items.length → marked i = true) :
    itemsAt marked start items = items := by
  induction items generalizing start with
  | nil => rfl
  | cons item rest ih =>
    rw [List.length_cons] at all
    have here := all start (by omega) (by omega)
    have later := @ih (start + 1) fun i after before => all i (by omega) (by omega)
    rw [itemsAt_cons, if_pos here, later]

theorem itemsAt_append (start : Nat) (items items' : List α) :
    itemsAt marked start (items ++ items') =
      itemsAt marked start items ++ itemsAt marked (start + items.length) items' := by
  induction items generalizing start with
  | nil => rfl
  | cons item rest ih =>
    rw [List.cons_append, itemsAt_cons, itemsAt_cons, ih, List.length_cons, Nat.add_right_comm,
      Nat.add_assoc]
    split <;> rfl

theorem itemsAt_map {β : Type} (f : α → β) (start : Nat) (items : List α) :
    itemsAt marked start (items.map f) = (itemsAt marked start items).map f := by
  induction items generalizing start with
  | nil => rfl
  | cons item rest ih =>
    rw [List.map_cons, itemsAt_cons, itemsAt_cons, ih]
    split <;> rfl

theorem mem_of_mem_itemsAt {start : Nat} {items : List α} {item : α}
    (member : item ∈ itemsAt marked start items) : item ∈ items := by
  induction items generalizing start with
  | nil => exact member
  | cons first rest ih =>
    rw [itemsAt_cons] at member
    split at member
    · rcases List.mem_cons.mp member with rfl | member
      · exact List.mem_cons_self
      · exact List.mem_cons_of_mem _ (ih member)
    · exact List.mem_cons_of_mem _ (ih member)

theorem forall₂_itemsAt {β : Type} {related : α → β → Prop} {items : List α} {items' : List β}
    (all : List.Forall₂ related items items') (start : Nat) :
    List.Forall₂ related (itemsAt marked start items) (itemsAt marked start items') := by
  induction all generalizing start with
  | nil => exact .nil
  | cons first _ ih =>
    rw [itemsAt_cons, itemsAt_cons]
    split
    · exact .cons first (ih (start + 1))
    · exact ih (start + 1)

/-- Every position is marked or not. -/
theorem length_itemsAt_add (start : Nat) (items : List α) :
    (itemsAt marked start items).length + (itemsAt (fun i => !marked i) start items).length =
      items.length := by
  induction items generalizing start with
  | nil => rfl
  | cons item rest ih =>
    have later := ih (start + 1)
    rw [itemsAt_cons, itemsAt_cons]
    cases marked start with
    | true =>
      simp only [if_true, Bool.not_true, Bool.false_eq_true, if_false, List.length_cons]
      omega
    | false =>
      simp only [if_true, Bool.not_false, Bool.false_eq_true, if_false, List.length_cons]
      omega

theorem length_itemsAt (start : Nat) (items : List α) :
    (itemsAt marked start items).length = (List.range' start items.length).countP marked := by
  induction items generalizing start with
  | nil => rfl
  | cons item rest ih =>
    rw [List.length_cons, List.range'_succ, List.countP_cons, itemsAt_cons, ← ih (start + 1)]
    split <;> simp

end ItemsAt

/-! ### Positions that are listed -/

/-- The position is one of the listed ones. -/
def listed (positions : List Int) (i : Nat) : Bool := positions.contains (Int.ofNat i)

theorem Shape.without_eq (dims : List Extent) (positions : List Int) :
    without dims positions = itemsAt (fun i => !listed positions i) 0 dims := by
  unfold without
  generalize 0 = start
  induction dims generalizing start with
  | nil => rfl
  | cons dim rest ih =>
    rw [itemsAt_cons, ← ih (start + 1), List.zipIdx_cons, List.filter_cons]
    unfold listed
    split <;> rfl

theorem countP_listed {positions : List Int} {count : Nat} (unique : positions.Nodup)
    (inRange : ∀ d ∈ positions, 0 ≤ d ∧ d < count) :
    (List.range' 0 count).countP (listed positions) = positions.length := by
  rw [List.countP_eq_length_filter, ← List.range_eq_range']
  have numbers : (positions.map Int.toNat).Nodup := by
    refine List.Nodup.map_on ?_ unique
    intro a ha b hb equal
    have boundA := inRange a ha
    have boundB := inRange b hb
    omega
  have marked : ((List.range count).filter (listed positions)).Perm
      (positions.map Int.toNat) := by
    refine (List.perm_ext_iff_of_nodup (List.nodup_range.filter _) numbers).mpr ?_
    intro i
    simp only [List.mem_filter, List.mem_range, listed, List.contains_iff_mem, List.mem_map]
    constructor
    · rintro ⟨-, member⟩
      exact ⟨_, member, rfl⟩
    · rintro ⟨d, member, rfl⟩
      have bounds := inRange d member
      have same : Int.ofNat d.toNat = d := by
        rw [Int.ofNat_eq_natCast]
        omega
      exact ⟨by omega, same ▸ member⟩
  rw [marked.length_eq, List.length_map]

/-- Distinct positions of a list mark as many of its items. -/
theorem length_itemsAt_listed {α : Type} {positions : List Int} (items : List α)
    (unique : positions.Nodup) (inRange : ∀ d ∈ positions, 0 ≤ d ∧ d < items.length) :
    (itemsAt (listed positions) 0 items).length = positions.length := by
  rw [length_itemsAt, countP_listed unique inRange]

theorem isSorted_iff {dims : List Int} :
    Dimensions.isSorted dims = true ↔ dims.Pairwise (· ≤ ·) := by
  rw [← List.isChain_iff_pairwise]
  fun_induction Dimensions.isSorted dims with
  | case1 a b rest ih => rw [Bool.and_eq_true, ih, List.isChain_cons_cons, decide_eq_true_eq]
  | case2 dims short =>
    match dims, short with
    | [], _ => simp
    | [a], _ => simp
    | a :: b :: rest, short => exact absurd rfl (short a b rest)

theorem listed_cons_of_ne {positions : List Int} {d : Int} {i : Nat} (apart : (i : Int) ≠ d) :
    listed (d :: positions) i = listed positions i := by
  simp [listed, apart]

theorem listed_of_forall_lt {positions : List Int} {i : Nat}
    (later : ∀ d ∈ positions, (i : Int) < d) : listed positions i = false := by
  simp only [listed, List.contains_eq_mem, decide_eq_false_iff_not, Int.ofNat_eq_natCast]
  intro member
  exact Int.lt_irrefl _ (later _ member)

/-- Beyond the first item, positions are those of the rest, one further to the left. -/
theorem map_getElem?_cons {α : Type} {positions : List Int} {start : Nat} (item : α)
    (items : List α) (later : ∀ d ∈ positions, (start : Int) < d) :
    positions.map (fun d => (item :: items)[d.toNat - start]?) =
      positions.map (fun d => items[d.toNat - (start + 1)]?) := by
  refine List.map_congr_left fun d member => ?_
  have beyond := later d member
  have step : d.toNat - start = d.toNat - (start + 1) + 1 := by omega
  rw [step, List.getElem?_cons_succ]

/-- The items at sorted positions, taken one position after another. -/
theorem map_getElem?_sorted {α : Type} {positions : List Int} {start : Nat} (items : List α)
    (sorted : positions.Pairwise (· < ·))
    (inRange : ∀ d ∈ positions, start ≤ d ∧ d < start + items.length) :
    positions.map (fun d => items[d.toNat - start]?) =
      (itemsAt (listed positions) start items).map some := by
  induction items generalizing positions start with
  | nil =>
    cases positions with
    | nil => rfl
    | cons d rest =>
      have bounds := inRange d List.mem_cons_self
      simp only [List.length_nil] at bounds
      omega
  | cons item items ih =>
    rw [List.length_cons] at inRange
    have rest : ∀ later : List Int, later.Pairwise (· < ·) → later ⊆ positions →
        (∀ d ∈ later, (start : Int) < d) →
        later.map (fun d => (item :: items)[d.toNat - start]?) =
          (itemsAt (listed later) (start + 1) items).map some := by
      intro later sorted within beyond
      rw [map_getElem?_cons item items beyond]
      refine ih sorted fun d member => ?_
      have above := beyond d member
      have bounds := inRange d (within member)
      omega
    cases positions with
    | nil =>
      have empty : itemsAt (listed []) start (item :: items) = [] := itemsAt_none _ fun _ _ => rfl
      rw [empty, List.map_nil, List.map_nil]
    | cons d positions =>
      obtain ⟨first, sorted'⟩ := List.pairwise_cons.mp sorted
      have bounds := inRange d List.mem_cons_self
      by_cases here : d = start
      · subst here
        have marked : listed (start :: positions) start = true := by simp [listed]
        have unmarked : ∀ i, start + 1 ≤ i → listed (start :: positions) i = listed positions i :=
          fun i later => listed_cons_of_ne (by omega)
        have others := rest positions sorted' (List.subset_cons_self _ _) first
        rw [itemsAt_cons, marked, if_pos rfl, itemsAt_congr items unmarked, List.map_cons,
          List.map_cons, ← others]
        simp
      · have beyond : ∀ e ∈ d :: positions, (start : Int) < e := by
          intro e member
          rcases List.mem_cons.mp member with rfl | member
          · omega
          · have above := first e member
            omega
        rw [itemsAt_cons, listed_of_forall_lt beyond, if_neg Bool.false_ne_true]
        exact rest _ sorted (List.Subset.refl _) beyond

/-! ### Positions of a valid mapping -/

namespace Mapping

/-- The operand dimensions that do not reach the result. -/
def dropped (dims : GatherDims) : List Int := dims.collapsedSliceDims ++ dims.operandBatchingDims

variable {α : Type} {indices : Tensor} {dims : GatherDims}

theorem Valid.dropped_inRange {rank : Nat} (valid : Valid (some rank) indices dims) :
    ∀ k ∈ dropped dims, 0 ≤ k ∧ k < rank := by
  intro k member
  have position : Dimensions.isPosition (some rank) k = true := by
    rcases List.mem_append.mp member with member | member
    · exact valid.collapsedInRange k member
    · exact valid.batchingInRange k member
  simpa [Dimensions.isPosition] using position

theorem Valid.length_kept {rank : Nat} (valid : Valid (some rank) indices dims)
    (total : dims.offsetDims.length + dims.collapsedSliceDims.length +
      dims.operandBatchingDims.length = rank) (items : List α) (length : items.length = rank) :
    (itemsAt (fun i => !listed (dropped dims) i) 0 items).length = dims.offsetDims.length := by
  have unique : (dropped dims).Nodup :=
    List.nodup_append'.mpr ⟨valid.collapsedUnique, valid.batchingUnique, valid.collapsedApart⟩
  have count := length_itemsAt_listed items unique (length ▸ valid.dropped_inRange)
  have both := @length_itemsAt_add _ (listed (dropped dims)) 0 items
  have sum : (dropped dims).length =
      dims.collapsedSliceDims.length + dims.operandBatchingDims.length := List.length_append
  omega

/-- The offset dimensions of a valid mapping are in strict order. -/
theorem Valid.offset_increasing {rank : Option Nat} (valid : Valid rank indices dims) :
    dims.offsetDims.Pairwise (· < ·) := by
  have ordered := (isSorted_iff.mp valid.offsetSorted).and valid.offsetUnique
  refine ordered.imp ?_
  intro a b both
  omega

theorem Valid.length_offset {rank : Option Nat} {items : List α} (valid : Valid rank indices dims)
    (inRange : ∀ k ∈ dims.offsetDims, k < items.length) :
    (itemsAt (listed dims.offsetDims) 0 items).length = dims.offsetDims.length :=
  length_itemsAt_listed items valid.offsetUnique
    fun k member => ⟨valid.offsetNonneg k member, inRange k member⟩

end Mapping

/-! ### Gathering and scattering by positions -/

/-- The extents of the start indices from the position `next` on, without the one at position
    `d`. -/
def batchFrom {α : Type} (d : Nat) (starts : List α) (next : Nat) : List α :=
  if next ≤ d then (starts.drop next).eraseIdx (d - next) else starts.drop next

/-- The position of the next extent that is not the one at position `d`. -/
def sourceFrom (d next : Nat) : Nat := if next = d then next + 1 else next

/-- An attribute that names the dimension `d` steps over it and over no other one. -/
theorem ite_isInt_eq_sourceFrom {dimension : Payload} {d : Nat}
    (vector : ∀ m : Nat, dimension.isInt m = true ↔ m = d) (next : Nat) :
    (if dimension.isInt next = true then next + 1 else next) = sourceFrom d next := by
  rw [sourceFrom]
  simp only [vector next]

theorem batchFrom_of_some {α : Type} {d next : Nat} {starts : List α} {item : α}
    (found : starts[sourceFrom d next]? = some item) :
    batchFrom d starts next = item :: batchFrom d starts (sourceFrom d next + 1) := by
  obtain ⟨inside, rfl⟩ := List.getElem?_eq_some_iff.mp found
  unfold batchFrom
  by_cases here : next = d
  · subst here
    have source : sourceFrom next next = next + 1 := if_pos rfl
    simp only [source] at inside ⊢
    rw [if_pos (Nat.le_refl next), Nat.sub_self, List.eraseIdx_zero, List.tail_drop,
      if_neg (by omega), List.drop_eq_getElem_cons inside]
  · have source : sourceFrom d next = next := if_neg here
    simp only [source] at inside ⊢
    rw [List.drop_eq_getElem_cons inside]
    by_cases before : next ≤ d
    · have step : d - next = d - (next + 1) + 1 := by omega
      rw [if_pos before, if_pos (by omega), step, List.eraseIdx_cons_succ]
    · rw [if_neg before, if_neg (by omega)]

theorem batchFrom_of_none {α : Type} {d next : Nat} {starts : List α}
    (missing : starts[sourceFrom d next]? = none) : batchFrom d starts next = [] := by
  rw [List.getElem?_eq_none_iff] at missing
  unfold batchFrom
  by_cases here : next = d
  · subst here
    have source : sourceFrom next next = next + 1 := if_pos rfl
    rw [source] at missing
    rw [if_pos (Nat.le_refl next), Nat.sub_self, List.eraseIdx_zero, List.tail_drop,
      List.drop_of_length_le missing]
  · have source : sourceFrom d next = next := if_neg here
    rw [source] at missing
    rw [List.drop_of_length_le missing, List.eraseIdx_nil, ite_self]

theorem batchFrom_zero {α : Type} (d : Nat) (starts : List α) :
    batchFrom d starts 0 = starts.eraseIdx d := by
  rw [batchFrom, if_pos (Nat.zero_le d), List.drop_zero, Nat.sub_zero]

theorem Gather.keptSizes_eq_ok {α : Type} (dropped : List Int) (sizes : List α)
    (count position : Nat) (whole : position + count = sizes.length) :
    keptSizes sizes dropped count position =
      .ok (itemsAt (fun i => !listed dropped i) position (sizes.drop position)) := by
  induction count generalizing position with
  | zero =>
    rw [List.drop_of_length_le (by omega)]
    rfl
  | succ count ih =>
    have inside : position < sizes.length := by omega
    have rest := ih (position + 1) (by omega)
    rw [List.drop_eq_getElem_cons inside, itemsAt_cons, keptSizes, rest]
    change (if listed dropped position = true then _ else _) = _
    cases listed dropped position with
    | true => simp
    | false =>
      have found := itemAt_natCast_eq_ok.mpr (List.getElem?_eq_getElem inside)
      simp [found]

/-- One step of filling a result. An offset position takes the first of the sizes that are left, any
    other one the next extent of the start indices. -/
theorem Gather.fill_succ_eq_ok {α : Type} {starts : List α} {dims : GatherDims}
    {count position : Nat} {sizes : List α} {next : Nat} {result : List α} :
    fill starts dims (count + 1) position sizes next = .ok result ↔
      ∃ item rest, result = item :: rest ∧
        ((listed dims.offsetDims position = true ∧ ∃ sizes', sizes = item :: sizes' ∧
            fill starts dims count (position + 1) sizes' next = .ok rest) ∨
          (listed dims.offsetDims position = false ∧
            let source := if dims.indexVectorDim.isInt next then next + 1 else next
            starts[source]? = some item ∧
              fill starts dims count (position + 1) sizes (source + 1) = .ok rest)) := by
  conv_lhs => unfold fill
  change (if listed dims.offsetDims position = true then _ else _) = _ ↔ _
  by_cases marked : listed dims.offsetDims position = true
  · rw [if_pos marked]
    cases sizes with
    | nil => simp [marked]
    | cons size sizes =>
      simp only [Check.bind_eq_ok, Check.pure_eq, Except.ok.injEq]
      constructor
      · rintro ⟨rest, filled, rfl⟩
        exact ⟨size, rest, rfl, .inl ⟨marked, sizes, rfl, filled⟩⟩
      · rintro ⟨_, rest, rfl, ⟨-, _, ⟨⟩, filled⟩ | ⟨unmarked, -⟩⟩
        · exact ⟨rest, filled, rfl⟩
        · exact absurd marked (Bool.eq_false_iff.mp unmarked)
  · rw [if_neg marked]
    simp only [Check.bind_eq_ok, itemAt_natCast_eq_ok, Check.pure_eq, Except.ok.injEq]
    constructor
    · rintro ⟨item, found, rest, filled, rfl⟩
      exact ⟨item, rest, rfl, .inr ⟨Bool.eq_false_iff.mpr marked, found, filled⟩⟩
    · rintro ⟨item, rest, rfl, ⟨marked', -⟩ | ⟨-, found, filled⟩⟩
      · exact absurd marked' marked
      · exact ⟨item, found, rest, filled, rfl⟩

section IndexVector

variable {dims : GatherDims} {d : Nat}

/-- The items of a result at offset positions begin the sizes, and the others begin the extents of
    the start indices. -/
theorem Gather.fill_eq_ok {α : Type} {starts : List α}
    (vector : ∀ m : Nat, dims.indexVectorDim.isInt m = true ↔ m = d) {count position : Nat}
    {sizes : List α} {next : Nat} {result : List α} :
    fill starts dims count position sizes next = .ok result ↔
      result.length = count ∧ itemsAt (listed dims.offsetDims) position result <+: sizes ∧
        itemsAt (fun i => !listed dims.offsetDims i) position result <+:
          batchFrom d starts next := by
  induction count generalizing position sizes next result with
  | zero =>
    rw [fill, Except.ok.injEq, List.length_eq_zero_iff]
    constructor
    · rintro rfl
      exact ⟨rfl, List.nil_prefix, List.nil_prefix⟩
    · exact fun h => h.1.symm
  | succ count ih =>
    simp only [fill_succ_eq_ok, ite_isInt_eq_sourceFrom vector, ih]
    constructor
    · rintro ⟨item, rest, rfl, ⟨marked, _, rfl, length, window, batch⟩ |
        ⟨unmarked, found, length, window, batch⟩⟩
      · simp [itemsAt_cons, marked, length, window, batch]
      · simp [itemsAt_cons, unmarked, length, window, batch, batchFrom_of_some found]
    · rintro ⟨length, window, batch⟩
      obtain ⟨item, rest, rfl⟩ := List.exists_cons_of_length_eq_add_one length
      refine ⟨item, rest, rfl, ?_⟩
      rw [List.length_cons, Nat.add_right_cancel_iff] at length
      rw [itemsAt_cons] at window batch
      cases marked : listed dims.offsetDims position with
      | true =>
        simp only [marked, if_true, Bool.not_true, Bool.false_eq_true, if_false] at window batch
        obtain ⟨sizes', rfl, others⟩ := List.cons_prefix_iff.mp window
        exact .inl ⟨rfl, sizes', rfl, length, others, batch⟩
      | false =>
        simp only [marked, if_true, Bool.not_false, Bool.false_eq_true, if_false] at window batch
        cases found : starts[sourceFrom d next]? with
        | none => simp [batchFrom_of_none found] at batch
        | some start =>
          rw [batchFrom_of_some found, List.cons_prefix_cons] at batch
          obtain ⟨rfl, others⟩ := batch
          exact .inr ⟨rfl, rfl, length, window, others⟩

/-- A gather composes a result exactly when the parts of the result are the sizes that are kept and
    the extents of the start indices without the index vector dimension. -/
theorem Gather.resultDims_eq_ok {α : Type} {indices : Tensor} {starts sizes result : List α}
    (valid : Mapping.Valid (some sizes.length) indices dims)
    (total : dims.offsetDims.length + dims.collapsedSliceDims.length +
      dims.operandBatchingDims.length = sizes.length)
    (vector : ∀ m : Nat, dims.indexVectorDim.isInt m = true ↔ m = d) {rank : Nat}
    (counted : rank = dims.offsetDims.length + (starts.eraseIdx d).length)
    (inRange : ∀ k ∈ dims.offsetDims, k < rank) :
    resultDims rank sizes.length starts sizes dims = .ok result ↔
      result.length = rank ∧
        itemsAt (listed dims.offsetDims) 0 result =
          itemsAt (fun i => !listed (Mapping.dropped dims) i) 0 sizes ∧
        itemsAt (fun i => !listed dims.offsetDims i) 0 result = starts.eraseIdx d := by
  have kept := valid.length_kept total sizes rfl
  rw [resultDims, keptSizes_eq_ok _ _ _ _ (Nat.zero_add _), Check.ok_bind, fill_eq_ok vector,
    batchFrom_zero, List.drop_zero]
  change _ ∧ _ <+: itemsAt (fun i => !listed (Mapping.dropped dims) i) 0 _ ∧ _ ↔ _
  constructor
  · rintro ⟨rfl, window, batch⟩
    have offset := valid.length_offset inRange
    have both := @length_itemsAt_add _ (listed dims.offsetDims) 0 result
    exact ⟨rfl, window.eq_of_length (by omega), batch.eq_of_length (by omega)⟩
  · rintro ⟨length, window, batch⟩
    rw [window, batch]
    exact ⟨length, List.prefix_rfl, List.prefix_rfl⟩

end IndexVector

/-- The known extents of an update outside its window begin those of the indices, when there are not
    too many of them. -/
theorem Scatter.verifyBatch_eq_ok {dims : ScatterDims} {d : Nat} {indices : Tensor}
    {starts : List Int} (shape : indices.shape = .ranked (starts.map some))
    (vector : ∀ m : Nat, dims.indexVectorDim.isInt m = true ↔ m = d) {update : List Int}
    {position next : Nat}
    (fits : (itemsAt (fun i => !listed dims.updateWindowDims i) position update).length ≤
      (batchFrom d starts next).length) :
    verifyBatch indices dims ((update.map some).zipIdx position) next = .ok () ↔
      itemsAt (fun i => !listed dims.updateWindowDims i) position update <+:
        batchFrom d starts next := by
  induction update generalizing position next with
  | nil => simp [verifyBatch]
  | cons extent rest ih =>
    have source := ite_isInt_eq_sourceFrom vector next
    rw [List.map_cons, List.zipIdx_cons, verifyBatch]
    change (if listed dims.updateWindowDims position = true then _ else _) = _ ↔ _
    rw [itemsAt_cons] at fits ⊢
    cases marked : listed dims.updateWindowDims position with
    | true =>
      simp only [marked, Bool.not_true, Bool.false_eq_true, if_false] at fits
      simpa using ih fits
    | false =>
      simp only [marked, Bool.not_false, if_true, List.length_cons] at fits
      cases found : starts[sourceFrom d next]? with
      | none =>
        rw [batchFrom_of_none found] at fits
        exact absurd fits (Nat.not_succ_le_zero _)
      | some start =>
        have bound : indices.dim (sourceFrom d next) = .ok (some start) := by
          rw [Tensor.dim, shape]
          exact itemAt_natCast_eq_ok.mpr (by rw [List.getElem?_map, found, Option.map_some])
        rw [batchFrom_of_some found] at fits ⊢
        have rest := ih (Nat.le_of_succ_le_succ fits)
        simp [source, bound, Check.bind_eq_ok, Extent.compatible, rest, List.cons_prefix_cons]

/-- No known extent of a window exceeds the extent of the operand that it spans. -/
theorem Scatter.verifyWindows_eq_ok {dims : ScatterDims} {bounds update : List Int}
    (sorted : dims.updateWindowDims.Pairwise (· < ·))
    (inRange : ∀ d ∈ dims.updateWindowDims, 0 ≤ d ∧ d < update.length) :
    verifyWindows (.ranked (bounds.map some)) (update.map some) dims = .ok () ↔
      ∀ pair ∈ (itemsAt (fun i =>
          !listed (dims.insertedWindowDims ++ dims.inputBatchingDims) i) 0 bounds).zip
        (itemsAt (listed dims.updateWindowDims) 0 update), pair.2 ≤ pair.1 := by
  have window : dims.updateWindowDims.map (fun d => update[d.toNat]?) =
      (itemsAt (listed dims.updateWindowDims) 0 update).map some :=
    @map_getElem?_sorted _ _ 0 update sorted (by simpa using inRange)
  have read : ∀ d ∈ dims.updateWindowDims,
      itemAt (update.map some) d = .ok (update[d.toNat]?) := by
    intro d member
    obtain ⟨nonneg, inside⟩ := inRange d member
    rw [itemAt_eq_ok_of_nonneg nonneg, List.getElem?_map,
      List.getElem?_eq_getElem (by omega), Option.map_some]
  rw [verifyWindows, Check.checkAll_eq_ok, windowBounds, Shape.without_eq, itemsAt_map]
  generalize itemsAt _ 0 bounds = spanned
  generalize itemsAt _ 0 update = extents at window ⊢
  have pairs : ((spanned.map some).zip dims.updateWindowDims).map
      (Prod.map id fun d => update[d.toNat]?) = (spanned.zip extents).map (Prod.map some some) := by
    rw [← List.zip_map_right, window, List.zip_map]
  constructor
  · intro all pair member
    have mapped := List.mem_map_of_mem (f := Prod.map some some) member
    rw [← pairs] at mapped
    obtain ⟨⟨bound, d⟩, inside, same⟩ := List.mem_map.mp mapped
    obtain ⟨rfl, extent⟩ := Prod.mk.inj same
    have fits := all _ inside
    simpa only [read d (List.of_mem_zip inside).2, extent, Check.ok_bind, Check.ensure_eq_ok,
      decide_eq_true_eq] using fits
  · rintro all ⟨bound, d⟩ member
    have mapped := List.mem_map_of_mem (f := Prod.map id fun (d : Int) => update[d.toNat]?) member
    rw [pairs] at mapped
    obtain ⟨pair, inside, same⟩ := List.mem_map.mp mapped
    obtain ⟨rfl, extent⟩ := Prod.mk.inj same
    simpa only [read d (List.of_mem_zip member).2, ← extent, Check.ok_bind, Check.ensure_eq_ok,
      decide_eq_true_eq] using all pair inside

end TensorTyping
