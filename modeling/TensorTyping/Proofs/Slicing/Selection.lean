import TensorTyping.Proofs.Slicing
import TensorTyping.Proofs.Window.Placements

/-!
# The positions that a slice selects

A slice along a dimension starts at a position and selects every position that whole strides lead
to, up to its limit. The extent of the slice is the number of these positions. All of them lie
within the operand, as far as its extent is known.
-/

namespace TensorTyping

namespace Op

/-! ### Selected positions -/

namespace SliceDim

variable {slice : SliceDim} {bound : Extent}

/-- The numbers of strides that lead from the start to a position before the limit. -/
def selected (slice : SliceDim) : Set Int :=
  {k | 0 ≤ k ∧ slice.start + k * slice.stride < slice.limit}

theorem mem_selected {k : Int} :
    k ∈ slice.selected ↔ 0 ≤ k ∧ slice.start + k * slice.stride < slice.limit := Iff.rfl

theorem selected_eq (slice : SliceDim) :
    slice.selected = stepsWithin (slice.limit - slice.start - 1) slice.stride := by
  ext k
  rw [mem_selected, mem_stepsWithin]
  omega

theorem finite_selected (positive : 0 < slice.stride) : slice.selected.Finite := by
  rw [selected_eq]
  exact finite_stepsWithin positive

/-- Rounding a distance up is rounding down from one less, and one more. -/
theorem size_eq (positive : 0 < slice.stride) :
    slice.size = Int.fdiv (slice.limit - slice.start - 1) slice.stride + 1 := by
  have nonneg : 0 ≤ slice.stride := Int.le_of_lt positive
  rw [size, Int.fdiv_eq_ediv_of_nonneg _ nonneg, Int.fdiv_eq_ediv_of_nonneg _ nonneg]
  generalize slice.limit - slice.start = distance
  have rounded := (Int.ediv_eq_iff_of_pos positive).mp (rfl : (distance - 1) / slice.stride = _)
  generalize (distance - 1) / slice.stride = quotient at rounded ⊢
  have negated : -distance / slice.stride = -(quotient + 1) := by
    rw [Int.ediv_eq_iff_of_pos positive, Int.neg_mul, Int.add_mul, Int.one_mul]
    omega
  rw [negated, Int.neg_neg]

theorem size_eq_ncard (positive : 0 < slice.stride) (ordered : slice.start ≤ slice.limit) :
    slice.size = (slice.selected.ncard : Int) := by
  have nonneg := size_nonneg positive ordered
  rw [size_eq positive] at nonneg
  rw [selected_eq, ncard_stepsWithin positive, Int.toNat_of_nonneg nonneg, size_eq positive]

theorem size_le (positive : 0 < slice.stride) (ordered : slice.start ≤ slice.limit) :
    slice.size ≤ slice.limit - slice.start := by
  have more : (slice.limit - slice.start) * 1 ≤ (slice.limit - slice.start) * slice.stride :=
    Int.mul_le_mul_of_nonneg_left positive (Int.sub_nonneg_of_le ordered)
  have rounded : -(slice.limit - slice.start) ≤ -(slice.limit - slice.start) / slice.stride := by
    rw [Int.le_ediv_iff_mul_le positive, Int.neg_mul]
    omega
  rw [size, Int.fdiv_eq_ediv_of_nonneg _ (Int.le_of_lt positive)]
  omega

/-- No more positions are selected than there are. -/
theorem Fits.size_le (fits : slice.Fits bound) {n : Int} (known : bound = some n) :
    slice.size ≤ n := by
  have distance := SliceDim.size_le fits.stride fits.ordered
  have := fits.start
  have := fits.limit n known
  omega

theorem Fits.selected_within (fits : slice.Fits bound) {k : Int} (member : k ∈ slice.selected) :
    0 ≤ slice.start + k * slice.stride ∧
      ∀ n, bound = some n → slice.start + k * slice.stride < n := by
  obtain ⟨nonneg, before⟩ := member
  have moved : 0 ≤ k * slice.stride := Int.mul_nonneg nonneg (Int.le_of_lt fits.stride)
  exact ⟨Int.add_nonneg fits.start moved,
    fun n known => Int.lt_of_lt_of_le before (fits.limit n known)⟩

end SliceDim

namespace Slice

/-- The slice along a dimension starts, ends and moves on as the vectors say there. -/
theorem getElem?_slices {starts limits strides : List Int} {i : Nat} {slice : SliceDim} :
    ((starts.zip (limits.zip strides)).map fun item =>
        (⟨item.1, item.2.1, item.2.2⟩ : SliceDim))[i]? = some slice ↔
      starts[i]? = some slice.start ∧ limits[i]? = some slice.limit ∧
        strides[i]? = some slice.stride := by
  obtain ⟨start, limit, stride⟩ := slice
  simp only [List.getElem?_map, Option.map_eq_some_iff, List.getElem?_zip_eq_some, Prod.exists,
    SliceDim.mk.injEq]
  constructor
  · rintro ⟨_, _, _, found, rfl, rfl, rfl⟩
    exact found
  · intro found
    exact ⟨start, limit, stride, found, rfl, rfl, rfl⟩

/-- The extents of a slice count the selected positions. An accepted slice of a tensor reads a
    start, a limit and a stride for every dimension. Along each one finitely many positions are
    selected, their number is the extent of the result, and all of them are positions of the
    tensor. -/
theorem infer_counts_selected {op : Slice} {types : List Ty} (accepted : op.infer = .ok types) :
    ∃ (t : Tensor) (starts limits strides : List Int) (dims : List Extent),
      op.operand = t.ty ∧ op.starts.decodeInts "start_indices" = .ok starts ∧
        op.limits.decodeInts "limit_indices" = .ok limits ∧
        op.strides.decodeIntsOr "strides" starts.length 1 = .ok strides ∧
        types = [.tensor t.element (.ranked dims)] ∧ (∀ n, t.rank? = some n → dims.length = n) ∧
        starts.length = dims.length ∧ limits.length = dims.length ∧ strides.length = dims.length ∧
        ∀ (i : Nat) (slice : SliceDim), starts[i]? = some slice.start →
          limits[i]? = some slice.limit → strides[i]? = some slice.stride →
            slice.selected.Finite ∧ dims[i]? = some (some (slice.selected.ncard : Int)) ∧
              (∀ n, t.extent i = some n → (slice.selected.ncard : Int) ≤ n) ∧
              ∀ k ∈ slice.selected, 0 ≤ slice.start + k * slice.stride ∧
                ∀ n, t.extent i = some n → slice.start + k * slice.stride < n := by
  obtain ⟨t, slices, operand, decoded, fits, -, rfl⟩ := infer_eq_ok.mp accepted
  obtain ⟨starts, limits, strides, hstarts, hlimits, hstrides, count, known, rfl⟩ :=
    decode_eq_ok.mp decoded
  have strideCount := Payload.length_of_decodeIntsOr hstrides
  refine ⟨t, starts, limits, strides, _, operand, hstarts, hlimits, hstrides, rfl, ?_⟩
  simp only [List.length_map, List.length_zip, count, strideCount, Nat.min_self, true_and]
  refine ⟨known, ?_⟩
  intro i slice atStarts atLimits atStrides
  have found := getElem?_slices.mpr ⟨atStarts, atLimits, atStrides⟩
  have fit := fits i slice found
  rw [← SliceDim.size_eq_ncard fit.stride fit.ordered, List.getElem?_map, found, Option.map_some]
  exact ⟨SliceDim.finite_selected fit.stride, rfl, fun n bound => fit.size_le bound,
    fun k member => fit.selected_within member⟩

/-- A stride that does not divide the distance, an empty range of an unknown extent, an empty range
    at the end of an extent, and a stride beyond the limit. -/
theorem infer_counts_selected_edges :
    let op : Slice :=
      { operand := .tensor (.float .f32) (.ranked [some 10, none, some 3, some 7])
        starts := .ofInts [1, 5, 3, 0], limits := .ofInts [10, 5, 3, 7]
        strides := .ofInts [4, 1, 2, 100] }
    op.infer = .ok [.tensor (.float .f32) (.ranked [some 3, some 0, some 0, some 1])] ∧
      (SliceDim.selected ⟨1, 10, 4⟩).ncard = 3 ∧ (SliceDim.selected ⟨5, 5, 1⟩).ncard = 0 ∧
      (SliceDim.selected ⟨3, 3, 2⟩).ncard = 0 ∧ (SliceDim.selected ⟨0, 7, 100⟩).ncard = 1 := by
  intro op
  have accepted : op.infer =
      .ok [.tensor (.float .f32) (.ranked [some 3, some 0, some 0, some 1])] := rfl
  obtain ⟨⟨_, _⟩, starts, limits, strides, dims, -, hstarts, hlimits, hstrides, types, -, -, -, -,
    each⟩ := infer_counts_selected accepted
  obtain rfl : [1, 5, 3, 0] = starts := Except.ok.inj hstarts
  obtain rfl : [10, 5, 3, 7] = limits := Except.ok.inj hlimits
  obtain rfl : [4, 1, 2, 100] = strides := Except.ok.inj hstrides
  cases types
  obtain ⟨-, three, -⟩ := each 0 ⟨1, 10, 4⟩ rfl rfl rfl
  obtain ⟨-, none, -⟩ := each 1 ⟨5, 5, 1⟩ rfl rfl rfl
  obtain ⟨-, none', -⟩ := each 2 ⟨3, 3, 2⟩ rfl rfl rfl
  obtain ⟨-, one, -⟩ := each 3 ⟨0, 7, 100⟩ rfl rfl rfl
  have count {n m : Nat} (known : some (some (m : Int)) = some (some (n : Int))) : n = m :=
    Int.ofNat_inj.mp (Option.some.inj (Option.some.inj known)).symm
  exact ⟨accepted, count three, count none, count none', count one⟩

end Slice

end Op

end TensorTyping
