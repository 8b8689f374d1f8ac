import TensorTyping.Proofs.Slicing.Selection

/-!
# Slices of slices

A slice of a slice is a slice of the operand. Along each dimension it moves by strides of the second
slice, counted in strides of the first, and so selects as many positions as the second slice does.
It ends where the first slice ends, or where the second one does, whichever comes first.
-/

namespace TensorTyping

namespace Op

/-! ### Along one dimension -/

namespace SliceDim

variable {first second slice : SliceDim} {bound : Extent}

/-- The slice of the operand that selects what the second slice selects of the first. Where that is
    nothing, the second slice may start beyond the limit of the first. -/
def andThen (first second : SliceDim) : SliceDim :=
  let limit := min first.limit (first.start + second.limit * first.stride)
  { start := min (first.start + second.start * first.stride) limit
    limit := limit
    stride := first.stride * second.stride }

/-- The positions of a slice are counted from the start in strides, and stay below the limit. -/
theorem lt_size_iff (positive : 0 < slice.stride) (m : Int) :
    m < slice.size ↔ slice.start + m * slice.stride < slice.limit := by
  rw [size_eq positive, Int.fdiv_eq_ediv_of_nonneg _ (Int.le_of_lt positive), Int.lt_add_one_iff,
    Int.le_ediv_iff_mul_le positive]
  omega

/-- Strides of the combined slice are strides of the second slice through the first. -/
theorem position_andThen (first second : SliceDim) (k : Int) :
    first.start + second.start * first.stride + k * (first.stride * second.stride) =
      first.start + (second.start + k * second.stride) * first.stride := by
  ring

theorem selected_andThen (fits : first.Fits bound) (nested : second.Fits (some first.size)) :
    (first.andThen second).selected = second.selected := by
  ext k
  rw [mem_selected, mem_selected]
  refine and_congr_right fun nonneg => ?_
  have moved : 0 ≤ k * (first.stride * second.stride) :=
    Int.mul_nonneg nonneg (Int.le_of_lt (Int.mul_pos fits.stride nested.stride))
  -- A start at the limit selects nothing, so it does not matter that the start is cut there.
  have uncut (start limit : Int) :
      min start limit + k * (first.stride * second.stride) < limit ↔
        start + k * (first.stride * second.stride) < limit := by
    omega
  have within := nested.limit first.size rfl
  have before (m : Int) :
      first.start + m * first.stride < first.start + second.limit * first.stride ↔
        m < second.limit := by
    rw [Int.add_lt_add_iff_left, Int.mul_lt_mul_right fits.stride]
  simp only [andThen]
  rw [uncut, position_andThen, lt_min_iff, ← lt_size_iff fits.stride, before]
  omega

theorem Fits.andThen (fits : first.Fits bound) (nested : second.Fits (some first.size)) :
    (first.andThen second).Fits bound := by
  have start : 0 ≤ second.start * first.stride :=
    Int.mul_nonneg nested.start (Int.le_of_lt fits.stride)
  have limit : 0 ≤ second.limit * first.stride :=
    Int.mul_nonneg (Int.le_trans nested.start nested.ordered) (Int.le_of_lt fits.stride)
  have nonneg := fits.start
  have ordered := fits.ordered
  refine ⟨?_, Int.mul_pos fits.stride nested.stride, ?_, min_le_right _ _⟩
  · simp only [SliceDim.andThen]
    omega
  · intro n known
    exact Int.le_trans (min_le_left _ _) (fits.limit n known)

theorem size_andThen (fits : first.Fits bound) (nested : second.Fits (some first.size)) :
    (first.andThen second).size = second.size := by
  have combined := fits.andThen nested
  rw [size_eq_ncard combined.stride combined.ordered, selected_andThen fits nested,
    ← size_eq_ncard nested.stride nested.ordered]

end SliceDim

/-! ### Along all dimensions -/

namespace Slice

variable {op : Slice} {slices : List SliceDim}

/-- The attributes of the slice hold these starts, limits and strides, in the order of the
    dimensions. -/
structure Reads (op : Slice) (slices : List SliceDim) : Prop where
  starts : op.starts.decodeInts "start_indices" = .ok (slices.map SliceDim.start)
  limits : op.limits.decodeInts "limit_indices" = .ok (slices.map SliceDim.limit)
  strides : op.strides.decodeIntsOr "strides" slices.length 1 = .ok (slices.map SliceDim.stride)

theorem decode_eq_ok_iff_reads {rank? : Option Nat} :
    op.decode rank? = .ok slices ↔ op.Reads slices ∧ ∀ n, rank? = some n → slices.length = n := by
  rw [decode_eq_ok]
  constructor
  · rintro ⟨starts, limits, strides, hstarts, hlimits, hstrides, count, known, rfl⟩
    have strideCount := Payload.length_of_decodeIntsOr hstrides
    have length : (starts.zip (limits.zip strides)).length = starts.length := by
      simp [count, strideCount]
    have startColumn : (starts.zip (limits.zip strides)).map Prod.fst = starts :=
      List.map_fst_zip (by simp [count, strideCount])
    have others : (starts.zip (limits.zip strides)).map Prod.snd = limits.zip strides :=
      List.map_snd_zip (by simp [count])
    have limitColumn : ((starts.zip (limits.zip strides)).map Prod.snd).map Prod.fst = limits := by
      rw [others, List.map_fst_zip (by omega)]
    have strideColumn :
        ((starts.zip (limits.zip strides)).map Prod.snd).map Prod.snd = strides := by
      rw [others, List.map_snd_zip (by omega)]
    rw [List.map_map] at limitColumn strideColumn
    refine ⟨⟨?_, ?_, ?_⟩, by simpa [length] using known⟩
    · rw [List.map_map]
      exact hstarts.trans (congrArg _ startColumn.symm)
    · rw [List.map_map]
      exact hlimits.trans (congrArg _ limitColumn.symm)
    · rw [List.length_map, length, List.map_map]
      exact hstrides.trans (congrArg _ strideColumn.symm)
  · rintro ⟨reads, known⟩
    have strides := reads.strides
    rw [← List.length_map SliceDim.start] at strides
    refine ⟨_, _, _, reads.starts, reads.limits, strides, by simp, by simpa using known, ?_⟩
    rw [List.zip_map', List.zip_map', List.map_map]
    exact (List.map_id slices).symm

theorem Reads.unique {slices' : List SliceDim} (reads : op.Reads slices)
    (reads' : op.Reads slices') : slices = slices' := by
  have decoded : op.decode none = .ok slices := decode_eq_ok_iff_reads.mpr ⟨reads, by simp⟩
  have decoded' : op.decode none = .ok slices' := decode_eq_ok_iff_reads.mpr ⟨reads', by simp⟩
  exact Except.ok.inj (decoded.symm.trans decoded')

/-- The slice of an operand whose attributes list the slices along the single dimensions. -/
def ofDims (operand : Ty) (slices : List SliceDim) : Slice where
  operand := operand
  starts := .ofInts (slices.map SliceDim.start)
  limits := .ofInts (slices.map SliceDim.limit)
  strides := .ofInts (slices.map SliceDim.stride)

theorem reads_ofDims (operand : Ty)
    (fits : ∀ slice ∈ slices, fitsWord slice.start = true ∧
      fitsWord slice.limit = true ∧ fitsWord slice.stride = true) :
    (ofDims operand slices).Reads slices := by
  have strides := Payload.decodeIntsOr_of_fits
    (List.forall_mem_map.mpr fun slice member => (fits slice member).2.2) "strides" 1
  rw [List.length_map] at strides
  exact {
    starts := Payload.decodeInts_of_fits
      (List.forall_mem_map.mpr fun slice member => (fits slice member).1) _
    limits := Payload.decodeInts_of_fits
      (List.forall_mem_map.mpr fun slice member => (fits slice member).2.1) _
    strides := strides }

/-- Slices that fit one after the other fit together, and leave the extents of the second. -/
theorem combine_fits {t : Tensor} {slices' : List SliceDim}
    (length : slices.length = slices'.length)
    (fits : ∀ (i : Nat) (slice : SliceDim), slices[i]? = some slice → slice.Fits (t.extent i))
    (nested : ∀ (i : Nat) (slice : SliceDim), slices'[i]? = some slice →
      slice.Fits (slices.map fun slice => some slice.size)[i]?.join) :
    (∀ (i : Nat) (slice : SliceDim),
        (List.zipWith SliceDim.andThen slices slices')[i]? = some slice →
          slice.Fits (t.extent i)) ∧
      (List.zipWith SliceDim.andThen slices slices').map SliceDim.size =
        slices'.map SliceDim.size := by
  have each (i : Nat) (first second : SliceDim) (found : slices[i]? = some first)
      (found' : slices'[i]? = some second) :
      first.Fits (t.extent i) ∧ second.Fits (some first.size) := by
    have inner := nested i second found'
    rw [List.getElem?_map, found, Option.map_some, Option.join_some] at inner
    exact ⟨fits i first found, inner⟩
  constructor
  · intro i slice member
    obtain ⟨first, second, found, found', rfl⟩ := List.getElem?_zipWith_eq_some.mp member
    obtain ⟨outer, inner⟩ := each i first second found found'
    exact outer.andThen inner
  · apply List.ext_getElem?
    intro i
    rw [List.getElem?_map, List.getElem?_map, List.getElem?_zipWith]
    cases found' : slices'[i]? with
    | none => cases slices[i]? <;> rfl
    | some second =>
      have inside : i < slices.length := length ▸ (List.getElem?_eq_some_iff.mp found').1
      have found := List.getElem?_eq_getElem inside
      obtain ⟨outer, inner⟩ := each i _ second found found'
      rw [found]
      exact congrArg some (SliceDim.size_andThen outer inner)

/-- A slice of a slice has the type of one slice of the operand. Both slices read a start, a limit
    and a stride for every dimension; when the combined ones are 64-bit integers, the slice between
    them is accepted and has the type of the second slice. -/
theorem infer_andThen {first second : Slice} {types : List Ty}
    (accepted : first.infer = .ok [second.operand]) (again : second.infer = .ok types) :
    ∃ slices slices' : List SliceDim, first.Reads slices ∧ second.Reads slices' ∧
      slices.length = slices'.length ∧
      ((∀ slice ∈ List.zipWith SliceDim.andThen slices slices',
          fitsWord slice.start = true ∧ fitsWord slice.limit = true ∧
            fitsWord slice.stride = true) →
        (ofDims first.operand (List.zipWith SliceDim.andThen slices slices')).infer =
          .ok types) := by
  obtain ⟨t, slices, operand, decoded, fits, isElement, result⟩ := infer_eq_ok.mp accepted
  obtain ⟨t', slices', operand', decoded', nested, -, rfl⟩ := infer_eq_ok.mp again
  obtain ⟨reads, known⟩ := decode_eq_ok_iff_reads.mp decoded
  obtain ⟨reads', known'⟩ := decode_eq_ok_iff_reads.mp decoded'
  have middle : t' = ⟨t.element, .ranked (slices.map fun slice => some slice.size)⟩ := by
    apply Tensor.ty_injective
    rw [← operand']
    exact List.singleton_inj.mp result
  subst middle
  have length : slices.length = slices'.length := by
    rw [known' _ rfl, List.length_map]
  have ⟨together, sizes⟩ := combine_fits length fits nested
  refine ⟨slices, slices', reads, reads', length, fun words => ?_⟩
  refine infer_eq_ok.mpr ⟨t, _, operand, ?_, together, isElement, ?_⟩
  · refine decode_eq_ok_iff_reads.mpr ⟨reads_ofDims _ words, fun n rank => ?_⟩
    rw [List.length_zipWith, ← length, Nat.min_self]
    exact known n rank
  · have extents := congrArg (List.map (some : Int → Extent)) sizes
    rw [List.map_map, List.map_map] at extents
    exact congrArg (fun dims => [Ty.tensor t.element (.ranked dims)]) extents.symm

/-- A second slice that starts behind the last, partial stride of the first, one along an unknown
    extent, and one that ends with the partial stride. -/
theorem infer_andThen_partial_strides :
    let operand : Ty := .tensor (.float .f32) (.ranked [some 10, none, some 7])
    let first : Slice := ofDims operand [⟨1, 10, 4⟩, ⟨2, 11, 3⟩, ⟨0, 7, 2⟩]
    let second : Slice :=
      ofDims (.tensor (.float .f32) (.ranked [some 3, some 3, some 4]))
        [⟨3, 3, 1⟩, ⟨0, 3, 2⟩, ⟨1, 4, 2⟩]
    let types : List Ty := [.tensor (.float .f32) (.ranked [some 0, some 2, some 2])]
    first.infer = .ok [second.operand] ∧ second.infer = .ok types ∧
      (ofDims operand [⟨10, 10, 4⟩, ⟨2, 11, 6⟩, ⟨2, 7, 4⟩]).infer = .ok types := by
  intro operand first second types
  have accepted : first.infer = .ok [second.operand] := rfl
  have again : second.infer = .ok types := rfl
  obtain ⟨slices, slices', reads, reads', -, combined⟩ := infer_andThen accepted again
  obtain rfl := reads.unique (reads_ofDims operand (by decide))
  obtain rfl := reads'.unique (reads_ofDims second.operand (by decide))
  exact ⟨accepted, again, combined (by decide)⟩

end Slice

end Op

end TensorTyping
