import Mathlib.Algebra.Ring.Int.Defs
import TensorTyping.Proofs.Refinement.Reshaping
import TensorTyping.Proofs.Totality.Reshaping

/-!
# Slices between fixed positions

A slice is accepted exactly when it runs forwards along every dimension and stays within the
operand, as far as that is known. Its extents are the sizes of the slices along the single
dimensions.
-/

namespace TensorTyping

namespace Op

/-! ### Accepted slices -/

/-- A slice along a dimension runs forwards from a position and ends within the extent, when that is
    known. -/
structure SliceDim.Fits (slice : SliceDim) (bound : Extent) : Prop where
  start : 0 ≤ slice.start
  stride : 0 < slice.stride
  limit : ∀ n, bound = some n → slice.limit ≤ n
  ordered : slice.start ≤ slice.limit

theorem SliceDim.extent_eq_ok {i : Nat} {slice : SliceDim} {bound dim : Extent} :
    slice.extent i bound = .ok dim ↔ slice.Fits bound ∧ dim = some slice.size := by
  cases bound with
  | none =>
    simp only [extent, Check.bind_eq_ok, Check.ensure_eq_ok, Check.pure_eq, Except.ok.injEq]
    constructor
    · rintro ⟨_, start, _, stride, _, ordered, _, size, rfl⟩
      obtain rfl := Except.ok.inj ((floorDiv_eq stride).symm.trans size)
      exact ⟨⟨start, stride, by simp, ordered⟩, by rw [Int.neg_neg]⟩
    · rintro ⟨fits, rfl⟩
      exact ⟨(), fits.start, (), fits.stride, (), fits.ordered, _, floorDiv_eq fits.stride,
        by rw [Int.neg_neg]⟩
  | some n =>
    simp only [extent, Check.bind_eq_ok, Check.ensure_eq_ok, Check.pure_eq, Except.ok.injEq]
    constructor
    · rintro ⟨_, start, _, stride, _, limit, _, ordered, _, size, rfl⟩
      obtain rfl := Except.ok.inj ((floorDiv_eq stride).symm.trans size)
      exact ⟨⟨start, stride, by simpa using limit, ordered⟩, by rw [Int.neg_neg]⟩
    · rintro ⟨fits, rfl⟩
      exact ⟨(), fits.start, (), fits.stride, (), fits.limit n rfl, (), fits.ordered, _,
        floorDiv_eq fits.stride, by rw [Int.neg_neg]⟩

theorem SliceDim.dim_extent_eq_ok {t : Tensor} {i : Nat} {slice : SliceDim} {dim : Extent} :
    (do slice.extent i (← t.dim i)) = .ok dim ↔
      t.HasDim i ∧ slice.Fits (t.extent i) ∧ dim = some slice.size := by
  simp only [Check.bind_eq_ok, Tensor.dim_eq_ok_of_nonneg (Int.natCast_nonneg i), extent_eq_ok,
    Int.toNat_natCast]
  constructor
  · rintro ⟨_, ⟨has, rfl⟩, fits⟩
    exact ⟨has, fits⟩
  · rintro ⟨has, fits⟩
    exact ⟨_, ⟨has, rfl⟩, fits⟩

theorem SliceDim.collect_extent_eq_ok {t : Tensor} {slices : List SliceDim} {dims : List Extent} :
    collect (fun item => do SliceDim.extent item.2 item.1 (← t.dim item.2)) slices.zipIdx =
        .ok dims ↔
      (∀ (i : Nat) (slice : SliceDim), slices[i]? = some slice →
        t.HasDim i ∧ slice.Fits (t.extent i)) ∧
        dims = slices.map fun slice => some slice.size := by
  have sizes : (slices.map fun slice => (some slice.size : Extent)) =
      slices.zipIdx.map fun item => some item.1.size := by
    rw [← List.zipIdx_map_fst 0 slices, List.map_map, List.zipIdx_map_fst]
    rfl
  rw [sizes]
  constructor
  · intro collected
    have each := Check.collect_eq_ok.mp collected
    constructor
    · intro i slice found
      have here := Check.forall₂_getElem? each i
      rw [List.getElem?_zipIdx, found, Option.map_some, Nat.zero_add] at here
      generalize dims[i]? = dim at here
      obtain ⟨accepted⟩ := here
      obtain ⟨has, fits, -⟩ := dim_extent_eq_ok.mp accepted
      exact ⟨has, fits⟩
    · have equal : List.Forall₂ (fun item dim => some item.1.size = dim) slices.zipIdx dims :=
        each.imp fun item dim accepted => (dim_extent_eq_ok.mp accepted).2.2.symm
      rw [← List.forall₂_map_left_iff, List.forall₂_eq_eq_eq] at equal
      exact equal.symm
  · rintro ⟨fits, rfl⟩
    apply Check.collect_eq_map
    intro item member
    rw [List.mem_zipIdx_iff_getElem?] at member
    obtain ⟨has, fit⟩ := fits item.2 item.1 member
    exact dim_extent_eq_ok.mpr ⟨has, fit, rfl⟩

theorem Slice.length_of_decode {op : Slice} {rank? : Option Nat} {slices : List SliceDim}
    (decoded : op.decode rank? = .ok slices) {rank : Nat} (known : rank? = some rank) :
    slices.length = rank := by
  obtain ⟨starts, limits, strides, -, -, hstrides, counts, ranked, rfl⟩ := decode_eq_ok.mp decoded
  have count := Payload.length_of_decodeIntsOr hstrides
  simp [counts, count, ranked rank known]

/-- A slice of a tensor is accepted when its attributes can be decoded and it fits along every
    dimension, and has the size of the slice there. -/
theorem Slice.infer_eq_ok {op : Slice} {types : List Ty} :
    op.infer = .ok types ↔
      ∃ (t : Tensor) (slices : List SliceDim), op.operand = t.ty ∧ op.decode t.rank? = .ok slices ∧
        (∀ (i : Nat) (slice : SliceDim), slices[i]? = some slice → slice.Fits (t.extent i)) ∧
        t.element.isElement = true ∧
        types = [.tensor t.element (.ranked (slices.map fun slice => some slice.size))] := by
  simp only [infer, Check.bind_eq_ok, Ty.needTensor_eq_ok, SliceDim.collect_extent_eq_ok,
    Tensor.form_eq_ok, Check.pure_eq, Except.ok.injEq]
  constructor
  · rintro ⟨t, operand, slices, decoded, _, ⟨fits, rfl⟩, _, ⟨isElement, -, rfl⟩, rfl⟩
    exact ⟨t, slices, operand, decoded, fun i slice found => (fits i slice found).2, isElement, rfl⟩
  · rintro ⟨t, slices, operand, decoded, fits, isElement, rfl⟩
    have has : ∀ (i : Nat) (slice : SliceDim), slices[i]? = some slice → t.HasDim i := by
      intro i slice found rank known
      have inside := (List.getElem?_eq_some_iff.mp found).1
      have length := length_of_decode decoded known
      omega
    refine ⟨t, operand, slices, decoded, _,
      ⟨fun i slice found => ⟨has i slice found, fits i slice found⟩, rfl⟩, _,
      ⟨isElement, ?_, rfl⟩, rfl⟩
    apply Shape.wellFormed_ranked.mpr
    intro dim member
    obtain ⟨slice, inside, rfl⟩ := List.mem_map.mp member
    obtain ⟨i, found⟩ := List.mem_iff_getElem?.mp inside
    have fit := fits i slice found
    exact Extent.wellFormed_some.mpr (SliceDim.size_nonneg fit.stride fit.ordered)

/-! ### Slices along one dimension -/

/-- The slices along single dimensions, with the stride one, between lists of positions. -/
theorem Slice.decode_contiguous {operand : Ty} {starts limits : List Int} {strides : Payload}
    (length : limits.length = starts.length)
    (startsFit : ∀ n ∈ starts, fitsWord n = true)
    (limitsFit : ∀ n ∈ limits, fitsWord n = true)
    (ones : strides = .null ∨ strides = .ofInts (List.replicate starts.length 1)) :
    decode ⟨operand, .ofInts starts, .ofInts limits, strides⟩ (some starts.length) =
      .ok (List.zipWith (fun start limit => ⟨start, limit, 1⟩) starts limits) := by
  have decoded : strides.decodeIntsOr "strides" starts.length 1 =
      .ok (List.replicate starts.length 1) := by
    rcases ones with rfl | rfl
    · rfl
    · have fits : ∀ n ∈ List.replicate starts.length (1 : Int),
          fitsWord n = true := by
        intro n member
        rw [List.eq_of_mem_replicate member]
        rfl
      have listed := Payload.decodeIntsOr_of_fits fits "strides" 1
      rwa [List.length_replicate] at listed
  have paired : limits.zip (List.replicate starts.length (1 : Int)) =
      limits.map fun limit => (limit, 1) := by
    rw [← length, ← List.map_const', List.map_prod_left_eq_zip]
  refine decode_eq_ok.mpr ⟨starts, limits, _, Payload.decodeInts_of_fits startsFit _,
    Payload.decodeInts_of_fits limitsFit _, decoded, length, fun n same => Option.some.inj same, ?_⟩
  rw [paired, List.zip_map_right, List.map_map, ← List.map_uncurry_zip_eq_zipWith]
  rfl

/-- The part of a static tensor between two positions along the dimension `d`, in its full extent
    along all others. -/
def Slice.between (element : Ty) (extents : List Int) (d : Nat) (strides : Payload)
    (cut : Int × Int) : Slice where
  operand := .tensor element (.ranked (extents.map some))
  starts := .ofInts ((extents.map fun _ => 0).set d cut.1)
  limits := .ofInts (extents.set d cut.2)
  strides := strides

/-- The slices along the single dimensions of such a part. -/
def SliceDim.between (extents : List Int) (d : Nat) (cut : Int × Int) : List SliceDim :=
  (extents.map fun n => ⟨0, n, 1⟩).set d ⟨cut.1, cut.2, 1⟩

theorem SliceDim.size_contiguous (start limit : Int) :
    SliceDim.size ⟨start, limit, 1⟩ = limit - start := by
  rw [SliceDim.size, Int.fdiv_one, Int.neg_neg]

theorem SliceDim.sizes_between (extents : List Int) (d : Nat) (cut : Int × Int) :
    (between extents d cut).map size = extents.set d (cut.2 - cut.1) := by
  simp [between, size_contiguous, Function.comp_def]

theorem SliceDim.between_eq_zipWith (extents : List Int) (d : Nat) (cut : Int × Int) :
    between extents d cut =
      List.zipWith (fun start limit => ⟨start, limit, 1⟩) ((extents.map fun _ => 0).set d cut.1)
        (extents.set d cut.2) := by
  apply List.ext_getElem?
  intro i
  rw [between, List.getElem?_zipWith, List.getElem?_set, List.getElem?_set, List.getElem?_set,
    List.length_map, List.length_map, List.getElem?_map, List.getElem?_map]
  by_cases here : d = i
  · by_cases inside : i < extents.length <;> simp [here, inside]
  · cases extents[i]? <;> simp [here]

section Between

variable {extents : List Int} {d : Nat} {extent : Int} {cut : Int × Int}

theorem SliceDim.fits_between (nonneg : ∀ n ∈ extents, 0 ≤ n) (along : extents[d]? = some extent)
    (within : 0 ≤ cut.1 ∧ cut.1 ≤ cut.2 ∧ cut.2 ≤ extent) {i : Nat} {slice : SliceDim}
    (found : (between extents d cut)[i]? = some slice) : slice.Fits extents[i]? := by
  have inside : d < extents.length := (List.getElem?_eq_some_iff.mp along).1
  rw [between, List.getElem?_set, List.length_map, List.getElem?_map] at found
  by_cases here : d = i
  · subst here
    rw [if_pos rfl, if_pos inside, Option.some.injEq] at found
    subst found
    refine ⟨within.1, Int.one_pos, ?_, within.2.1⟩
    intro n known
    rw [along, Option.some.injEq] at known
    exact known ▸ within.2.2
  · rw [if_neg here] at found
    obtain ⟨n, whole, rfl⟩ := Option.map_eq_some_iff.mp found
    refine ⟨Int.le_refl 0, Int.one_pos, ?_, nonneg n (List.mem_of_getElem? whole)⟩
    intro m known
    rw [whole, Option.some.injEq] at known
    exact Int.le_of_eq known

theorem Slice.decode_between {element : Ty} {strides : Payload}
    (bounded : ∀ n ∈ extents, 0 ≤ n ∧ n < 2 ^ 63) (along : extents[d]? = some extent)
    (within : 0 ≤ cut.1 ∧ cut.1 ≤ cut.2 ∧ cut.2 ≤ extent)
    (ones : strides = .null ∨ strides = .ofInts (List.replicate extents.length 1)) :
    (between element extents d strides cut).decode (some extents.length) =
      .ok (SliceDim.between extents d cut) := by
  have most := bounded extent (List.mem_of_getElem? along)
  have limit : cut.2 < signedLimit := Int.lt_of_le_of_lt within.2.2 most.2
  have startsFit : ∀ n ∈ (extents.map fun _ => 0).set d cut.1, fitsWord n = true := by
    intro n member
    rcases List.mem_or_eq_of_mem_set member with zero | rfl
    · obtain ⟨_, -, rfl⟩ := List.mem_map.mp zero
      rfl
    · exact fitsWord_of_nonneg within.1 (Int.lt_of_le_of_lt within.2.1 limit)
  have limitsFit : ∀ n ∈ extents.set d cut.2, fitsWord n = true := by
    intro n member
    rcases List.mem_or_eq_of_mem_set member with whole | rfl
    · exact fitsWord_of_nonneg (bounded n whole).1 (bounded n whole).2
    · exact fitsWord_of_nonneg (by omega) limit
  have length : ((extents.map fun _ => (0 : Int)).set d cut.1).length = extents.length := by simp
  rw [← length] at ones
  rw [SliceDim.between_eq_zipWith, ← length]
  exact decode_contiguous (by simp) startsFit limitsFit ones

/-- The part of a static tensor between two positions is as long as they are apart. -/
theorem Slice.infer_between {element : Ty} {strides : Payload}
    (isElement : element.isElement = true)
    (bounded : ∀ n ∈ extents, 0 ≤ n ∧ n < 2 ^ 63) (along : extents[d]? = some extent)
    (within : 0 ≤ cut.1 ∧ cut.1 ≤ cut.2 ∧ cut.2 ≤ extent)
    (ones : strides = .null ∨ strides = .ofInts (List.replicate extents.length 1)) :
    (between element extents d strides cut).infer =
      .ok [.tensor element (.ranked ((extents.set d (cut.2 - cut.1)).map some))] := by
  have rank : Tensor.rank? ⟨element, .ranked (extents.map some)⟩ = some extents.length := by
    rw [Tensor.rank?, Shape.rank?, List.length_map]
  have bound (i : Nat) : Tensor.extent ⟨element, .ranked (extents.map some)⟩ i = extents[i]? := by
    rw [Tensor.extent, Shape.extent, List.getElem?_map]
    cases extents[i]? <;> rfl
  refine infer_eq_ok.mpr ⟨⟨element, .ranked (extents.map some)⟩, SliceDim.between extents d cut,
    rfl, ?_, ?_, isElement, ?_⟩
  · rw [rank]
    exact decode_between bounded along within ones
  · intro i slice found
    rw [bound]
    exact SliceDim.fits_between (fun n member => (bounded n member).1) along within found
  · rw [← SliceDim.sizes_between, List.map_map]
    rfl

end Between

end Op

end TensorTyping
