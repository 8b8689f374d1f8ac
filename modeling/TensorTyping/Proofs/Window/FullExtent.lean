import Mathlib.Algebra.Ring.Int.Defs
import TensorTyping.Proofs.Indexing.Positions
import TensorTyping.Proofs.Window.Pooling

/-!
# Reductions as poolings

A reduction over some dimensions is a pooling whose window spans these dimensions and has size one
along the others. Along the spanned dimensions the window has one place, and along the others as
many as there are elements; only where there are none is the number of places unknown.
-/

namespace TensorTyping

namespace Window

/-! ### Windows that span some dimensions -/

/-- The sizes of a window that spans the listed dimensions. -/
def spanning (extents reduced : List Int) : List Int :=
  extents.mapIdx fun i n => if listed reduced i then n else 1

theorem places_plain (n w : Int) :
    places (some n) { size := .known w } = if n < w then none else some (n - w + 1) := by
  have base : paddedBase { size := .known w } n = n := by simp [paddedBase]
  have size : dilated (WindowSize.known w).extent 1 = some w := by simp [dilated, WindowSize.extent]
  simp only [places, base, size, Int.fdiv_one]

variable {extents reduced : List Int}

theorem mem_spanning {w : Int} (bounded : ∀ n ∈ extents, n < 2 ^ 63)
    (inhabited : ∀ d ∈ reduced, ∃ n, extents[d.toNat]? = some n ∧ 1 ≤ n)
    (member : w ∈ spanning extents reduced) : 1 ≤ w ∧ w < 2 ^ 63 := by
  obtain ⟨i, inside, rfl⟩ := List.mem_mapIdx.mp member
  split
  · rename_i spanned
    obtain ⟨n, found, positive⟩ := inhabited i (List.contains_iff_mem.mp spanned)
    rw [Int.toNat_natCast, List.getElem?_eq_getElem inside] at found
    obtain rfl := Option.some.inj found
    exact ⟨positive, bounded _ (List.getElem_mem inside)⟩
  · exact ⟨Int.le_refl 1, by decide⟩

/-- The places of the spanning window. -/
theorem getElem?_spanned (i : Nat) :
    (List.zipWith places (extents.map some) (plain (spanning extents reduced)))[i]? =
      extents[i]?.map fun n =>
        if listed reduced i then some 1 else if n < 1 then none else some n := by
  simp only [List.getElem?_zipWith, List.getElem?_map, plain, spanning, List.getElem?_mapIdx]
  cases extents[i]? with
  | none => rfl
  | some n =>
    simp only [Option.map_some, places_plain]
    split
    · simp
    · simp

theorem length_spanned :
    (List.zipWith places (extents.map some) (plain (spanning extents reduced))).length =
      extents.length := by
  simp [plain, spanning]

/-- The spanned dimensions apart, the places of the spanning window are those of a window of size
    one everywhere. -/
theorem without_spanned :
    Shape.without (List.zipWith places (extents.map some) (plain (spanning extents reduced)))
        reduced =
      Shape.without (extents.map fun n => if n < 1 then none else some n) reduced := by
  rw [Shape.without_eq, Shape.without_eq]
  apply itemsAt_congr_items
  · rw [length_spanned, List.length_map]
  · intro i unlisted
    rw [Nat.zero_add, Bool.not_eq_true'] at unlisted
    rw [getElem?_spanned, List.getElem?_map, unlisted]
    rfl

/-- Extents that are not spanned are kept, or forgotten when they are zero. -/
theorem refines_without_spanned :
    RefinesDims (Shape.without (extents.map some) reduced)
      (Shape.without (List.zipWith places (extents.map some) (plain (spanning extents reduced)))
        reduced) := by
  rw [without_spanned]
  apply RefinesDims.without
  rw [RefinesDims, List.forall₂_map_left_iff, List.forall₂_map_right_iff, List.forall₂_same]
  intro n _
  split
  · exact .unknown _
  · exact .refl _

theorem without_spanned_of_pos (positive : ∀ n ∈ extents, 1 ≤ n) :
    Shape.without (List.zipWith places (extents.map some) (plain (spanning extents reduced)))
        reduced = Shape.without (extents.map some) reduced := by
  rw [without_spanned]
  congr 1
  apply List.map_congr_left
  intro n member
  have large := positive n member
  rw [if_neg (by omega)]

end Window

namespace Op

variable {operand init : Tensor} {extents reduced : List Int} {dimensions : Payload}

/-- A reduction of one tensor over distinct dimensions with a body on scalars succeeds. -/
theorem reduce_infer_eq (reducer : ScalarReducer operand.element)
    (isElement : operand.element.isElement = true) {dims : List Extent}
    (ranked : operand.shape = .ranked dims)
    (decoded : dimensions.decodeInts "dimensions" = .ok reduced) (unique : reduced.Nodup)
    (inRange : ∀ d ∈ reduced, 0 ≤ d ∧ d < dims.length)
    (initElement : init.element.same operand.element = true)
    (initScalar : init.hasOtherRank 0 = false) :
    Reduce.infer
        { inputs := [operand.ty], inits := some [init.ty], dimensions
          body := some reducer.region } =
      .ok [.tensor reducer.result (.ranked (Shape.without dims reduced))] := by
  have positions : verifyReducedDims operand reduced = .ok () := by
    simp only [verifyReducedDims, Check.bind_eq_ok, Check.ensure_eq_ok, Check.checkAll_eq_ok]
    refine ⟨(), unique, fun d member => ?_⟩
    simpa [Dimensions.isPosition, Tensor.rank?, ranked, Shape.rank?] using inRange d member
  have body (allowed : List Extent) := reducer.verify_region isElement (Ty.same_refl _) initElement
    initScalar allowed "reduce"
  simp only [Reduce.infer, needInits_singleton, collect_needTensor_singleton,
    unifyInputs_singleton, verifyScalarInits_singleton initScalar, decoded, positions,
    Reduce.accumulators, body, Check.ok_bind, Check.pure_eq, ranked, keptShape]
  rfl

/-- A reduction agrees with the pooling whose window spans the reduced dimensions. On a static
    tensor with extents below `2 ^ 63`, none of which is zero at a reduced dimension, both succeed.
    The pooled tensor has the extent one at the reduced dimensions; without them its shape is
    compatible with that of the reduced tensor, and equal to it when no extent is zero. Both have
    the element type of the accumulator. -/
theorem pooling_matches_reduce (reducer : ScalarReducer operand.element)
    (form : operand.ty.WellFormed) (static : operand.shape = .ranked (extents.map some))
    (bounded : ∀ n ∈ extents, n < 2 ^ 63)
    (decoded : dimensions.decodeInts "dimensions" = .ok reduced) (unique : reduced.Nodup)
    (inhabited : ∀ d ∈ reduced, 0 ≤ d ∧ ∃ n, extents[d.toNat]? = some n ∧ 1 ≤ n)
    (initElement : init.element.same operand.element = true)
    (initScalar : init.hasOtherRank 0 = false) :
    ∃ windowed kept,
      (pooling operand.ty init.ty (.ofInts (Window.spanning extents reduced)) {} reducer).infer =
        .ok [.tensor reducer.result (.ranked windowed)] ∧
      Reduce.infer
          { inputs := [operand.ty], inits := some [init.ty], dimensions,
            body := some reducer.region } =
        .ok [.tensor reducer.result (.ranked kept)] ∧
      windowed.length = extents.length ∧ (∀ d ∈ reduced, windowed[d.toNat]? = some (some 1)) ∧
      Shape.compatible (.ranked (Shape.without windowed reduced)) (.ranked kept) = true ∧
      (0 ∉ extents → Shape.without windowed reduced = kept) := by
  have isElement : operand.element.isElement = true := by
    cases form with
    | tensor isElement _ _ => exact isElement
  have nonneg := Tensor.nonneg_of_wellFormed form static
  have sizes : ∀ w ∈ Window.spanning extents reduced, 1 ≤ w ∧ w < 2 ^ 63 := fun w member =>
    Window.mem_spanning bounded (fun d reducedAt => (inhabited d reducedAt).2) member
  have fits : ∀ w ∈ Window.spanning extents reduced, fitsWord w = true := by
    intro w member
    obtain ⟨positive, below⟩ := sizes w member
    exact fitsWord_of_nonneg (by omega) below
  have length : (Window.spanning extents reduced).length = (extents.map some).length := by
    simp [Window.spanning]
  have slid := Window.decode_plain (fun w member => (sizes w member).1) fits
  rw [length] at slid
  have inRange : ∀ d ∈ reduced, 0 ≤ d ∧ d < (extents.map some).length := by
    intro d member
    obtain ⟨position, n, found, -⟩ := inhabited d member
    have inside := (List.getElem?_eq_some_iff.mp found).1
    rw [List.length_map]
    omega
  refine ⟨_, _,
    (pooling_infer_eq_ok reducer isElement static initElement initScalar).mpr
      ⟨_, ⟨_, Payload.decodeInts_of_fits fits _, length, slid, ?_⟩, rfl⟩,
    reduce_infer_eq reducer isElement static decoded unique inRange initElement initScalar,
    Window.length_spanned, ?_, ?_, ?_⟩
  · simp [Window.plain, Window.spanning]
  · intro d member
    obtain ⟨position, n, found, -⟩ := inhabited d member
    have spanned : listed reduced d.toNat = true := by
      rw [listed, List.contains_iff_mem, Int.ofNat_eq_natCast, Int.toNat_of_nonneg position]
      exact member
    rw [Window.getElem?_spanned, found, Option.map_some, spanned, if_pos rfl]
  · have self := Shape.compatible_self (.ranked (Shape.without (extents.map some) reduced))
    exact Window.refines_without_spanned.compatibleDims (.refl _) self
  · intro nonempty
    apply Window.without_spanned_of_pos
    intro n member
    have least := nonneg n member
    have nonzero : n ≠ 0 := by
      rintro rfl
      exact nonempty member
    omega

/-- A sum over the outer dimensions of a tensor without columns. The pooling has one place along
    each of them and does not know how many columns there are; the reduction keeps no columns. -/
theorem pooling_matches_reduce_columns :
    let element : Ty := .float .f32
    let reducer : ScalarReducer element := ⟨element, element, element, rfl, rfl, rfl⟩
    let input : Ty := .tensor element (.ranked [some 3, some 0, some 5])
    let init : Ty := .tensor element .scalar
    (pooling input init (.ofInts [3, 1, 5]) {} reducer).infer =
        .ok [.tensor element (.ranked [some 1, none, some 1])] ∧
      Reduce.infer
          { inputs := [input], inits := some [init], dimensions := .ofInts [2, 0],
            body := some reducer.region } = .ok [.tensor element (.ranked [some 0])] ∧
      Shape.compatible (.ranked (Shape.without [some 1, none, some 1] [2, 0]))
        (.ranked [some 0]) = true := by
  intro element reducer input init
  have pooled : (pooling input init (.ofInts [3, 1, 5]) {} reducer).infer =
      .ok [.tensor element (.ranked [some 1, none, some 1])] := rfl
  have reduced : Reduce.infer
      { inputs := [input], inits := some [init], dimensions := .ofInts [2, 0],
        body := some reducer.region } = .ok [.tensor element (.ranked [some 0])] := rfl
  obtain ⟨windowed, kept, accepted, accepted', -, -, agree, -⟩ :=
    @pooling_matches_reduce ⟨element, .ranked [some 3, some 0, some 5]⟩ (.scalar element) [3, 0, 5]
      [2, 0] (.ofInts [2, 0]) reducer (by decide) rfl (by decide) rfl (by decide) (by decide) rfl
      rfl
  cases pooled.symm.trans accepted
  cases reduced.symm.trans accepted'
  exact ⟨pooled, reduced, agree⟩

end Op

end TensorTyping
