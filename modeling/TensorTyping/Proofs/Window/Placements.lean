import Mathlib.Data.Int.ConditionallyCompleteOrder
import Mathlib.Data.Int.Interval
import Mathlib.Data.Set.Card
import Mathlib.Tactic.Ring
import TensorTyping.Proofs.Window.Places

/-!
# Counting the places of a window

A window starts at one end of its padded base and moves on by whole strides as long as it fits. The
output extent is the number of these moves, the one of no strides included. No window has a known
number of places that is zero: a window that does not fit has an unknown output extent.
-/

namespace TensorTyping

/-! ### Steps within some room -/

/-- The numbers of steps of one length that can be made within the given room. -/
def stepsWithin (room step : Int) : Set Int := {k | 0 ≤ k ∧ k * step ≤ room}

section Steps

variable {room step : Int}

theorem mem_stepsWithin {k : Int} : k ∈ stepsWithin room step ↔ 0 ≤ k ∧ k * step ≤ room := Iff.rfl

theorem stepsWithin_eq (positive : 1 ≤ step) :
    stepsWithin room step = Finset.Icc 0 (Int.fdiv room step) := by
  ext k
  rw [mem_stepsWithin, Finset.coe_Icc, Set.mem_Icc, Int.fdiv_eq_ediv_of_nonneg _ (by omega),
    Int.le_ediv_iff_mul_le (by omega)]

theorem finite_stepsWithin (positive : 1 ≤ step) : (stepsWithin room step).Finite := by
  rw [stepsWithin_eq positive]
  exact Finset.finite_toSet _

theorem ncard_stepsWithin (positive : 1 ≤ step) :
    (stepsWithin room step).ncard = (Int.fdiv room step + 1).toNat := by
  rw [stepsWithin_eq positive, Set.ncard_coe_finset, Int.card_Icc, Int.sub_zero]

end Steps

namespace Window

variable {dim : WindowDim} {b w : Int}

/-- The numbers of strides by which a window of size `w` can be moved along a base of extent `b`.
    The window and the base are dilated, and the base is padded at both ends. -/
def placements (dim : WindowDim) (b w : Int) : Set Int :=
  {k | 0 ≤ k ∧ k * dim.stride + 1 + (w - 1) * dim.windowDilation ≤
    dim.paddingLow + dim.paddingHigh + b + (b - 1) * (dim.baseDilation - 1)}

theorem mem_placements {k : Int} :
    k ∈ placements dim b w ↔ 0 ≤ k ∧ k * dim.stride + 1 + (w - 1) * dim.windowDilation ≤
      dim.paddingLow + dim.paddingHigh + b + (b - 1) * (dim.baseDilation - 1) := Iff.rfl

/-- The window moves within what its own dilated size leaves of the base. -/
theorem placements_eq (dim : WindowDim) (b w : Int) :
    placements dim b w =
      stepsWithin (paddedBase dim b - (w + (w - 1) * (dim.windowDilation - 1))) dim.stride := by
  have size : w + (w - 1) * (dim.windowDilation - 1) = 1 + (w - 1) * dim.windowDilation := by ring
  ext k
  rw [mem_placements, mem_stepsWithin, size, paddedBase]
  omega

theorem finite_placements (positive : 1 ≤ dim.stride) : (placements dim b w).Finite := by
  rw [placements_eq]
  exact finite_stepsWithin positive

/-- The number of places of a window is the number of its placements, and unknown when there are
    none. -/
theorem places_eq_ncard (positive : 1 ≤ dim.stride) (known : dim.size.extent = some w) :
    places (some b) dim =
      if (placements dim b w).ncard = 0 then none else some ((placements dim b w).ncard : Int) := by
  rw [placements_eq, ncard_stepsWithin positive]
  unfold places
  rw [known, dilated, Option.map_some]
  dsimp only
  generalize paddedBase dim b = base
  generalize w + (w - 1) * (dim.windowDilation - 1) = size
  by_cases fits : base < size
  · have none : Int.fdiv (base - size) dim.stride < 0 := by
      rw [Int.fdiv_eq_ediv_of_nonneg _ (by omega)]
      exact Int.ediv_neg_of_neg_of_pos (by omega) (by omega)
    rw [if_pos fits, if_pos (by omega)]
  · have steps : 0 ≤ Int.fdiv (base - size) dim.stride :=
      Int.fdiv_nonneg (by omega) (by omega)
    rw [if_neg fits, if_neg (by omega), Int.toNat_of_nonneg (by omega)]

theorem places_of_unknown_size (base : Extent) (unknown : dim.size.extent = none) :
    places base dim = none := by
  unfold places
  rw [unknown]
  cases base <;> rfl

/-! ### Validated windows -/

variable {sizes : List Extent} {attributes : Attributes} {window : List WindowDim}

/-- A validated window has one dimension for each of its sizes, and every stride is positive. -/
theorem build_sizes (built : build (sizes.map .ofExtent) attributes = .ok window) :
    List.Forall₂ (fun size dim => dim.size = .ofExtent size ∧ 1 ≤ dim.stride) sizes window := by
  have each := List.forall₂_map_left_iff.mp (builtFrom_of_build built)
  exact each.imp fun size dim made => ⟨made.size_eq, made.stride⟩

/-- The output at one position of a base and of a validated window. -/
theorem getElem?_outputs (built : build (sizes.map .ofExtent) attributes = .ok window)
    {base : List Extent} {i : Nat} {extent size : Extent} (based : base[i]? = some extent)
    (sized : sizes[i]? = some size) :
    ∃ dim, window[i]? = some dim ∧ dim.size = .ofExtent size ∧ 1 ≤ dim.stride ∧
      (List.zipWith places base window)[i]? = some (places extent dim) := by
  have here := Check.forall₂_getElem? (build_sizes built) i
  rw [sized] at here
  generalize found : window[i]? = dim? at here
  obtain ⟨⟨same, positive⟩⟩ := here
  rw [List.getElem?_zipWith, based, found]
  exact ⟨_, rfl, same, positive, rfl⟩

/-- The output extents of a validated window count its placements. There is an output for every base
    of the rank of the window. Along a dimension where the extent of the base and the size of the
    window are known, it is the number of placements, of which there are finitely many, or unknown
    when there are none; along any other dimension it is unknown. So no known output is less than
    one. -/
theorem outputDims_counts_placements (built : build (sizes.map .ofExtent) attributes = .ok window)
    (base : List Extent) :
    ((∃ output, outputDims base window = .ok output) ↔ base.length = sizes.length) ∧
      ∀ output, outputDims base window = .ok output →
        output.length = sizes.length ∧
        (∀ (i : Nat) (b w : Int), base[i]? = some (some b) → sizes[i]? = some (some w) →
          ∃ dim, window[i]? = some dim ∧ dim.size = .known w ∧ (placements dim b w).Finite ∧
            output[i]? = some (if (placements dim b w).ncard = 0 then none
              else some ((placements dim b w).ncard : Int))) ∧
        (∀ i < sizes.length, base[i]? = some none ∨ sizes[i]? = some none →
          output[i]? = some none) ∧
        ∀ n, some n ∈ output → 1 ≤ n := by
  have each := build_sizes built
  have length : window.length = sizes.length := each.length_eq.symm
  have positive : ∀ dim ∈ window, 1 ≤ dim.stride := by
    intro dim member
    obtain ⟨_, -, -, positive⟩ := Check.exists_left_of_forall₂ each member
    exact positive
  refine ⟨by simp only [outputDims_eq_ok positive, exists_eq_right, length], ?_⟩
  intro output found
  obtain ⟨ranks, rfl⟩ := (outputDims_eq_ok positive).mp found
  refine ⟨by simp [ranks, length], ?_, ?_, ?_⟩
  · intro i b w based sized
    obtain ⟨dim, at_i, size, stride, output⟩ := getElem?_outputs built based sized
    have known : dim.size.extent = some w := by rw [size]; rfl
    rw [output, places_eq_ncard stride known]
    exact ⟨dim, at_i, size, finite_placements stride, rfl⟩
  · intro i inside unknown
    have based : base[i]? = some base[i] := List.getElem?_eq_getElem (by omega)
    have sized : sizes[i]? = some sizes[i] := List.getElem?_eq_getElem inside
    obtain ⟨dim, -, size, -, output⟩ := getElem?_outputs built based sized
    rw [output, Option.some.injEq]
    rcases unknown with unknown | unknown
    · rw [Option.some.inj (based.symm.trans unknown)]
      rfl
    · apply places_of_unknown_size
      rw [size, Option.some.inj (sized.symm.trans unknown)]
      rfl
  · intro n member
    rw [← List.map_uncurry_zip_eq_zipWith] at member
    obtain ⟨⟨extent, dim⟩, paired, counted⟩ := List.mem_map.mp member
    exact places_pos (positive dim (List.of_mem_zip paired).2) counted

/-- A window of three elements over ten, of which the first is cropped, moves by two elements and
    has four placements. A dilated dimension without elements has one placement between its
    paddings, a window of five elements has none over three, and of an unknown size nothing is
    known. -/
theorem outputDims_counts_placements_cropped :
    let cropped : WindowDim := { size := .known 3, stride := 2, paddingLow := -1 }
    let empty : WindowDim :=
      { size := .known 1, paddingLow := 1, paddingHigh := 1, baseDilation := 2 }
    let window : List WindowDim := [cropped, empty, { size := .known 5 }, { size := .unknown }]
    build ([some 3, some 1, some 5, none].map .ofExtent)
        { strides := [2, 1, 1, 1], padding := [[-1, 0], [1, 1], [0, 0], [0, 0]],
          baseDilations := [1, 2, 1, 1] } = .ok window ∧
      outputDims [some 10, some 0, some 3, some 8] window = .ok [some 4, some 1, none, none] ∧
      (placements cropped 10 3).ncard = 4 ∧ (placements empty 0 1).ncard = 1 := by
  intro cropped empty window
  have built : build ([some 3, some 1, some 5, none].map .ofExtent)
      { strides := [2, 1, 1, 1], padding := [[-1, 0], [1, 1], [0, 0], [0, 0]],
        baseDilations := [1, 2, 1, 1] } = .ok window := rfl
  have output : outputDims [some 10, some 0, some 3, some 8] window =
      .ok [some 4, some 1, none, none] := rfl
  obtain ⟨-, counts⟩ := outputDims_counts_placements built [some 10, some 0, some 3, some 8]
  obtain ⟨-, counted, -, -⟩ := counts _ output
  obtain ⟨_, ⟨⟩, -, -, four⟩ := counted 0 10 3 rfl rfl
  obtain ⟨_, ⟨⟩, -, -, one⟩ := counted 1 0 1 rfl rfl
  have count {n : Nat} {m : Int}
      (known : some (some m) = some (if n = 0 then none else some (n : Int))) : (n : Int) = m := by
    rw [Option.some.injEq] at known
    split at known
    · cases known
    · exact (Option.some.inj known).symm
  exact ⟨built, output, Int.ofNat_inj.mp (count four), Int.ofNat_inj.mp (count one)⟩

end Window

end TensorTyping
