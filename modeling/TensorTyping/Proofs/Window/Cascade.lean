import Mathlib.Tactic.Ring
import TensorTyping.Proofs.Window.Places

/-!
# Pooling twice

A window over the outputs of another window sees a stretch of the base, its receptive field. So
pooling twice is pooling once with a larger window that moves by larger steps. The larger window
fits just where both smaller ones do, one after the other.
-/

namespace TensorTyping

/-- A window along one dimension that slides over the bare base. -/
structure Pool where
  size : Int
  stride : Int
  size_pos : 1 ≤ size
  stride_pos : 1 ≤ stride

namespace Pool

variable (first second pool : Pool)

/-- The window is neither padded nor dilated. -/
def dim : WindowDim := { size := .known pool.size, stride := pool.stride }

theorem reach_nonneg : 0 ≤ (second.size - 1) * first.stride :=
  Int.mul_nonneg (Int.sub_nonneg_of_le second.size_pos) (Int.le_of_lt first.stride_pos)

/-- The window on the base that sees all that the second window sees through the outputs of the
    first. -/
def andThen : Pool where
  size := first.size + (second.size - 1) * first.stride
  stride := first.stride * second.stride
  size_pos := Int.le_trans first.size_pos (Int.le_add_of_nonneg_right (reach_nonneg first second))
  stride_pos := Int.mul_pos first.stride_pos second.stride_pos

@[simp] theorem size_andThen :
    (first.andThen second).size = first.size + (second.size - 1) * first.stride := rfl

@[simp] theorem stride_andThen :
    (first.andThen second).stride = first.stride * second.stride := rfl

/-! ### Along one dimension -/

theorem places_dim (n : Int) :
    Window.places (some n) pool.dim =
      if n < pool.size then none else some ((n - pool.size) / pool.stride + 1) := by
  have base : Window.paddedBase pool.dim n = n := by simp [Window.paddedBase, dim]
  have size : Window.dilated pool.dim.size.extent pool.dim.windowDilation = some pool.size := by
    simp [Window.dilated, WindowSize.extent, dim]
  simp only [Window.places, base, size]
  rw [dim, Int.fdiv_eq_ediv_of_nonneg _ (Int.le_of_lt pool.stride_pos)]

/-- The combined window does not fit just when the first does not, or the second does not fit into
    the outputs of the first. -/
theorem lt_size_andThen (n : Int) :
    n < (first.andThen second).size ↔
      n < first.size ∨ (n - first.size) / first.stride + 1 < second.size := by
  have reach := reach_nonneg first second
  have outputs : (n - first.size) / first.stride + 1 < second.size ↔
      n - first.size < (second.size - 1) * first.stride := by
    rw [← Int.ediv_lt_iff_lt_mul first.stride_pos]
    omega
  rw [outputs, size_andThen]
  omega

/-- Moves of the second window over the outputs of the first are moves of the combined window. -/
theorem moves_andThen (n : Int) :
    ((n - first.size) / first.stride + 1 - second.size) / second.stride =
      (n - (first.andThen second).size) / (first.andThen second).stride := by
  have stride : first.stride ≠ 0 := Int.ne_of_gt first.stride_pos
  have rest : n - (first.andThen second).size =
      n - first.size + (1 - second.size) * first.stride := by
    rw [size_andThen]
    ring
  calc ((n - first.size) / first.stride + 1 - second.size) / second.stride
    _ = ((n - first.size) / first.stride + (1 - second.size)) / second.stride := by
      rw [Int.add_sub_assoc]
    _ = (n - first.size + (1 - second.size) * first.stride) / first.stride / second.stride := by
      rw [Int.add_mul_ediv_right _ _ stride]
    _ = (n - (first.andThen second).size) / (first.andThen second).stride := by
      rw [Int.ediv_ediv_of_nonneg (Int.le_of_lt first.stride_pos), ← rest, stride_andThen]

/-- The second window over the outputs of the first has the places of the combined window. -/
theorem places_places (base : Extent) :
    Window.places (Window.places base first.dim) second.dim =
      Window.places base (first.andThen second).dim := by
  cases base with
  | none => rfl
  | some n =>
    rw [places_dim, places_dim]
    by_cases fits : n < first.size
    · rw [if_pos fits, if_pos ((lt_size_andThen first second n).mpr (Or.inl fits))]
      rfl
    · rw [if_neg fits, places_dim, moves_andThen]
      simp only [lt_size_andThen, fits, false_or]

end Pool

namespace Window

/-! ### Along all dimensions -/

theorem stride_of_pools {α : Type} (pool : α → Pool) (stages : List α) :
    ∀ dim ∈ stages.map fun stage => (pool stage).dim, 1 ≤ dim.stride :=
  List.forall_mem_map.mpr fun stage _ => (pool stage).stride_pos

theorem outputDims_of_length_ne {base : List Extent} {window : List WindowDim}
    (differ : base.length ≠ window.length) :
    outputDims base window = reject .incompatibleShape
      (s!"expects base shape {dimsText base} to have one extent per " ++
        s!"window dimension ({window.length}).") := by
  rw [outputDims, ensure, if_neg differ]
  rfl

/-- Pooling twice is pooling once with the combined windows, whatever is known of the base, and
    succeeds for every base of the rank of the windows. -/
theorem outputDims_andThen (base : List Extent) (stages : List (Pool × Pool)) :
    (do
        let pooled ← outputDims base (stages.map fun stage => stage.1.dim)
        outputDims pooled (stages.map fun stage => stage.2.dim)) =
      outputDims base (stages.map fun stage => (stage.1.andThen stage.2).dim) ∧
    ((∃ pooled, outputDims base (stages.map fun stage => (stage.1.andThen stage.2).dim) =
      .ok pooled) ↔ base.length = stages.length) := by
  have combined := stride_of_pools (fun stage => stage.1.andThen stage.2) stages
  refine ⟨?_, by simp [outputDims_eq_ok combined]⟩
  by_cases length : base.length = stages.length
  · have once := (outputDims_eq_ok combined).mpr ⟨by rw [length, List.length_map], rfl⟩
    rw [once, Check.bind_eq_ok]
    refine ⟨_, (outputDims_eq_ok (stride_of_pools Prod.fst stages)).mpr
      ⟨by rw [length, List.length_map], rfl⟩, ?_⟩
    refine (outputDims_eq_ok (stride_of_pools Prod.snd stages)).mpr ⟨by simp [length], ?_⟩
    apply List.ext_getElem?
    intro i
    simp only [List.getElem?_zipWith, List.getElem?_map]
    cases base[i]? with
    | none => rfl
    | some extent =>
      cases stages[i]? with
      | none => rfl
      | some stage => exact congrArg some (stage.1.places_places stage.2 extent).symm
  · rw [outputDims_of_length_ne (by simpa using length),
      outputDims_of_length_ne (by simpa using length), List.length_map, List.length_map]
    rfl

-- Windows of three that move by two, twice: of the bases, the second is large enough for the first
-- window alone.
example :
    let pool : Pool := ⟨3, 2, by decide, by decide⟩
    let combined := pool.andThen pool
    combined.size = 7 ∧ combined.stride = 4 ∧
      outputDims [some 16, some 6, some 0, none] (List.replicate 4 pool.dim) =
        .ok [some 7, some 2, none, none] ∧
      outputDims [some 7, some 2, none, none] (List.replicate 4 pool.dim) =
        .ok [some 3, none, none, none] ∧
      outputDims [some 16, some 6, some 0, none] (List.replicate 4 combined.dim) =
        .ok [some 3, none, none, none] := by
  decide +kernel

end Window

end TensorTyping
