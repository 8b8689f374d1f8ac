import Mathlib.Tactic.Ring
import TensorTyping.Op.Slicing
import TensorTyping.Proofs.Ty.WellFormed
import TensorTyping.Proofs.Window.Places

/-!
# Padding under a window and padding of a tensor

A window may dilate and pad its base, and a tensor may be padded around and between its elements.
Both put the same elements in place: a window over a base has the places of the bare window over the
padded base. The one exception is an empty dimension, which has no gaps to fill. There the window
counts one gap less than none, so its base is shorter by one interior padding.
-/

namespace TensorTyping

/-- The padding of a tensor that does what the window does to its base. -/
def WindowDim.padding (dim : WindowDim) : Op.PadDim :=
  ⟨dim.paddingLow, dim.paddingHigh, dim.baseDilation - 1⟩

/-- The window over a base that is padded and dilated already. -/
def WindowDim.unpadded (dim : WindowDim) : WindowDim :=
  { dim with paddingLow := 0, paddingHigh := 0, baseDilation := 1 }

namespace Op

/-- Padding succeeds along a dimension when no size gets negative. -/
theorem PadDim.extent_eq_ok {i : Nat} {pad : PadDim} {dim dim' : Extent} :
    PadDim.extent i pad dim = .ok dim' ↔
      0 ≤ pad.interior ∧ (∀ n, dim = some n → 0 ≤ pad.size n) ∧ dim.map pad.size = dim' := by
  unfold PadDim.extent
  cases dim with
  | none =>
    simp only [Check.bind_eq_ok, Check.ensure_eq_ok, Check.pure_eq, Except.ok.injEq,
      Option.map_none, reduceCtorEq, false_implies, implies_true, true_and]
    constructor
    · rintro ⟨-, interior, rfl⟩
      exact ⟨interior, rfl⟩
    · rintro ⟨interior, rfl⟩
      exact ⟨(), interior, rfl⟩
  | some n =>
    simp only [Check.bind_eq_ok, Check.ensure_eq_ok, Check.pure_eq, Except.ok.injEq,
      Option.map_some, Option.some.injEq, forall_eq']
    constructor
    · rintro ⟨-, interior, -, size, rfl⟩
      exact ⟨interior, size, rfl⟩
    · rintro ⟨interior, size, rfl⟩
      exact ⟨(), interior, (), size, rfl⟩

namespace Pad

variable {op : Pad} {element : Ty} {shape : Shape} {pads : List PadDim} {count : Nat}

/-- The number of dimensions of the result, which the operand or else the low padding tells. -/
theorem rank_eq (decoded : op.decode count = .ok pads)
    (length : ∀ dims, shape = .ranked dims → dims.length = count) {rank : Nat}
    (found : op.rank ⟨element, shape⟩ = .ok (some rank)) : rank = count := by
  cases shape with
  | ranked dims =>
    cases found
    exact length dims rfl
  | unranked =>
    obtain ⟨low, listed, counted⟩ := Check.bind_eq_ok.mp found
    simp only [Pad.decode, Check.bind_eq_ok] at decoded
    obtain ⟨low', listed', -⟩ := decoded
    rcases Payload.decodeIntsOr_eq_ok.mp listed' with ⟨absent, -⟩ | ⟨-, again, length'⟩
    · rw [absent] at listed
      cases listed
      cases counted
    · obtain rfl := Except.ok.inj (listed.symm.trans again)
      rw [Check.pure_eq, Except.ok.injEq] at counted
      split at counted
      · cases counted
      · rw [← Option.some.inj counted, length']

/-- The dimensions of the result are those of the operand, padded one by one. -/
theorem extents_of_infer {resultElement : Ty} {padded : List Extent}
    (operandType : op.operand = .tensor element shape) (decoded : op.decode count = .ok pads)
    (length : ∀ dims, shape = .ranked dims → dims.length = count)
    (succeeds : op.infer = .ok [.tensor resultElement (.ranked padded)]) :
    List.Forall₂ (fun item dim => PadDim.extent item.2 item.1 (shape.extent item.2) = .ok dim)
      pads.zipIdx padded := by
  have known : op.operand.needTensor "operand" = .ok ⟨element, shape⟩ := by
    rw [operandType]
    rfl
  simp only [Pad.infer, known, Check.ok_bind, Check.bind_eq_ok] at succeeds
  obtain ⟨_, -, _, -, _, -, rank?, found, made⟩ := succeeds
  cases rank? with
  | none =>
    -- Only an operand without a rank leaves the rank open, and the result has one.
    cases shape with
    | unranked => cases made
    | ranked dims => cases found
  | some rank =>
    obtain rfl := rank_eq decoded length found
    simp only [Check.bind_eq_ok, decoded, Except.ok.injEq, Tensor.form_eq_ok] at made
    obtain ⟨_, rfl, dims, each, _, ⟨-, -, rfl⟩, made⟩ := made
    cases made
    refine (Check.collect_eq_ok.mp each).imp fun item dim success => ?_
    obtain ⟨_, read, success⟩ := Check.bind_eq_ok.mp success
    obtain ⟨-, rfl⟩ := (Tensor.dim_eq_ok_of_nonneg (Int.natCast_nonneg item.2)).mp read
    exact success

end Pad

end Op

namespace Window

/-! ### The base under a window -/

@[simp] theorem paddedBase_unpadded (dim : WindowDim) (n : Int) :
    paddedBase dim.unpadded n = n := by
  simp [paddedBase, WindowDim.unpadded]

theorem paddedBase_of_pos (dim : WindowDim) {n : Int} (inside : 1 ≤ n) :
    paddedBase dim n = dim.padding.size n := by
  rw [paddedBase, Op.PadDim.size, WindowDim.padding, if_pos (by omega)]
  dsimp only
  ring

/-- An empty dimension is padded at its ends only, and dilated by one gap less than none. -/
theorem paddedBase_zero (dim : WindowDim) :
    paddedBase dim 0 = dim.padding.size 0 - (dim.baseDilation - 1) := by
  rw [paddedBase, Op.PadDim.size, WindowDim.padding, if_neg (by omega)]
  dsimp only
  ring

/-- The bare window over the padded base has the places of the window. -/
theorem places_unpadded (dim : WindowDim) (n : Int) :
    places (some (paddedBase dim n)) dim.unpadded = places (some n) dim := by
  have size : dilated dim.unpadded.size.extent dim.unpadded.windowDilation =
      dilated dim.size.extent dim.windowDilation := rfl
  simp only [places, paddedBase_unpadded, size]
  cases dilated dim.size.extent dim.windowDilation with
  | none => rfl
  | some w => rfl

/-! ### Padding first -/

variable {op : Op.Pad} {element resultElement : Ty} {shape : Shape} {base padded : List Extent}
  {window : List WindowDim}

/-- Padding and base dilation of a window agree with the padding of a tensor. The tensor is padded
    by what the window does to its base, and the bare window slides over the result. The output
    extents are those of the window over the original base, except where that has no elements:
    there the base of the window is the padded one less an interior padding, and the output is that
    of the bare window over it. -/
theorem outputDims_matches_pad (operandType : op.operand = .tensor element shape)
    (extents : base = shape.dims?.getD (List.replicate window.length none))
    (length : base.length = window.length) (positive : ∀ dim ∈ window, 1 ≤ dim.stride)
    (attributes : op.decode window.length = .ok (window.map WindowDim.padding))
    (succeeds : op.infer = .ok [.tensor resultElement (.ranked padded)]) :
    ∃ windowed windowed', outputDims base window = .ok windowed ∧
      outputDims padded (window.map WindowDim.unpadded) = .ok windowed' ∧
      windowed.length = window.length ∧ windowed'.length = window.length ∧
      ∀ (i : Nat) (dim : WindowDim), window[i]? = some dim →
        ((∀ n, base[i]? = some (some n) → 1 ≤ n) → windowed[i]? = windowed'[i]?) ∧
        (base[i]? = some (some 0) → ∃ e output, padded[i]? = some (some e) ∧
          paddedBase dim 0 = e - (dim.baseDilation - 1) ∧ windowed[i]? = some output ∧
          outputExtent (some (e - (dim.baseDilation - 1))) dim.unpadded = .ok output) := by
  have ranked : ∀ dims, shape = .ranked dims → dims.length = window.length := by
    rintro dims rfl
    rwa [extents] at length
  have each := Op.Pad.extents_of_infer operandType attributes ranked succeeds
  have length' : padded.length = window.length := by
    rw [← each.length_eq, List.length_zipIdx, List.length_map]
  have positive' : ∀ dim ∈ window.map WindowDim.unpadded, 1 ≤ dim.stride :=
    List.forall_mem_map.mpr positive
  refine ⟨List.zipWith places base window,
    List.zipWith places padded (window.map WindowDim.unpadded),
    (outputDims_eq_ok positive).mpr ⟨length, rfl⟩,
    (outputDims_eq_ok positive').mpr ⟨by rw [length', List.length_map], rfl⟩,
    by simp [length], by simp [length'], ?_⟩
  intro i dim found
  have inside : i < window.length := (List.getElem?_eq_some_iff.mp found).1
  have given : base[i]? = some (shape.extent i) := by
    cases shape with
    | unranked => simp [extents, Shape.dims?, Shape.extent, inside]
    | ranked dims =>
      have inside' : i < dims.length := by rw [ranked dims rfl]; exact inside
      simp [extents, Shape.dims?, Shape.extent, inside']
  have item : ((window.map WindowDim.padding).zipIdx)[i]? = some (dim.padding, i) := by
    simp [List.getElem?_zipIdx, found]
  have here := Check.forall₂_getElem? each i
  rw [item] at here
  generalize found' : padded[i]? = extent? at here
  obtain ⟨padding⟩ := here
  obtain ⟨-, -, rfl⟩ := Op.PadDim.extent_eq_ok.mp padding
  simp only [List.getElem?_zipWith, List.getElem?_map, found, found', given, Option.map_some,
    Option.some.injEq]
  constructor
  · intro inhabited
    cases known : shape.extent i with
    | none => rfl
    | some n =>
      rw [← places_unpadded, paddedBase_of_pos dim (inhabited n known)]
      rfl
  · intro empty
    rw [empty]
    have shorter := paddedBase_zero dim
    refine ⟨_, _, rfl, shorter, rfl, ?_⟩
    have stride := positive' _ (List.mem_map_of_mem (List.mem_of_getElem? found))
    rw [← shorter, outputExtent_eq _ stride, places_unpadded]

/-- A tensor with two rows, an empty dimension and an unknown one. Dilated and padded at the low
    end, the rows have six places for a window of two. Padding gives the empty dimension two
    elements, of which the window sees one. -/
theorem outputDims_matches_pad_empty :
    let window : List WindowDim :=
      [{ size := .known 2, paddingLow := 4, baseDilation := 2 },
        { size := .known 1, paddingLow := 1, paddingHigh := 1, baseDilation := 2 }, {}]
    let op : Op.Pad :=
      { operand := .tensor (.float .f32) (.ranked [some 2, some 0, none])
        paddingValue := .tensor (.float .f32) .scalar
        edgeLow := .ofInts [4, 1, 0], edgeHigh := .ofInts [0, 1, 0], interior := .ofInts [1, 1, 0] }
    op.infer = .ok [.tensor (.float .f32) (.ranked [some 7, some 2, none])] ∧
      outputDims [some 2, some 0, none] window = .ok [some 6, some 1, none] ∧
      ∃ windowed, outputDims [some 7, some 2, none] (window.map WindowDim.unpadded) =
        .ok windowed ∧ windowed[0]? = some (some 6) ∧ windowed[2]? = some none ∧
        outputExtent (some (2 - 1)) (WindowDim.unpadded { size := .known 1, baseDilation := 2 }) =
          .ok (some 1) := by
  intro window op
  have attributes : op.decode 3 = .ok (window.map WindowDim.padding) := rfl
  have succeeds : op.infer = .ok [.tensor (.float .f32) (.ranked [some 7, some 2, none])] := rfl
  have output : outputDims [some 2, some 0, none] window = .ok [some 6, some 1, none] := rfl
  obtain ⟨windowed, windowed', first, second, -, -, agree⟩ :=
    @outputDims_matches_pad op (.float .f32) (.float .f32) (.ranked [some 2, some 0, none]) _ _
      window rfl rfl rfl (by decide) attributes succeeds
  obtain rfl := Except.ok.inj (output.symm.trans first)
  have rows := (agree 0 _ rfl).1 (by simp [Shape.dims?])
  have unknown := (agree 2 _ rfl).1 (by simp [Shape.dims?])
  obtain ⟨e, extent, padded, -, ⟨⟩, bare⟩ := (agree 1 _ rfl).2 rfl
  obtain rfl : 2 = e := Option.some.inj (Option.some.inj padded)
  exact ⟨succeeds, output, windowed', second, rows.symm, unknown.symm, bare⟩

end Window

end TensorTyping
