import TensorTyping.Op.Broadcasting
import TensorTyping.Proofs.Dimensions
import TensorTyping.Proofs.Payload.Decode
import TensorTyping.Proofs.Ty.WellFormed

/-!
# Successive broadcasts

An explicit broadcast sends every dimension of a ranked operand to a position of its own, where the
extent is kept unless it is one. Broadcasts compose as these maps do, as long as every extent
between them is known: an unknown extent would agree with two known ones that differ.
-/

namespace TensorTyping

/-- The extent can be repeated to the target: it is one, or the two are compatible. -/
def Extent.Stretches (source target : Extent) : Prop :=
  source = some 1 ∨ Extent.compatible source target = true

/-- Stretching goes on through a known extent. -/
theorem Extent.Stretches.trans {source middle target : Extent} (known : middle ≠ none)
    (first : source.Stretches middle) (second : middle.Stretches target) :
    source.Stretches target := by
  rcases first with one | agree
  · exact Or.inl one
  · cases middle with
    | none => exact absurd rfl known
    | some m =>
      cases source with
      | none => exact Or.inr rfl
      | some n =>
        obtain rfl : n = m := by simpa [Extent.compatible] using agree
        exact second

namespace Op

open Check

variable {source middle target : Tensor} {dims first second : List Int}

/-! ### The map of a broadcast -/

/-- What is verified of a broadcast when the rank of its operand is known. -/
structure Broadcasts (source target : Tensor) (dims : List Int) : Prop where
  length : source.rank? = some dims.length
  distinct : dims.Nodup
  positions : ∀ d ∈ dims, Dimensions.isPosition target.rank? d = true
  rank : ∀ n, target.rank? = some n → dims.length ≤ n
  extents : ∀ i d, dims[i]? = some d → (source.extent i).Stretches (target.extent d.toNat)

theorem verifyBroadcastDim_eq_ok_iff {i : Nat} {d : Int} {u : Unit} (has : source.HasDim i)
    (reaches : target.HasDim d) :
    verifyBroadcastDim source target i d = .ok u ↔
      (source.extent i).Stretches (target.extent d.toNat) := by
  rw [verifyBroadcastDim, has.dim_eq, reaches.dim_eq]
  exact ensure_eq_ok

/-- An extent can be repeated to an unknown one. -/
theorem stretches_of_rank? (unranked : target.rank? = none) (extent : Extent) (i : Nat) :
    extent.Stretches (target.extent i) := by
  obtain ⟨element, shape⟩ := target
  cases shape with
  | ranked dims => cases unranked
  | unranked => exact Or.inr (by cases extent <;> rfl)

theorem verifyBroadcastDims_eq_ok (ranked : source.hasRank = true) {u : Unit} :
    verifyBroadcastDims source target dims = .ok u ↔ Broadcasts source target dims := by
  obtain ⟨rank, found⟩ : ∃ rank, source.rank? = some rank := by
    obtain ⟨element, shape⟩ := source
    cases shape with
    | unranked => cases ranked
    | ranked extents => exact ⟨_, rfl⟩
  unfold verifyBroadcastDims
  cases reached : target.rank? with
  | none =>
    simp only [found, bind_eq_ok, ensure_eq_ok, exists_const, Dimensions.ensurePositions_eq_ok]
    constructor
    · rintro ⟨length, distinct, positions⟩
      exact ⟨by rw [found, length], distinct, reached ▸ positions, by simp [reached],
        fun i d _ => stretches_of_rank? reached _ _⟩
    · rintro ⟨length, distinct, positions, -, -⟩
      exact ⟨Option.some.inj (length.symm.trans found), distinct, reached ▸ positions⟩
  | some n =>
    have each (length : dims.length = rank)
        (positions : ∀ d ∈ dims, Dimensions.isPosition target.rank? d = true) (i : Nat) (d : Int)
        (here : dims[i]? = some d) : verifyBroadcastDim source target i d = .ok () ↔
          (source.extent i).Stretches (target.extent d.toNat) := by
      have inside := (List.getElem?_eq_some_iff.mp here).1
      refine verifyBroadcastDim_eq_ok_iff ?_ ?_
      · exact Tensor.hasDim_of_rank found (Int.natCast_nonneg i) (by omega)
      · exact Dimensions.hasDim_of_isPosition (positions d (List.mem_of_getElem? here))
    simp only [found, bind_eq_ok, ensure_eq_ok, exists_const, Dimensions.ensurePositions_eq_ok,
      checkEach_eq_ok]
    rw [reached] at each
    constructor
    · rintro ⟨length, fits, ⟨distinct, positions⟩, extents⟩
      refine ⟨by rw [found, length], distinct, reached ▸ positions, fun m same => ?_, ?_⟩
      · rw [← Option.some.inj (reached.symm.trans same), length]
        exact fits
      · exact fun i d here => (each length positions i d here).mp (extents i d here)
    · rintro ⟨length, distinct, positions, fits, extents⟩
      obtain rfl := Option.some.inj (found.symm.trans length)
      rw [reached] at positions
      exact ⟨rfl, fits n reached, ⟨distinct, positions⟩,
        fun i d here => (each rfl positions i d here).mpr (extents i d here)⟩

namespace Broadcasts

theorem known_extent (static : middle.shape.isStatic = true) {n : Nat}
    (rank : middle.rank? = some n) {i : Nat} (inside : i < n) : middle.extent i ≠ none := by
  obtain ⟨element, shape⟩ := middle
  cases shape with
  | unranked => cases rank
  | ranked extents =>
    obtain rfl := Option.some.inj rank
    have known := List.all_eq_true.mp static _ (List.getElem_mem inside)
    intro unknown
    simp only [Tensor.extent, Shape.extent, List.getElem?_eq_getElem inside, Option.join_some]
      at unknown
    rw [unknown] at known
    cases known

/-- The first of two maps leads to positions of the second. -/
theorem inRange (one : Broadcasts source middle first) (two : Broadcasts middle target second) :
    ∀ d ∈ first, 0 ≤ d ∧ d < second.length := by
  intro d member
  have position := one.positions d member
  rw [two.length] at position
  exact Dimensions.isPosition_some.mp position

/-- Broadcasts compose as their maps do. -/
theorem comp (one : Broadcasts source middle first) (two : Broadcasts middle target second)
    (static : middle.shape.isStatic = true) :
    Broadcasts source target (Dimensions.select second first) := by
  have inRange := one.inRange two
  constructor
  · rw [Dimensions.length_select]
    exact one.length
  · exact Dimensions.nodup_select two.distinct one.distinct inRange
  · intro d member
    exact two.positions d (Dimensions.select_subset inRange member)
  · intro n reached
    rw [Dimensions.length_select]
    exact Nat.le_trans (one.rank _ two.length) (two.rank n reached)
  · intro i d found
    obtain ⟨m, here, rfl⟩ : ∃ m, first[i]? = some m ∧ second.getD m.toNat 0 = d := by
      simpa [Dimensions.select] using found
    have bounds := inRange m (List.mem_of_getElem? here)
    have inside : m.toNat < second.length := by omega
    have there : second[m.toNat]? = some (second.getD m.toNat 0) := by simp [inside]
    exact (one.extents i m here).trans (known_extent static two.length inside)
      (two.extents m.toNat _ there)

end Broadcasts

/-! ### Inference -/

namespace BroadcastInDim

theorem infer_eq_ok {payload : Payload} {types : List Ty} (ranked : source.hasRank = true) :
    infer ⟨source.ty, payload, target.ty⟩ = .ok types ↔
      source.element.same target.element = true ∧
        (∃ dims, payload.decodeInts "broadcast_dimensions" = .ok dims ∧
          Broadcasts source target dims) ∧ types = [target.ty] := by
  simp only [infer, Tensor.needTensor_ty, ok_bind, bind_eq_ok, ensure_eq_ok, exists_const,
    verifyBroadcastDims_eq_ok ranked, pure_eq, Except.ok.injEq, @eq_comm _ types]
  constructor
  · rintro ⟨same, dims, decoded, maps, shown⟩
    exact ⟨same, ⟨dims, decoded, maps⟩, shown⟩
  · rintro ⟨same, ⟨dims, decoded, maps⟩, shown⟩
    exact ⟨same, dims, decoded, maps, shown⟩

/-- Explicit broadcasts compose. When a broadcast of `source` into `middle` is accepted, and one of
    `middle` into `target`, so is the broadcast of `source` into `target` that sends every dimension
    where the two of them send it. Every extent of `middle` has to be known; `source` has to have a
    rank, and `target` may be anything. -/
theorem infer_comp {types types' : List Ty} (ranked : source.hasRank = true)
    (static : middle.shape.isStatic = true)
    (one : infer ⟨source.ty, .ofInts first, middle.ty⟩ = .ok types)
    (two : infer ⟨middle.ty, .ofInts second, target.ty⟩ = .ok types') :
    infer ⟨source.ty, .ofInts (Dimensions.select second first), target.ty⟩ = .ok [target.ty] := by
  have middleRanked : middle.hasRank = true := by
    obtain ⟨element, shape⟩ := middle
    cases shape with
    | unranked => cases static
    | ranked extents => rfl
  obtain ⟨same, ⟨dims, decoded, maps⟩, -⟩ := (infer_eq_ok ranked).mp one
  obtain ⟨same', ⟨dims', decoded', maps'⟩, -⟩ := (infer_eq_ok middleRanked).mp two
  obtain rfl := Payload.decodeInts_ofInts decoded
  obtain ⟨⟨signed, each⟩, rfl⟩ := Payload.decodeInts_ofInts_eq_ok.mp decoded'
  refine (infer_eq_ok ranked).mpr ⟨Ty.same_trans same same', ⟨_, ?_, maps.comp maps' static⟩, rfl⟩
  -- the composed map has only numbers of the second one, and these lie in one range
  refine Payload.decodeInts_ofInts_eq_ok.mpr ⟨⟨signed, fun d member => ?_⟩, rfl⟩
  exact each d (Dimensions.select_subset (maps.inRange maps') member)

/-- The extent one of a row is stretched to five in a box, and the extent one of the box to seven in
    a block. Both broadcasts change the order of the dimensions. -/
theorem infer_comp_row :
    let tensor (dims : List Extent) : Ty := .tensor (.float .f32) (.ranked dims)
    let row := tensor [some 1, some 3]
    let box := tensor [some 3, some 1, some 5]
    let block := tensor [some 5, some 3, some 9, some 7]
    infer ⟨row, .ofInts [2, 0], box⟩ = .ok [box] ∧
      infer ⟨box, .ofInts [1, 3, 0], block⟩ = .ok [block] ∧
      infer ⟨row, .ofInts [0, 1], block⟩ = .ok [block] := by
  intro tensor row box block
  have one : infer ⟨row, .ofInts [2, 0], box⟩ = .ok [box] := rfl
  have two : infer ⟨box, .ofInts [1, 3, 0], block⟩ = .ok [block] := rfl
  exact ⟨one, two, @infer_comp ⟨_, .ranked [some 1, some 3]⟩ ⟨_, .ranked [some 3, some 1, some 5]⟩
    ⟨_, .ranked [some 5, some 3, some 9, some 7]⟩ [2, 0] [1, 3, 0] _ _ rfl rfl one two⟩

end BroadcastInDim

end Op

end TensorTyping
