import Mathlib.Data.List.Forall2
import Mathlib.Data.List.Nodup
import Mathlib.Data.Set.List
import TensorTyping.Broadcast
import TensorTyping.Op.Broadcasting
import TensorTyping.Proofs.Dimensions
import TensorTyping.Proofs.Payload.Decode
import TensorTyping.Proofs.Ty.Same
import TensorTyping.Proofs.Ty.WellFormed

/-!
# Implicit and explicit broadcasts

An explicit broadcast that lines a shape up with the last dimensions of a declared result puts an
order on static shapes: an extent of one goes to any extent, another one only to itself, and what
stands in front is free. The implicit broadcast of two shapes is their least upper bound in this
order, and fails exactly when they have no upper bound.
-/

namespace TensorTyping

namespace Extent

/-- The numbers as extents. -/
def ofNats (dims : List Nat) : List Extent := dims.map fun n : Nat => some (n : Int)

@[simp] theorem length_ofNats (dims : List Nat) : (ofNats dims).length = dims.length := by
  simp [ofNats]

theorem none_notMem_ofNats (dims : List Nat) : none ∉ ofNats dims := by
  simp [ofNats]

theorem ofNats_injective : Function.Injective ofNats :=
  List.map_injective_iff.mpr fun _ _ same => Int.ofNat.inj (Option.some.inj same)

end Extent

/-- The shape with the given extents, all of which are known. -/
def Shape.static (dims : List Nat) : Shape := .ranked (Extent.ofNats dims)

namespace Broadcast

open Extent (ofNats)

/-! ### The order on extents -/

/-- The extent is one or that of the target. -/
def Widens (dim target : Extent) : Prop := dim = some 1 ∨ dim = target

theorem widens_of_extent? {a b dim : Extent} (ha : a ≠ none) (hb : b ≠ none)
    (found : extent? a b = some dim) : Widens a dim ∧ Widens b dim := by
  unfold extent? at found
  unfold Widens
  grind

/-- Extents with a common target have a broadcast, and it goes to that target. -/
theorem exists_extent? {a b target : Extent} (ha : Widens a target) (hb : Widens b target) :
    ∃ dim, extent? a b = some dim ∧ Widens dim target := by
  unfold extent?
  unfold Widens at *
  grind

theorem extent?_eq_or {a b dim : Extent} (found : extent? a b = some dim) : dim = a ∨ dim = b := by
  unfold extent? at found
  grind

/-! ### The order on lists of extents -/

theorem dims_eq_ok {a b result : List Extent} :
    dims a b = .ok result ↔
      List.Forall₂ (fun pair dim => extent? pair.1 pair.2 = some dim)
        ((align (max a.length b.length) a).zip (align (max a.length b.length) b)) result := by
  unfold dims
  dsimp only
  generalize (align (max a.length b.length) a).zip (align (max a.length b.length) b) = pairs
  nth_rewrite 2 [← List.zipIdx_map_fst 0 pairs]
  rw [Check.collect_eq_ok, List.forall₂_map_left_iff]
  apply iff_of_eq
  congr 1
  funext ⟨⟨x, y⟩, i⟩ dim
  cases extent? x y <;> simp

theorem length_align {rank : Nat} {dims : List Extent} (fits : dims.length ≤ rank) :
    (align rank dims).length = rank := by
  rw [align, List.length_append, List.length_replicate]
  omega

theorem length_le_of_widens {dims target : List Extent}
    (widens : List.Forall₂ Widens (align target.length dims) target) :
    dims.length ≤ target.length := by
  have length := widens.length_eq
  rw [align, List.length_append, List.length_replicate] at length
  omega

theorem align_self (dims : List Extent) : align dims.length dims = dims := by
  simp [align]

/-- Ones in front of the extents leave the front of the target free. -/
theorem widens_replicate_append {count : Nat} {dims target : List Extent} :
    List.Forall₂ Widens (List.replicate count (some 1) ++ dims) target ↔
      count ≤ target.length ∧ List.Forall₂ Widens dims (target.drop count) := by
  induction count generalizing target with
  | zero => simp
  | succ count ih =>
    cases target with
    | nil => simp [List.replicate_succ]
    | cons first rest => simp [List.replicate_succ, ih, Widens]

/-- Which rank the extents are lined up in before that of the target does not matter. -/
theorem widens_align_iff {rank : Nat} {dims target : List Extent} (fits : dims.length ≤ rank)
    (below : rank ≤ target.length) :
    List.Forall₂ Widens (align target.length dims) target ↔
      List.Forall₂ Widens (align rank dims) (target.drop (target.length - rank)) := by
  have split : align target.length dims =
      List.replicate (target.length - rank) (some 1) ++ align rank dims := by
    rw [align, align, ← List.append_assoc, List.replicate_append_replicate]
    congr 2
    omega
  rw [split, widens_replicate_append, and_iff_right (Nat.sub_le _ _)]

theorem widens_of_extents? {left right result : List Extent} (lengths : left.length = right.length)
    (hleft : none ∉ left) (hright : none ∉ right)
    (found : List.Forall₂ (fun pair dim => extent? pair.1 pair.2 = some dim) (left.zip right)
      result) : List.Forall₂ Widens left result ∧ List.Forall₂ Widens right result := by
  induction left generalizing right result with
  | nil =>
    obtain rfl := List.length_eq_zero_iff.mp lengths.symm
    cases found
    exact ⟨.nil, .nil⟩
  | cons x left ih =>
    cases right with
    | nil => cases lengths
    | cons y right =>
      obtain ⟨dim, rest, first, others, rfl⟩ := List.forall₂_cons_left_iff.mp found
      simp only [List.mem_cons, not_or] at hleft hright
      obtain ⟨hx, hy⟩ := widens_of_extent? (Ne.symm hleft.1) (Ne.symm hright.1) first
      obtain ⟨widens, widens'⟩ := ih (Nat.succ.inj lengths) hleft.2 hright.2 others
      exact ⟨.cons hx widens, .cons hy widens'⟩

theorem exists_extents? {left right target : List Extent} (hleft : List.Forall₂ Widens left target)
    (hright : List.Forall₂ Widens right target) :
    ∃ result, List.Forall₂ (fun pair dim => extent? pair.1 pair.2 = some dim) (left.zip right)
      result ∧ List.Forall₂ Widens result target := by
  induction hleft generalizing right with
  | nil => exact ⟨[], by simp, .nil⟩
  | cons hx _ ih =>
    cases hright with
    | cons hy hright =>
      obtain ⟨dim, found, widens⟩ := exists_extent? hx hy
      obtain ⟨rest, others, widensRest⟩ := ih hright
      exact ⟨dim :: rest, .cons found others, .cons widens widensRest⟩

/-- Both lists of known extents go to their broadcast. -/
theorem widens_of_dims {a b result : List Extent} (ha : none ∉ a) (hb : none ∉ b)
    (found : dims a b = .ok result) :
    List.Forall₂ Widens (align result.length a) result ∧
      List.Forall₂ Widens (align result.length b) result := by
  have lengthA := length_align (Nat.le_max_left a.length b.length)
  have lengthB := length_align (Nat.le_max_right a.length b.length)
  rw [dims_eq_ok] at found
  have length : result.length = max a.length b.length := by
    rw [← found.length_eq, List.length_zip, lengthA, lengthB, Nat.min_self]
  rw [length]
  refine widens_of_extents? (lengthA.trans lengthB.symm) ?_ ?_ found
  · simp [align, ha]
  · simp [align, hb]

/-- Lists of extents with a common target have a broadcast, and it goes to that target. -/
theorem exists_dims {a b target : List Extent}
    (widensA : List.Forall₂ Widens (align target.length a) target)
    (widensB : List.Forall₂ Widens (align target.length b) target) :
    ∃ result, dims a b = .ok result ∧
      List.Forall₂ Widens (align target.length result) target := by
  have below : max a.length b.length ≤ target.length :=
    Nat.max_le.mpr ⟨length_le_of_widens widensA, length_le_of_widens widensB⟩
  rw [widens_align_iff (Nat.le_max_left ..) below] at widensA
  rw [widens_align_iff (Nat.le_max_right ..) below] at widensB
  obtain ⟨result, found, widens⟩ := exists_extents? widensA widensB
  have length : result.length = max a.length b.length := by
    rw [widens.length_eq, List.length_drop]
    omega
  refine ⟨result, dims_eq_ok.mpr found, ?_⟩
  rw [widens_align_iff (Nat.le_refl _) (length ▸ below), align_self, length]
  exact widens

/-! ### Explicit broadcasts to the last dimensions -/

/-- The last `count` dimensions of a tensor of the given rank, in order. -/
def trailing (count rank : Nat) : List Int := (List.range' (rank - count) count).map Int.ofNat

/-- An explicit broadcast of the first shape to the last dimensions of the second, the target, is
    accepted. -/
def StretchesTo (element : Ty) (dims target : List Nat) : Prop :=
  dims.length ≤ target.length ∧ ∃ payload : Payload,
    payload.decodeInts "broadcast_dimensions" = .ok (trailing dims.length target.length) ∧
      Op.BroadcastInDim.infer
          ⟨.tensor element (.static dims), payload, .tensor element (.static target)⟩ =
        .ok [.tensor element (.static target)]

theorem ensurePositions_trailing {count rank : Nat} (fits : count ≤ rank) (name : String) :
    Dimensions.ensurePositions (trailing count rank) (some rank) name = .ok () := by
  have distinct : (trailing count rank).Nodup :=
    List.Nodup.map (fun _ _ same => Int.ofNat.inj same) (List.nodup_range' (h := Nat.one_pos))
  have inRange : ∀ d ∈ trailing count rank, Dimensions.isPosition (some rank) d = true := by
    intro d member
    obtain ⟨i, inside, rfl⟩ := List.mem_map.mp member
    rw [List.mem_range'_1] at inside
    simp only [Dimensions.isPosition, Int.ofNat_eq_natCast, Bool.and_eq_true, decide_eq_true_eq]
    omega
  exact Dimensions.ensurePositions_eq_ok.mpr ⟨distinct, inRange⟩

theorem getElem?_trailing {count i : Nat} (inside : i < count) (rank : Nat) :
    (trailing count rank)[i]? = some (Int.ofNat (rank - count + i)) := by
  simp [trailing, inside]

theorem verifyBroadcastDim_eq_ok {operand result : Tensor} {i : Nat} {d : Int}
    {source target : Extent} (read : operand.dim i = .ok source)
    (reached : result.dim d = .ok target) (known : source ≠ none) (knownTarget : target ≠ none)
    {u : Unit} :
    Op.verifyBroadcastDim operand result i d = .ok u ↔ Widens source target := by
  obtain ⟨n, rfl⟩ := Option.ne_none_iff_exists'.mp known
  obtain ⟨m, rfl⟩ := Option.ne_none_iff_exists'.mp knownTarget
  simp [Op.verifyBroadcastDim, read, reached, Extent.compatible, Widens]

theorem verifyBroadcastDims_trailing {operand result : Tensor} {dims target : List Extent}
    (operandShape : operand.shape = .ranked dims) (resultShape : result.shape = .ranked target)
    (known : none ∉ dims) (knownTarget : none ∉ target) (fits : dims.length ≤ target.length)
    {u : Unit} :
    Op.verifyBroadcastDims operand result (trailing dims.length target.length) = .ok u ↔
      List.Forall₂ Widens (align target.length dims) target := by
  have rank : operand.rank? = some dims.length := by rw [Tensor.rank?, operandShape, Shape.rank?]
  have resultRank : result.rank? = some target.length := by
    rw [Tensor.rank?, resultShape, Shape.rank?]
  have count : (trailing dims.length target.length).length = dims.length := by simp [trailing]
  have lined (i : Nat) (inside : i < dims.length)
      (inside' : i < (target.drop (target.length - dims.length)).length) :
      Op.verifyBroadcastDim operand result i (Int.ofNat (target.length - dims.length + i)) =
        .ok () ↔ Widens (dims.get ⟨i, inside⟩)
          ((target.drop (target.length - dims.length)).get ⟨i, inside'⟩) := by
    have read : operand.dim i = .ok (dims.get ⟨i, inside⟩) := by
      rw [Tensor.dim, operandShape]
      exact itemAt_natCast_eq_ok.mpr (List.getElem?_eq_getElem inside)
    have reached : result.dim (Int.ofNat (target.length - dims.length + i)) =
        .ok ((target.drop (target.length - dims.length)).get ⟨i, inside'⟩) := by
      rw [Tensor.dim, resultShape]
      refine itemAt_natCast_eq_ok.mpr ?_
      rw [← List.getElem?_drop]
      exact List.getElem?_eq_getElem inside'
    apply verifyBroadcastDim_eq_ok read reached
    · exact fun unknown => known (unknown ▸ List.get_mem ..)
    · exact fun unknown => knownTarget (List.mem_of_mem_drop (unknown ▸ List.get_mem ..))
  simp only [Op.verifyBroadcastDims, rank, resultRank, count, ensurePositions_trailing fits,
    Check.bind_eq_ok, Check.ensure_eq_ok, true_and, exists_const, fits, Check.checkEach_eq_ok]
  rw [widens_align_iff (Nat.le_refl _) fits, align_self, List.forall₂_iff_get]
  constructor
  · intro each
    refine ⟨by rw [List.length_drop]; omega, fun i inside inside' => ?_⟩
    exact (lined i inside inside').mp (each i _ (getElem?_trailing inside _))
  · rintro ⟨length, each⟩ i d found
    have inside : i < dims.length := by
      rw [← count]
      exact (List.getElem?_eq_some_iff.mp found).1
    rw [getElem?_trailing inside] at found
    obtain rfl := Option.some.inj found
    exact (lined i inside (length ▸ inside)).mpr (each i _ _)

/-- Whatever payload lists the last dimensions, a broadcast to them is accepted exactly when each
    extent goes to the one it is lined up with. -/
theorem infer_trailing_iff {element : Ty} {dims target : List Nat} {payload : Payload}
    (fits : dims.length ≤ target.length)
    (decoded : payload.decodeInts "broadcast_dimensions" =
      .ok (trailing dims.length target.length)) :
    Op.BroadcastInDim.infer
          ⟨.tensor element (.static dims), payload, .tensor element (.static target)⟩ =
        .ok [.tensor element (.static target)] ↔
      List.Forall₂ Widens (align target.length (ofNats dims)) (ofNats target) := by
  have verified := @verifyBroadcastDims_trailing ⟨element, .static dims⟩ ⟨element, .static target⟩
    (ofNats dims) (ofNats target) rfl rfl (Extent.none_notMem_ofNats dims)
    (Extent.none_notMem_ofNats target) (by simpa using fits) ()
  rw [Extent.length_ofNats, Extent.length_ofNats] at verified
  rw [← verified]
  simp only [Op.BroadcastInDim.infer, Ty.needTensor, Ty.tensor?, Ty.same_refl, decoded, Tensor.ty,
    Check.ok_bind, Check.pure_eq, Check.bind_eq_ok, Check.ensure_eq_ok, and_true, true_and,
    exists_const]
  constructor
  · rintro ⟨_, success⟩
    exact success
  · intro success
    exact ⟨(), success⟩

theorem stretchesTo_iff {element : Ty} {dims target : List Nat} :
    StretchesTo element dims target ↔
      List.Forall₂ Widens (align target.length (ofNats dims)) (ofNats target) := by
  constructor
  · rintro ⟨fits, payload, decoded, accepted⟩
    exact (infer_trailing_iff fits decoded).mp accepted
  · intro widens
    have fits : dims.length ≤ target.length := by
      rw [← Extent.length_ofNats target] at widens
      simpa using length_le_of_widens widens
    have decoded :=
      Payload.decodeInts_array (trailing dims.length target.length) "broadcast_dimensions"
    exact ⟨fits, _, decoded, (infer_trailing_iff fits decoded).mpr widens⟩

/-! ### The implicit broadcast is the least target -/

/-- The extents of a broadcast are extents of the two sides, or ones. -/
theorem exists_ofNats_of_dims {l r : List Nat} {result : List Extent}
    (found : dims (ofNats l) (ofNats r) = .ok result) : ∃ dims, result = ofNats dims := by
  have natural {side : List Nat} {rank : Nat} {dim : Extent}
      (member : dim ∈ align rank (ofNats side)) :
      dim ∈ Set.range fun n : Nat => some (n : Int) := by
    rcases List.mem_append.mp member with one | inside
    · exact ⟨1, (List.eq_of_mem_replicate one).symm⟩
    · obtain ⟨n, -, same⟩ := List.mem_map.mp inside
      exact ⟨n, same⟩
  have all : ∀ dim ∈ result, dim ∈ Set.range fun n : Nat => some (n : Int) := by
    intro dim member
    obtain ⟨⟨a, b⟩, inside, found⟩ :=
      Check.exists_left_of_forall₂ (dims_eq_ok.mp found) member
    obtain ⟨left, right⟩ := List.of_mem_zip inside
    rcases extent?_eq_or found with rfl | rfl
    · exact natural left
    · exact natural right
  have lifted : result ∈ Set.range (List.map fun n : Nat => some (n : Int)) := by
    rw [Set.range_list_map]
    exact all
  obtain ⟨dims, rfl⟩ := lifted
  exact ⟨dims, rfl⟩

theorem shapes_static_eq_ok {l r : List Nat} {s : Shape} :
    shapes (.static l) (.static r) = .ok s ↔
      ∃ dims, s = .static dims ∧ Broadcast.dims (ofNats l) (ofNats r) = .ok (ofNats dims) := by
  simp only [shapes, Shape.static, Check.bind_eq_ok, Check.pure_eq, Except.ok.injEq]
  constructor
  · rintro ⟨result, found, rfl⟩
    obtain ⟨dims, rfl⟩ := exists_ofNats_of_dims found
    exact ⟨dims, rfl, found⟩
  · rintro ⟨dims, rfl, found⟩
    exact ⟨ofNats dims, found, rfl⟩

theorem stretchesTo_of_dims {l r dims : List Nat} (element : Ty)
    (found : Broadcast.dims (ofNats l) (ofNats r) = .ok (ofNats dims)) :
    StretchesTo element l dims ∧ StretchesTo element r dims := by
  obtain ⟨widensL, widensR⟩ :=
    widens_of_dims (Extent.none_notMem_ofNats l) (Extent.none_notMem_ofNats r) found
  rw [Extent.length_ofNats] at widensL widensR
  exact ⟨stretchesTo_iff.mpr widensL, stretchesTo_iff.mpr widensR⟩

/-- Two shapes with a common target have a broadcast, which goes to the target as well. -/
theorem exists_dims_of_stretchesTo {element : Ty} {l r target : List Nat}
    (hl : StretchesTo element l target) (hr : StretchesTo element r target) :
    ∃ dims, Broadcast.dims (ofNats l) (ofNats r) = .ok (ofNats dims) ∧
      StretchesTo element dims target := by
  simp only [stretchesTo_iff, ← Extent.length_ofNats] at hl hr ⊢
  obtain ⟨result, found, widens⟩ := exists_dims hl hr
  obtain ⟨dims, rfl⟩ := exists_ofNats_of_dims found
  exact ⟨dims, found, widens⟩

/-- The implicit broadcast of two static shapes exists exactly when both can be broadcast explicitly
    to a common target, and then it is the least of these targets. -/
theorem shapes_isLeast_target (element : Ty) (l r : List Nat) :
    ((∃ s, shapes (.static l) (.static r) = .ok s) ↔
        ∃ target, StretchesTo element l target ∧ StretchesTo element r target) ∧
      ∀ s, shapes (.static l) (.static r) = .ok s → ∃ dims, s = .static dims ∧
        StretchesTo element l dims ∧ StretchesTo element r dims ∧
          ∀ target, StretchesTo element l target → StretchesTo element r target →
            StretchesTo element dims target := by
  refine ⟨⟨?_, ?_⟩, ?_⟩
  · rintro ⟨s, success⟩
    obtain ⟨dims, -, found⟩ := shapes_static_eq_ok.mp success
    exact ⟨dims, stretchesTo_of_dims element found⟩
  · rintro ⟨target, hl, hr⟩
    obtain ⟨dims, found, -⟩ := exists_dims_of_stretchesTo hl hr
    exact ⟨.static dims, shapes_static_eq_ok.mpr ⟨dims, rfl, found⟩⟩
  · intro s success
    obtain ⟨dims, rfl, found⟩ := shapes_static_eq_ok.mp success
    obtain ⟨hl, hr⟩ := stretchesTo_of_dims element found
    refine ⟨dims, rfl, hl, hr, fun target hl hr => ?_⟩
    obtain ⟨dims', found', widens⟩ := exists_dims_of_stretchesTo hl hr
    obtain rfl := Extent.ofNats_injective (Except.ok.inj (found'.symm.trans found))
    exact widens

/-- A column and a row meet in a matrix, which goes wherever both of them go. -/
theorem shapes_isLeast_target_matrix :
    shapes (.static [2, 1]) (.static [3]) = .ok (.static [2, 3]) ∧
      StretchesTo (.float .f32) [2, 1] [2, 3] ∧ StretchesTo (.float .f32) [3] [2, 3] := by
  have success : shapes (.static [2, 1]) (.static [3]) = .ok (.static [2, 3]) := rfl
  obtain ⟨dims, same, column, row, -⟩ :=
    (shapes_isLeast_target (.float .f32) [2, 1] [3]).2 _ success
  obtain rfl : [2, 3] = dims := Extent.ofNats_injective (Shape.ranked.inj same)
  exact ⟨success, column, row⟩

end Broadcast

end TensorTyping
