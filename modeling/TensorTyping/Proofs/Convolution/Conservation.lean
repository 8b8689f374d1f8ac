import Mathlib.Tactic.Ring
import TensorTyping.Op.Dot
import TensorTyping.Proofs.Check
import TensorTyping.Proofs.Dropping
import TensorTyping.Proofs.Refinement.Types
import TensorTyping.Proofs.Size

/-!
# What a general dot product conserves

Every dimension of the operands of a general dot product goes into its result, where paired batching
dimensions are one, or is summed over together with its partner. So the rank of the result and its
number of elements are determined by those of the operands and by the paired dimensions.
-/

namespace TensorTyping

open Check

/-! ### Extents at listed positions -/

namespace Shape

variable {positions positions' : List Int} {lhs rhs : List Extent}

/-- A static tensor has as many elements as the extents at distinct positions and the other extents
    have together. -/
theorem exists_sizes_of_size? {dims : List Extent} {n : Int} (unique : positions.Nodup)
    (inRange : ∀ d ∈ positions, 0 ≤ d ∧ d < dims.length) (size : size? (.ranked dims) = some n) :
    ∃ k m, size? (.ranked (pick dims positions)) = some k ∧
      size? (.ranked (without dims positions)) = some m ∧ n = k * m :=
  size?_append_eq_some.mp (size?_of_perm (pick_append_without_perm unique inRange) size)

theorem exists_getElem?_of_isStatic {dims : List Extent} (static : isStatic (.ranked dims) = true)
    {d : Int} (inRange : 0 ≤ d ∧ d < dims.length) :
    ∃ n, (dims[d.toNat]?.join : Extent) = some n := by
  obtain ⟨extents, ⟨⟩⟩ := exists_of_isStatic static
  rw [List.length_map] at inRange
  have inside : d.toNat < extents.length := by omega
  exact ⟨extents[d.toNat], by simp [inside]⟩

/-- The positions are paired, and both extents of a pair are known and equal. -/
def Paired (lhs rhs : List Extent) (positions positions' : List Int) : Prop :=
  List.Forall₂ (fun d e => ∃ n, (lhs[d.toNat]?.join : Extent) = some n ∧
    (rhs[e.toNat]?.join : Extent) = some n) positions positions'

theorem paired_of_compatible (lhsStatic : isStatic (.ranked lhs) = true)
    (rhsStatic : isStatic (.ranked rhs) = true) (length : positions.length = positions'.length)
    (inRange : ∀ d ∈ positions, 0 ≤ d ∧ d < lhs.length)
    (inRange' : ∀ d ∈ positions', 0 ≤ d ∧ d < rhs.length)
    (agree : ∀ pair ∈ positions.zip positions',
      Extent.compatible lhs[pair.1.toNat]?.join rhs[pair.2.toNat]?.join = true) :
    Paired lhs rhs positions positions' := by
  refine List.forall₂_iff_zip.mpr ⟨length, fun {d e} member => ?_⟩
  obtain ⟨inside, inside'⟩ := List.of_mem_zip member
  obtain ⟨n, left⟩ := exists_getElem?_of_isStatic lhsStatic (inRange d inside)
  obtain ⟨m, right⟩ := exists_getElem?_of_isStatic rhsStatic (inRange' e inside')
  have same := agree (d, e) member
  rw [left, right] at same
  obtain rfl : n = m := by simpa [Extent.compatible] using same
  exact ⟨n, left, right⟩

theorem Paired.pick_eq (paired : Paired lhs rhs positions positions') :
    pick rhs positions' = pick lhs positions := by
  unfold pick
  induction paired with
  | nil => rfl
  | cons first _ ih =>
    obtain ⟨n, left, right⟩ := first
    rw [List.map_cons, List.map_cons, left, right, ih]

/-- Extents that are known on the left are not refined by those on the right. -/
theorem Paired.map_refine (paired : Paired lhs rhs positions positions') :
    (positions.zip positions').map
        (fun (l, r) => Extent.refine lhs[l.toNat]?.join rhs[r.toNat]?.join) =
      pick lhs positions := by
  unfold pick
  induction paired with
  | nil => rfl
  | cons first _ ih =>
    obtain ⟨n, left, -⟩ := first
    rw [List.zip_cons_cons, List.map_cons, List.map_cons, ih]
    dsimp only
    rw [left, Extent.refine]

end Shape

/-! ### Dimension numbers -/

/-- The dimension numbers pair distinct positions of the left operand with distinct positions of the
    right one, at which the extents are compatible. -/
structure DotDims.Fits (dims : DotDims) (lhs rhs : List Extent) : Prop where
  batching : dims.lhsBatching.length = dims.rhsBatching.length
  contracting : dims.lhsContracting.length = dims.rhsContracting.length
  lhsUnique : (dims.lhsBatching ++ dims.lhsContracting).Nodup
  rhsUnique : (dims.rhsBatching ++ dims.rhsContracting).Nodup
  lhsInRange : ∀ d ∈ dims.lhsBatching ++ dims.lhsContracting, 0 ≤ d ∧ d < lhs.length
  rhsInRange : ∀ d ∈ dims.rhsBatching ++ dims.rhsContracting, 0 ≤ d ∧ d < rhs.length
  batchingAgree : ∀ pair ∈ dims.lhsBatching.zip dims.rhsBatching,
    Extent.compatible lhs[pair.1.toNat]?.join rhs[pair.2.toNat]?.join = true
  contractingAgree : ∀ pair ∈ dims.lhsContracting.zip dims.rhsContracting,
    Extent.compatible lhs[pair.1.toNat]?.join rhs[pair.2.toNat]?.join = true

namespace Op

namespace DotGeneral

open Shape

variable {op : DotGeneral} {dims : DotDims} {lhs rhs : List Extent} {element element' : Ty}
  {types : List Ty}

theorem ensureDims_eq_ok {positions : List Int} {rank : Nat} {what : String} {u : Unit} :
    ensureDims positions (some rank) what = .ok u ↔ ∀ d ∈ positions, 0 ≤ d ∧ d < rank := by
  simp only [ensureDims, checkAll_eq_ok, bind_eq_ok, ensure_eq_ok, exists_const]

theorem verifySide_eq_ok {side : String} {batching contracting : List Int} {rank : Nat} {u : Unit} :
    verifySide side batching contracting (some rank) = .ok u ↔
      (batching ++ contracting).Nodup ∧ ∀ d ∈ batching ++ contracting, 0 ≤ d ∧ d < rank := by
  simp only [verifySide, bind_eq_ok, ensure_eq_ok, ensureDims_eq_ok, exists_const,
    List.forall_mem_append]

section Pairs

variable {positions positions' : List Int}

theorem ensurePairs_eq_ok {what : String} {u : Unit}
    (inRange : ∀ d ∈ positions, 0 ≤ d ∧ d < lhs.length)
    (inRange' : ∀ d ∈ positions', 0 ≤ d ∧ d < rhs.length) :
    ensurePairs what ⟨element, .ranked lhs⟩ ⟨element', .ranked rhs⟩ (positions.zip positions') =
        .ok u ↔
      ∀ pair ∈ positions.zip positions',
        Extent.compatible lhs[pair.1.toNat]?.join rhs[pair.2.toNat]?.join = true := by
  rw [ensurePairs, checkAll_eq_ok]
  refine forall₂_congr ?_
  rintro ⟨d, e⟩ member
  obtain ⟨left, right⟩ := List.of_mem_zip member
  obtain ⟨nonneg, below⟩ := inRange d left
  obtain ⟨nonneg', below'⟩ := inRange' e right
  simp only [Tensor.dim, itemAt_eq_join nonneg below, itemAt_eq_join nonneg' below', ok_bind,
    ensure_eq_ok]

theorem pairedDims_eq_ok (inRange : ∀ d ∈ positions, 0 ≤ d ∧ d < lhs.length)
    (inRange' : ∀ d ∈ positions', 0 ≤ d ∧ d < rhs.length) :
    pairedDims lhs rhs (positions.zip positions') =
      .ok ((positions.zip positions').map fun (l, r) =>
        Extent.refine lhs[l.toNat]?.join rhs[r.toNat]?.join) := by
  refine collect_eq_map ?_
  rintro ⟨d, e⟩ member
  obtain ⟨left, right⟩ := List.of_mem_zip member
  obtain ⟨nonneg, below⟩ := inRange d left
  obtain ⟨nonneg', below'⟩ := inRange' e right
  simp only [itemAt_eq_join nonneg below, itemAt_eq_join nonneg' below', ok_bind, pure_eq]

end Pairs

/-- The extents of the product of operands that have the listed dimensions. -/
def productDims (lhs rhs : List Extent) (dims : DotDims) : List Extent :=
  (dims.lhsBatching.zip dims.rhsBatching).map
      (fun (l, r) => Extent.refine lhs[l.toNat]?.join rhs[r.toNat]?.join) ++
    without lhs (dims.lhsBatching ++ dims.lhsContracting) ++
    without rhs (dims.rhsBatching ++ dims.rhsContracting)

theorem contract_eq_ok {inferred : Tensor}
    (inRange : ∀ d ∈ dims.lhsBatching ++ dims.lhsContracting, 0 ≤ d ∧ d < lhs.length)
    (inRange' : ∀ d ∈ dims.rhsBatching ++ dims.rhsContracting, 0 ≤ d ∧ d < rhs.length) :
    contract ⟨element, .ranked lhs⟩ ⟨element', .ranked rhs⟩ dims = .ok inferred ↔
      (∀ pair ∈ dims.lhsBatching.zip dims.rhsBatching,
        Extent.compatible lhs[pair.1.toNat]?.join rhs[pair.2.toNat]?.join = true) ∧
      (∀ pair ∈ dims.lhsContracting.zip dims.rhsContracting,
        Extent.compatible lhs[pair.1.toNat]?.join rhs[pair.2.toNat]?.join = true) ∧
      inferred = ⟨element, .ranked (productDims lhs rhs dims)⟩ := by
  obtain ⟨batching, contracting⟩ := List.forall_mem_append.mp inRange
  obtain ⟨batching', contracting'⟩ := List.forall_mem_append.mp inRange'
  have result : resultDims lhs rhs dims = .ok (productDims lhs rhs dims) := by
    rw [resultDims, pairedDims_eq_ok batching batching']
    rfl
  simp only [contract, bind_eq_ok, ensurePairs_eq_ok batching batching',
    ensurePairs_eq_ok contracting contracting', exists_const, result, ok_bind, pure_eq,
    Except.ok.injEq, @eq_comm Tensor inferred]

/-- A product of tensors with a rank is accepted when the dimension numbers fit them. -/
theorem infer_ranked_eq_ok (lhsType : op.lhs = .tensor element (.ranked lhs))
    (rhsType : op.rhs = .tensor element' (.ranked rhs)) (given : op.dimensions = some dims)
    (undeclared : op.result = none) :
    op.infer = .ok types ↔
      verifyPrecision op.precision = .ok () ∧ dims.Fits lhs rhs ∧
        types = [.tensor element (.ranked (productDims lhs rhs dims))] := by
  simp only [infer, lhsType, rhsType, given, undeclared, Ty.needTensor_tensor, needPart, ok_bind,
    bind_eq_ok, ensure_eq_ok, verifySide_eq_ok, Tensor.rank?, Shape.rank?, Ty.settle, pure_eq,
    Except.ok.injEq, exists_const]
  constructor
  · rintro ⟨_, precision, batching, contracting, ⟨lhsUnique, lhsInRange⟩, ⟨rhsUnique, rhsInRange⟩,
      _, contracted, rfl⟩
    obtain ⟨batchingAgree, contractingAgree, rfl⟩ :=
      (contract_eq_ok lhsInRange rhsInRange).mp contracted
    exact ⟨precision, ⟨batching, contracting, lhsUnique, rhsUnique, lhsInRange, rhsInRange,
      batchingAgree, contractingAgree⟩, rfl⟩
  · rintro ⟨precision, fits, rfl⟩
    exact ⟨(), precision, fits.batching, fits.contracting, ⟨fits.lhsUnique, fits.lhsInRange⟩,
      ⟨fits.rhsUnique, fits.rhsInRange⟩, _, (contract_eq_ok fits.lhsInRange fits.rhsInRange).mpr
        ⟨fits.batchingAgree, fits.contractingAgree, rfl⟩, rfl⟩

/-! ### Conservation -/

theorem length_productDims (fits : dims.Fits lhs rhs) :
    (productDims lhs rhs dims).length + dims.lhsBatching.length + 2 * dims.lhsContracting.length =
      lhs.length + rhs.length := by
  have left := (pick_append_without_perm fits.lhsUnique fits.lhsInRange).length_eq
  have right := (pick_append_without_perm fits.rhsUnique fits.rhsInRange).length_eq
  have batching := fits.batching
  have contracting := fits.contracting
  simp only [List.length_append, length_pick] at left right
  simp only [productDims, List.length_append, List.length_map, List.length_zip]
  omega

/-- The elements of a static product. The extents that both operands have in common are counted
    twice in the operands; the batching ones among them are counted once in the product. -/
theorem exists_size_productDims (fits : dims.Fits lhs rhs)
    (lhsStatic : isStatic (.ranked lhs) = true) (rhsStatic : isStatic (.ranked rhs) = true) :
    ∃ n l r b c : Int, size? (.ranked (productDims lhs rhs dims)) = some n ∧
      size? (.ranked lhs) = some l ∧ size? (.ranked rhs) = some r ∧
      size? (.ranked (pick lhs dims.lhsBatching)) = some b ∧
      size? (.ranked (pick lhs dims.lhsContracting)) = some c ∧ n * b * c ^ 2 = l * r := by
  obtain ⟨lhsBatching, lhsContracting⟩ := List.forall_mem_append.mp fits.lhsInRange
  obtain ⟨rhsBatching, rhsContracting⟩ := List.forall_mem_append.mp fits.rhsInRange
  have batching := paired_of_compatible lhsStatic rhsStatic fits.batching lhsBatching rhsBatching
    fits.batchingAgree
  have contracting := paired_of_compatible lhsStatic rhsStatic fits.contracting lhsContracting
    rhsContracting fits.contractingAgree
  obtain ⟨l, lhsSize⟩ := exists_size_of_isStatic lhsStatic
  obtain ⟨r, rhsSize⟩ := exists_size_of_isStatic rhsStatic
  obtain ⟨_, lhsFree, lhsUsed, lhsRest, rfl⟩ :=
    exists_sizes_of_size? fits.lhsUnique fits.lhsInRange lhsSize
  obtain ⟨_, rhsFree, rhsUsed, rhsRest, rfl⟩ :=
    exists_sizes_of_size? fits.rhsUnique fits.rhsInRange rhsSize
  rw [pick_append, size?_append_eq_some] at lhsUsed rhsUsed
  obtain ⟨b, c, batch, contracted, rfl⟩ := lhsUsed
  obtain ⟨b', c', batch', contracted', rfl⟩ := rhsUsed
  rw [batching.pick_eq, batch, Option.some.injEq] at batch'
  rw [contracting.pick_eq, contracted, Option.some.injEq] at contracted'
  subst batch' contracted'
  have result : size? (.ranked (productDims lhs rhs dims)) = some (b * lhsFree * rhsFree) := by
    rw [productDims, batching.map_refine]
    exact size?_append_eq_some.mpr
      ⟨_, _, size?_append_eq_some.mpr ⟨_, _, batch, lhsRest, rfl⟩, rhsRest, rfl⟩
  exact ⟨_, _, _, b, c, result, lhsSize, rhsSize, batch, contracted, by ring⟩

/-- A general dot product of tensors with a rank conserves dimensions and elements. Of the
    dimensions of both operands it keeps all but one of each batching pair and both of each
    contracting pair. On static operands, its elements times those along the batching dimensions,
    and twice times those along the contracting dimensions, are as many as the elements of the
    operands. -/
theorem infer_conserves (lhsType : op.lhs = .tensor element (.ranked lhs))
    (rhsType : op.rhs = .tensor element' (.ranked rhs)) (given : op.dimensions = some dims)
    (undeclared : op.result = none) (accepted : op.infer = .ok types) :
    ∃ result, types = [.tensor element (.ranked result)] ∧
      dims.rhsBatching.length = dims.lhsBatching.length ∧
      dims.rhsContracting.length = dims.lhsContracting.length ∧
      (result.length : Int) = lhs.length + rhs.length - dims.lhsBatching.length -
        2 * dims.lhsContracting.length ∧
      (isStatic (.ranked lhs) = true → isStatic (.ranked rhs) = true →
        ∃ n l r b c : Int, size? (.ranked result) = some n ∧ size? (.ranked lhs) = some l ∧
          size? (.ranked rhs) = some r ∧ size? (.ranked (pick lhs dims.lhsBatching)) = some b ∧
          size? (.ranked (pick lhs dims.lhsContracting)) = some c ∧ n * b * c ^ 2 = l * r) := by
  obtain ⟨-, fits, rfl⟩ := (infer_ranked_eq_ok lhsType rhsType given undeclared).mp accepted
  have length := length_productDims fits
  exact ⟨_, rfl, fits.batching.symm, fits.contracting.symm, by omega,
    exists_size_productDims fits⟩

/-- Two batches of matrices, with the batches last on the left and first on the right. The columns
    of the left ones are contracted with the rows of the right ones. -/
theorem infer_conserves_batches :
    let op : DotGeneral :=
      { lhs := .tensor (.float .f32) (.ranked [some 3, some 5, some 2])
        rhs := .tensor (.float .f32) (.ranked [some 2, some 5, some 7])
        dimensions := some { lhsBatching := [2], rhsBatching := [0], lhsContracting := [1],
                             rhsContracting := [1] } }
    op.infer = .ok [.tensor (.float .f32) (.ranked [some 2, some 3, some 7])] ∧
      (3 : Int) = 3 + 3 - 1 - 2 * 1 ∧ (42 : Int) * 2 * 5 ^ 2 = 30 * 70 := by
  intro op
  have accepted : op.infer =
      .ok [.tensor (.float .f32) (.ranked [some 2, some 3, some 7])] := rfl
  obtain ⟨result, same, -, -, rank, elements⟩ :=
    @infer_conserves op _ _ _ _ _ _ rfl rfl rfl rfl accepted
  cases same
  obtain ⟨_, _, _, _, _, ⟨⟩, ⟨⟩, ⟨⟩, ⟨⟩, ⟨⟩, product⟩ := elements rfl rfl
  exact ⟨accepted, rank, product⟩

end DotGeneral

end Op

end TensorTyping
