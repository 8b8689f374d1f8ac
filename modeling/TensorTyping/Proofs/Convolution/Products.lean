import TensorTyping.Op.Convolution
import TensorTyping.Proofs.Convolution.Conservation
import TensorTyping.Proofs.Indexing.Positions
import TensorTyping.Proofs.Matching
import TensorTyping.Proofs.Refinement.Types
import TensorTyping.Proofs.Totality.Payload

/-!
# Products of vectors and matrices

The product of vectors and matrices is the general dot product that contracts the last dimension of
the left operand with the first of the right one. The product of two matrices is also a convolution
without spatial dimensions, in which rows are batches and the contracted dimension holds the
features. All of them end alike: they have one result, or are refused for one cause.
-/

namespace TensorTyping

open Check

/-! ### Declared results -/

/-- What is said about a declared result does not decide whether it is accepted. -/
theorem Tensor.settle_matches (t : Tensor) (declared : Option Ty) (operation operation' : String) :
    Matches Eq (t.ty.settle declared operation) (t.ty.settle declared operation') := by
  cases declared with
  | none => exact rfl
  | some declared =>
    apply Matches.bind_same
    intro agree checked
    apply (Matches.ensure Iff.rfl).bind
    rintro - - rfl
    have compatible := Ty.checkCompatible_eq_ok_true.mp checked
    cases declared with
    | tensor element shape =>
      have both (what : String) : Ty.unifyList [.tensor element shape, t.ty] what = (do
          let unified ← Ty.unifyTensors what false ⟨element, shape⟩ t
          return unified.ty) := by
        rw [Ty.unifyList, List.foldlM_cons, Tensor.ty, Ty.unify]
        cases Ty.unifyTensors what false ⟨element, shape⟩ t <;> rfl
      rw [both, both]
      refine Matches.bind ?_ fun _ _ same => congrArg Tensor.ty same
      apply (Matches.ensure Iff.rfl).bind
      intro _ _ _
      apply (Matches.ensure Iff.rfl).bind
      intro _ _ _
      exact rfl
    | _ => simp [Tensor.ty, Ty.compatible] at compatible

/-- Checks of one tensor that end alike still do once the result is settled. -/
theorem settled_matches {x y : Check Tensor} (same : Matches Eq x y) (declared : Option Ty)
    (operation operation' : String) :
    Matches Eq (do return [← (← x).ty.settle declared operation])
      (do return [← (← y).ty.settle declared operation']) := by
  apply same.bind
  rintro t _ rfl
  apply (t.settle_matches declared operation operation').bind
  rintro result _ rfl
  exact rfl

/-! ### The last and the first dimension -/

theorem Shape.without_first (dims : List Extent) : without dims [0] = dims.tail := by
  rw [without_eq]
  cases dims with
  | nil => rfl
  | cons dim rest =>
    have first : listed [0] 0 = true := rfl
    have others : itemsAt (fun i => !listed [0] i) 1 rest = rest := by
      apply itemsAt_all
      intro i after _
      have positive : i ≠ 0 := by omega
      simpa [listed] using positive
    rw [itemsAt_cons, first]
    exact others

theorem Shape.without_last (dims : List Extent) :
    without dims [(dims.length : Int) - 1] = dims.dropLast := by
  rcases dims.eq_nil_or_concat' with rfl | ⟨init, last, rfl⟩
  · rfl
  · have end_ : (((init ++ [last]).length : Nat) : Int) - 1 = init.length := by simp
    have others : itemsAt (fun i => !listed [(init.length : Int)] i) 0 init = init := by
      apply itemsAt_all
      intro i _ before
      have apart : (i : Int) ≠ init.length := by omega
      simpa [listed] using apart
    rw [end_, without_eq, itemsAt_append, others, List.dropLast_concat, Nat.zero_add, itemsAt_cons]
    simp [listed]

namespace Op

/-- The general dot product that contracts the last dimension of a left operand of the given rank
    with the first dimension of the right one. -/
def Dot.general (op : Dot) (rank : Nat) : DotGeneral where
  lhs := op.lhs
  rhs := op.rhs
  dimensions := some { lhsContracting := [(rank : Int) - 1], rhsContracting := [0] }
  precision := op.precision
  result := op.result

/-- The convolution of two matrices with the dimension numbers, window and group counts that stand
    where none are given. -/
def Dot.convolution (op : Dot) : Convolution where
  lhs := op.lhs
  rhs := op.rhs
  dimensions := some {}
  precision := op.precision
  result := op.result

/-! ### General dot products -/

namespace DotGeneral

/-- One contracted dimension that lies in the operand. -/
theorem verifySide_singleton {side : String} {d : Int} {rank : Nat} (inside : 0 ≤ d ∧ d < rank) :
    verifySide side [] [d] (some rank) = .ok () := by
  rw [verifySide_eq_ok, List.nil_append, List.forall_mem_singleton]
  exact ⟨List.nodup_singleton d, inside⟩

end DotGeneral

variable {element kernelElement : Ty} {lhs rhs : List Extent}

/-- A product has all extents but the last of the left operand and the first of the right one. -/
theorem dotDims_eq_ok (lhsRank : lhs.length = 1 ∨ lhs.length = 2)
    (rhsRank : rhs.length = 1 ∨ rhs.length = 2) :
    dotDims lhs rhs = .ok (lhs.dropLast ++ rhs.tail) := by
  have rows : matrixDim lhs 0 = .ok lhs.dropLast := by
    match lhs, lhsRank with
    | [_], _ => rfl
    | [_, _], _ => rfl
  have columns : matrixDim rhs 1 = .ok rhs.tail := by
    match rhs, rhsRank with
    | [_], _ => rfl
    | [_, _], _ => rfl
  rw [dotDims, rows, columns]
  rfl

/-- Both products look at the same extents and keep the same ones. -/
theorem dotTensor_matches_contract (lhsRank : lhs.length = 1 ∨ lhs.length = 2)
    (rhsRank : rhs.length = 1 ∨ rhs.length = 2) :
    Matches Eq (dotTensor ⟨element, .ranked lhs⟩ ⟨kernelElement, .ranked rhs⟩)
      (DotGeneral.contract ⟨element, .ranked lhs⟩ ⟨kernelElement, .ranked rhs⟩
        { lhsContracting := [(lhs.length : Int) - 1], rhsContracting := [0] }) := by
  obtain ⟨a, last⟩ : ∃ a, itemAt lhs ((lhs.length : Int) - 1) = .ok a :=
    ⟨_, itemAt_eq_join (by omega) (by omega)⟩
  obtain ⟨b, first⟩ : ∃ b, itemAt rhs 0 = .ok b :=
    ⟨_, itemAt_eq_join (Int.le_refl 0) (by omega)⟩
  have kept : DotGeneral.resultDims lhs rhs
      { lhsContracting := [(lhs.length : Int) - 1], rhsContracting := [0] } =
        .ok (lhs.dropLast ++ rhs.tail) := by
    simp only [DotGeneral.resultDims, DotGeneral.pairedDims, List.zip_nil_left, List.nil_append,
      Shape.without_last, Shape.without_first]
    rfl
  simp only [dotTensor, DotGeneral.contract, dotDims_eq_ok lhsRank rhsRank, kept,
    List.zip_nil_left, DotGeneral.ensurePairs, List.zip_cons_cons, checkAll_singleton, Tensor.dim,
    last, first, ok_bind]
  rw [ensure_of ⟨lhsRank, rhsRank⟩]
  apply (Matches.ensure Iff.rfl).bind
  intro _ _ _
  exact rfl

theorem Dot.infer_matches_general {op : Dot} (lhsType : op.lhs = .tensor element (.ranked lhs))
    (rhsType : op.rhs = .tensor kernelElement (.ranked rhs))
    (lhsRank : lhs.length = 1 ∨ lhs.length = 2) (rhsRank : rhs.length = 1 ∨ rhs.length = 2) :
    Matches Eq op.infer (op.general lhs.length).infer := by
  have left : DotGeneral.verifySide "lhs" [] [(lhs.length : Int) - 1] (some lhs.length) = .ok () :=
    DotGeneral.verifySide_singleton (by omega)
  have right : DotGeneral.verifySide "rhs" [] [0] (some rhs.length) = .ok () :=
    DotGeneral.verifySide_singleton (by omega)
  simp only [infer, DotGeneral.infer, general, lhsType, rhsType, Ty.needTensor_tensor, needPart,
    Tensor.rank?, Shape.rank?, left, right, ok_bind]
  apply Matches.bind_same
  intro _ _
  exact settled_matches (dotTensor_matches_contract lhsRank rhsRank) op.result _ _

/-! ### Convolutions without spatial dimensions -/

namespace Convolution

theorem isMultiple_one (dim : Extent) : isMultiple dim (.int 1) = .ok true := by
  cases dim with
  | none => rfl
  | some n =>
    have whole := @Payload.divides_of_needInt (.int 1) 1 rfl Int.one_pos n
    rw [isMultiple, whole, Int.emod_one]
    rfl

theorem groupMatches_one (features kernelFeatures : Extent) :
    groupMatches features kernelFeatures (.int 1) = .ok (features.compatible kernelFeatures) := by
  cases features with
  | none => rfl
  | some n =>
    cases kernelFeatures with
    | none => rfl
    | some m =>
      have part := @Payload.share_of_needInt (.int 1) 1 rfl Int.one_pos n
      simp [groupMatches, part, Payload.isInt, Extent.compatible]

theorem groupExtent_one {dim : Extent} (form : dim.WellFormed) :
    groupExtent dim (.int 1) = .ok dim := by
  cases dim with
  | none => rfl
  | some n =>
    have nonneg : ¬ n < 0 := Int.not_lt.mpr (form n rfl)
    have part := @Payload.share_of_needInt (.int 1) 1 rfl Int.one_pos n
    simp [groupExtent, part, Shape.readExtent, nonneg]

variable {op : Convolution}

/-- With single groups the features of the input are those of the kernel, and nothing else is
    asked. -/
theorem ensure_matches_verifyFeatures (featureGroups : op.featureGroups = .int 1)
    (batchGroups : op.batchGroups = .int 1) (batch features kernelFeatures outputFeatures : Extent)
    (message : String) :
    Matches (fun _ _ => features.compatible kernelFeatures = true)
      (ensure (features.compatible kernelFeatures) .incompatibleShape message)
      (op.verifyFeatures batch features kernelFeatures outputFeatures) := by
  simp only [verifyFeatures, featureGroups, batchGroups, isMultiple_one, groupMatches_one,
    ensure_of trivial, ok_bind]
  by_cases compatible : features.compatible kernelFeatures = true
  · rw [ensure_of compatible, ensure_of compatible]
    exact compatible
  · simp only [ensure, if_neg compatible]
    exact rfl

end Convolution

/-- The extents of matrices meet in one place in both products. -/
theorem dotTensor_matches_inferTensor (op : Dot) {rows inner inner' columns : Extent}
    (lhsForm : (Ty.tensor element (.ranked [rows, inner])).WellFormed)
    (rhsForm : (Ty.tensor kernelElement (.ranked [inner', columns])).WellFormed) :
    Matches Eq
      (dotTensor ⟨element, .ranked [rows, inner]⟩ ⟨kernelElement, .ranked [inner', columns]⟩)
      (op.convolution.inferTensor ⟨element, .ranked [rows, inner]⟩
        ⟨kernelElement, .ranked [inner', columns]⟩) := by
  cases lhsForm with | tensor elementForm _ lhsExtents
  cases rhsForm with | tensor _ _ rhsExtents
  have rowsForm : rows.WellFormed := lhsExtents _ rfl rows (by simp)
  have columnsForm : columns.WellFormed := rhsExtents _ rfl columns (by simp)
  have formed : Tensor.form element (.ranked [rows, columns]) =
      .ok ⟨element, .ranked [rows, columns]⟩ := by
    refine Tensor.form_eq_ok.mpr ⟨elementForm, ?_, rfl⟩
    rintro _ ⟨⟩ dim member
    rcases List.mem_pair.mp member with rfl | rfl
    · exact rowsForm
    · exact columnsForm
  have convolved : op.convolution.inferTensor ⟨element, .ranked [rows, inner]⟩
      ⟨kernelElement, .ranked [inner', columns]⟩ = (do
        op.convolution.verifyFeatures rows inner inner' columns
        return ⟨element, .ranked [rows, columns]⟩) := by
    -- The ranks, the dimension numbers and the empty window are fixed and pass their checks.
    change (do
      op.convolution.verifyFeatures rows inner inner' columns
      let batch ← Convolution.groupExtent rows (.int 1)
      Tensor.form element (.ranked [batch, columns])) = _
    rw [Convolution.groupExtent_one rowsForm, ok_bind, formed]
    rfl
  rw [convolved]
  apply (Convolution.ensure_matches_verifyFeatures rfl rfl _ _ _ _ _).bind
  intro _ _ _
  exact rfl

theorem Dot.infer_matches_convolution {op : Dot}
    (lhsType : op.lhs = .tensor element (.ranked lhs))
    (rhsType : op.rhs = .tensor kernelElement (.ranked rhs)) (lhsForm : op.lhs.WellFormed)
    (rhsForm : op.rhs.WellFormed) (lhsRank : lhs.length = 2) (rhsRank : rhs.length = 2) :
    Matches Eq op.infer op.convolution.infer := by
  obtain ⟨rows, inner, rfl⟩ := List.length_eq_two.mp lhsRank
  obtain ⟨inner', columns, rfl⟩ := List.length_eq_two.mp rhsRank
  have groups : op.convolution.verifyGroups = .ok () := rfl
  have matrices := dotTensor_matches_inferTensor op (lhsType ▸ lhsForm) (rhsType ▸ rhsForm)
  simp only [infer, Convolution.infer, groups]
  simp only [convolution, lhsType, rhsType, Ty.needTensor_tensor, ok_bind] at matrices ⊢
  apply Matches.bind_same
  intro _ _
  exact settled_matches matrices op.result _ _

/-! ### One product, three operations -/

/-- For vectors and matrices a dot product ends as the general one that contracts the last dimension
    with the first, and for two matrices also as the convolution without spatial dimensions: with
    the same result, whatever is declared, or for the same cause. -/
theorem Dot.infer_matches_contractions {op : Dot}
    (lhsType : op.lhs = .tensor element (.ranked lhs))
    (rhsType : op.rhs = .tensor kernelElement (.ranked rhs)) (lhsForm : op.lhs.WellFormed)
    (rhsForm : op.rhs.WellFormed) (lhsRank : lhs.length = 1 ∨ lhs.length = 2)
    (rhsRank : rhs.length = 1 ∨ rhs.length = 2) :
    Matches Eq op.infer (op.general lhs.length).infer ∧
      (lhs.length = 2 → rhs.length = 2 → Matches Eq op.infer op.convolution.infer) := by
  constructor
  · exact infer_matches_general lhsType rhsType lhsRank rhsRank
  · intro lhsMatrix rhsMatrix
    exact infer_matches_convolution lhsType rhsType lhsForm rhsForm lhsMatrix rhsMatrix

/-- The declared result knows the rows, the right operand the columns. -/
theorem Dot.infer_matches_contractions_declared :
    let matrix (rows columns : Extent) : Ty := .tensor (.float .f32) (.ranked [rows, columns])
    let op : Dot :=
      { lhs := matrix none (some 3), rhs := matrix (some 3) (some 5)
        result := some (matrix (some 4) none) }
    op.infer = .ok [matrix (some 4) (some 5)] ∧
      (op.general 2).infer = .ok [matrix (some 4) (some 5)] ∧
      op.convolution.infer = .ok [matrix (some 4) (some 5)] := by
  intro matrix op
  have result : op.infer = .ok [matrix (some 4) (some 5)] := rfl
  have lhsType : op.lhs = .tensor (.float .f32) (.ranked [none, some 3]) := rfl
  have rhsType : op.rhs = .tensor (.float .f32) (.ranked [some 3, some 5]) := rfl
  have ⟨general, convolved⟩ := infer_matches_contractions lhsType rhsType (by decide) (by decide)
    (.inr rfl) (.inr rfl)
  rw [result] at general convolved
  obtain ⟨_, generalResult, rfl⟩ := general.exists_of_ok
  obtain ⟨_, convolvedResult, rfl⟩ := (convolved rfl rfl).exists_of_ok
  exact ⟨result, generalResult, convolvedResult⟩

end Op

end TensorTyping
