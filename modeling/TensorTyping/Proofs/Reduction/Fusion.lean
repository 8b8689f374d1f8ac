import TensorTyping.Proofs.Dropping
import TensorTyping.Proofs.Reduction.Operands

/-!
# Successive reductions

A reduction without a body gives every result the same shape, the extents that it keeps. A second
reduction numbers the kept dimensions anew. Both together are one reduction of the original inputs,
over the dimensions of the first and the original positions of those of the second, in any order.
-/

namespace TensorTyping

open Check

namespace Op

/-! ### The shape of all inputs -/

section Inputs

variable {what : String} {inputs : List Tensor} {base : Tensor} {dims : List Extent}

/-- An input with a rank has the rank of all inputs together. -/
theorem exists_dims_of_unifyInputs (unified : unifyInputs inputs what = .ok base) {t : Tensor}
    (member : t ∈ inputs) (ranked : t.shape = .ranked dims) :
    ∃ dims', base.shape = .ranked dims' ∧ dims'.length = dims.length := by
  have refines := (refines_of_unifyInputs unified).mp (.refl _) t member
  rw [ranked] at refines
  generalize base.shape = s at refines
  cases refines with
  | ranked same => exact ⟨_, rfl, same.length_eq⟩

/-- Inputs of one shape have that shape together. -/
theorem shape_of_unifyInputs {shape : Shape} (unified : unifyInputs inputs what = .ok base)
    (same : ∀ t ∈ inputs, t.shape = shape) : base.shape = shape := by
  have least (s : Shape) := @refines_of_unifyInputs what inputs base s unified
  cases inputs with
  | nil => simp [unifyInputs, bind_eq_ok] at unified
  | cons first rest =>
    apply Shape.Refines.antisymm
    · rw [← same first List.mem_cons_self]
      exact (least _).mp (.refl _) first List.mem_cons_self
    · refine (least shape).mpr fun t member => ?_
      rw [same t member]
      exact .refl shape

theorem verifyReducedDims_ranked_eq_ok {reduced : List Int} (ranked : base.shape = .ranked dims)
    {u : Unit} :
    verifyReducedDims base reduced = .ok u ↔
      reduced.Nodup ∧ ∀ d ∈ reduced, 0 ≤ d ∧ d < dims.length := by
  simp only [verifyReducedDims, bind_eq_ok, ensure_eq_ok, checkAll_eq_ok, exists_const,
    Dimensions.isPosition, Tensor.rank?, ranked, Shape.rank?, Bool.and_eq_true, decide_eq_true_eq]

/-- A reduction of what another one keeps drops distinct dimensions of the inputs of the other, and
    keeps what a single reduction over both keeps. -/
theorem verifyReducedDims_fused {kept : Tensor} {dropped later all : List Int}
    (ranked : base.shape = .ranked dims) (keeps : kept.shape = keptShape base.shape dropped)
    (first : verifyReducedDims base dropped = .ok ())
    (second : verifyReducedDims kept later = .ok ())
    (order : all.Perm (dropped ++ later.map (Dimensions.original dims.length dropped))) :
    verifyReducedDims base all = .ok () ∧
      keptShape kept.shape later = keptShape base.shape all := by
  have keptDims : kept.shape = .ranked (Shape.without dims dropped) := by rw [keeps, ranked]; rfl
  rw [verifyReducedDims_ranked_eq_ok ranked] at first ⊢
  rw [verifyReducedDims_ranked_eq_ok keptDims] at second
  obtain ⟨unique, inRange⟩ := first
  obtain ⟨laterUnique, laterInRange⟩ := second
  have shape : Shape.without (Shape.without dims dropped) later = Shape.without dims all := by
    rw [Shape.without_without laterInRange]
    exact Shape.without_congr fun d => order.mem_iff.symm
  rw [Shape.length_without] at laterInRange
  refine ⟨⟨order.nodup_iff.mpr ?_, fun d member => ?_⟩, ?_⟩
  · exact Dimensions.nodup_append_original laterInRange unique laterUnique
  · exact Dimensions.inRange_append_original laterInRange inRange d (order.mem_iff.mp member)
  · rw [keptDims, ranked, keptShape, keptShape, shape]

end Inputs

namespace Reduce

/-- Without a body the results have the element types of the initial values. -/
theorem infer_bodyless_eq_ok {op : Reduce} {types : List Ty} (bodyless : op.body = none) :
    op.infer = .ok types ↔ ∃ inputs inits shape, op.Reads inputs inits shape ∧
      types = inits.map fun t => .tensor t.element shape := by
  have read {inputs inits : List Tensor} {shape : Shape} (reads : op.Reads inputs inits shape) :
      op.infer = .ok (inits.map fun t => .tensor t.element shape) := by
    rw [reads.infer_eq, accumulators, bodyless]
    rfl
  constructor
  · intro accepted
    obtain ⟨inputs, inits, shape, reads⟩ := exists_reads accepted
    exact ⟨inputs, inits, shape, reads, Except.ok.inj (accepted.symm.trans (read reads))⟩
  · rintro ⟨_, _, _, reads, rfl⟩
    exact read reads

/-- Two successive reductions without a body fuse. When a second reduction, with the same initial
    values, is accepted on the results of a first one, a single reduction of the inputs is accepted
    and has the results of the second. It runs over the dimensions of the first and the original
    positions of those of the second, in any order. -/
theorem infer_fuses {inputs reduced results : List Ty} {inits : Option (List Ty)}
    {first second both : Payload} {element : Ty} {dims : List Extent} {dropped later all : List Int}
    (ranked : .tensor element (.ranked dims) ∈ inputs)
    (firstDims : first.decodeInts "dimensions" = .ok dropped)
    (secondDims : second.decodeInts "dimensions" = .ok later)
    (bothDims : both.decodeInts "dimensions" = .ok all)
    (order : all.Perm (dropped ++ later.map (Dimensions.original dims.length dropped)))
    (once : infer { inputs, inits, dimensions := first } = .ok reduced)
    (twice : infer { inputs := reduced, inits, dimensions := second } = .ok results) :
    infer { inputs, inits, dimensions := both } = .ok results := by
  obtain ⟨tensors, starts, shape, reads, rfl⟩ := (infer_bodyless_eq_ok rfl).mp once
  obtain ⟨tensors', starts', shape', reads', rfl⟩ := (infer_bodyless_eq_ok rfl).mp twice
  obtain ⟨base, _, unified, decoded, positions, rfl⟩ := reads.kept
  obtain ⟨base', _, unified', decoded', positions', rfl⟩ := reads'.kept
  cases firstDims.symm.trans decoded
  cases secondDims.symm.trans decoded'
  obtain rfl : starts' = starts := by
    have given := (needInits_eq_ok.mp reads.needed).2.1
    have given' := (needInits_eq_ok.mp reads'.needed).2.1
    exact Tensor.ty_injective.list_map (Option.some.inj (given'.symm.trans given))
  have keeps : base'.shape = keptShape base.shape dropped := by
    refine shape_of_unifyInputs unified' fun t member => ?_
    have listed := List.mem_map_of_mem (f := Tensor.ty) member
    rw [← reads'.inputs_eq] at listed
    obtain ⟨start, -, same⟩ := List.mem_map.mp listed
    exact (Ty.tensor.inj same).2.symm
  obtain ⟨extents, baseDims, length⟩ : ∃ extents, base.shape = .ranked extents ∧
      extents.length = dims.length := by
    have inputs_eq : inputs = tensors.map Tensor.ty := reads.inputs_eq
    rw [inputs_eq] at ranked
    obtain ⟨t, member, same⟩ := List.mem_map.mp ranked
    exact exists_dims_of_unifyInputs unified member (Ty.tensor.inj same).2
  rw [← length] at order
  obtain ⟨fused, shapes⟩ := verifyReducedDims_fused baseDims keeps positions positions' order
  rw [shapes]
  exact (infer_bodyless_eq_ok rfl).mpr ⟨tensors, starts', _, ⟨reads.inputs_eq, reads.needed,
    reads.scalars, base, all, unified, bothDims, fused, rfl⟩, rfl⟩

/-- Two inputs that know different extents are reduced over their last and first dimensions, and
    then over the second one that is left, which was the third. -/
theorem infer_fuses_renumbered :
    let element : Ty := .float .f32
    let inputs : List Ty :=
      [.tensor element (.ranked [some 2, none, some 5, some 7]),
        .tensor element (.ranked [some 2, some 3, none, none])]
    let init : Ty := .tensor element (.ranked [])
    let inits := some [init, init]
    let reduced : Ty := .tensor element (.ranked [some 3, some 5])
    let result : Ty := .tensor element (.ranked [some 3])
    infer { inputs, inits, dimensions := .ofInts [3, 0] } = .ok [reduced, reduced] ∧
      infer { inputs := [reduced, reduced], inits, dimensions := .ofInts [1] } =
        .ok [result, result] ∧
      infer { inputs, inits, dimensions := .ofInts [2, 0, 3] } = .ok [result, result] := by
  intro element inputs init inits reduced result
  have once : infer { inputs, inits, dimensions := .ofInts [3, 0] } = .ok [reduced, reduced] := rfl
  have twice : infer { inputs := [reduced, reduced], inits, dimensions := .ofInts [1] } =
      .ok [result, result] := rfl
  have order : [2, 0, 3].Perm ([3, 0] ++ [1].map (Dimensions.original 4 [3, 0])) := by decide
  exact ⟨once, twice, infer_fuses List.mem_cons_self rfl rfl rfl order once twice⟩

end Reduce

end Op

end TensorTyping
