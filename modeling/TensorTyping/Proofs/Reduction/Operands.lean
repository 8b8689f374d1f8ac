import TensorTyping.Proofs.Reduction.Contract

/-!
# The operands of a reduction body

A reduction lets the operands of its body keep extents that it keeps itself. The shapes that the
operands may have are described exactly: the extents of an operand can be matched in order against
some of those that the reduction keeps. So the body works on scalars when nothing is kept, or where
the accumulator and the initial value have a rank, and need not do so otherwise.
-/

namespace TensorTyping

open Check

namespace Reducer

variable {body : Region} {context : Context} {number : Int} {p : Position} {count i : Nat}
  {dims : List Extent}

theorem keeps_nil_iff : Keeps dims [] ↔ dims = [] := by
  constructor
  · rintro ⟨⟩
    rfl
  · rintro rfl
    exact .nil

/-- The `i`-th type is a tensor with these extents. -/
def DimsAt (types : List Ty) (i : Nat) (dims : List Extent) : Prop :=
  ∃ element, types[i]? = some (.tensor element (.ranked dims))

/-- The operands that have a rank are scalars. -/
def ScalarOperands (body : Region) (count : Nat) : Prop :=
  ∀ i < count, ∀ dims, DimsAt body.arguments (count + i) dims → dims = []

/-! ### Bodies that fulfil the contract -/

theorem Contract.keeps (contract : Contract body context number)
    (known : context.allUnranked = false) (within : i < context.inputs.length)
    (operand : DimsAt body.arguments (context.inputs.length + i) dims) :
    Keeps dims context.allowed := by
  obtain ⟨element, found⟩ := operand
  obtain ⟨p, standing, fits⟩ := contract.positions i within
  have same := Option.some.inj (standing.operand.symm.trans found)
  exact (fits.kept.resolve_left (by simp [known])) element dims same

/-- The rank of a scalar initial value is passed on to the result and from there to the operand. -/
theorem Contract.scalar_of_ranked (contract : Contract body context number)
    (operand : DimsAt body.arguments (context.inputs.length + i) dims) {dims' : List Extent}
    (result : DimsAt body.results i dims') (init : DimsAt context.inits i []) : dims = [] := by
  obtain ⟨element, operand⟩ := operand
  obtain ⟨element', result⟩ := result
  obtain ⟨element'', init⟩ := init
  have within := (List.getElem?_eq_some_iff.mp result).1
  rw [contract.results] at within
  obtain ⟨p, standing, fits⟩ := contract.positions i within
  have fitsInit := fits.init
  have fitsOperand := fits.operand
  rw [Option.some.inj (standing.result.symm.trans result),
    Option.some.inj (standing.init.symm.trans init), Ty.compatible_tensor_iff] at fitsInit
  rw [Option.some.inj (standing.result.symm.trans result),
    Option.some.inj (standing.operand.symm.trans operand), Ty.compatible_tensor_iff] at fitsOperand
  obtain ⟨_, _, ⟨⟩, shapes, -⟩ := fitsInit
  obtain ⟨_, _, ⟨⟩, shapes', -⟩ := fitsOperand
  cases dims' with
  | nil =>
    cases dims with
    | nil => rfl
    | cons dim rest => cases shapes'
  | cons dim rest => cases shapes

/-! ### Bodies with given operands -/

/-- The body with accumulators of unknown rank and operands of the given extents. -/
def withOperands (body : Region) (count : Nat) (dims : List Extent) : Region where
  arguments :=
    (body.arguments.take count).map (fun t => .tensor t.elementType .unranked) ++
      (body.arguments.drop count).map (fun t => .tensor t.elementType (.ranked dims))
  results := body.results.map fun t => .tensor t.elementType .unranked

/-- The types at one position of that body. -/
def Position.withOperand (p : Position) (dims : List Extent) : Position where
  result := ⟨p.result.element, .unranked⟩
  accumulator := .tensor p.accumulator.elementType .unranked
  operand := .tensor p.operand.elementType (.ranked dims)
  init := p.init
  input := p.input

theorem Position.StandsAt.withOperands (standing : p.StandsAt body context count i)
    (within : i < count) (enough : count ≤ body.arguments.length) (dims : List Extent) :
    (p.withOperand dims).StandsAt (withOperands body count dims) context count i where
  result := by simp [Reducer.withOperands, standing.result, withOperand, Tensor.ty, Ty.elementType]
  accumulator := by
    have inTake : i < (body.arguments.take count).length := by simp; omega
    simp only [Reducer.withOperands, List.getElem?_append, List.length_map, inTake, ↓reduceIte,
      List.getElem?_map, List.getElem?_take, within, standing.accumulator]
    rfl
  operand := by
    simp [Reducer.withOperands, List.getElem?_append, enough, standing.operand, withOperand]
  init := standing.init
  input := standing.input

theorem Position.Fits.withOperand (fits : p.Fits context) (kept : Keeps dims context.allowed) :
    (p.withOperand dims).Fits context := by
  obtain ⟨⟨result, resultShape⟩, accumulator, operand, init, input⟩ := p
  obtain ⟨accumulator, _, rfl, -, accumulates⟩ := Ty.compatible_tensor_iff.mp fits.accumulator
  obtain ⟨operand, _, rfl, -, combines⟩ := Ty.compatible_tensor_iff.mp fits.operand
  obtain ⟨init, _, rfl, -, starts⟩ := Ty.compatible_tensor_iff.mp fits.init
  refine ⟨?_, ?_, ?_, fits.element, .inr ?_⟩
  -- A result of unknown rank is compatible with every shape.
  · exact Ty.compatible_tensor_iff.mpr ⟨_, _, rfl, rfl, accumulates⟩
  · exact Ty.compatible_tensor_iff.mpr ⟨_, _, rfl, rfl, combines⟩
  · exact Ty.compatible_tensor_iff.mpr ⟨_, _, rfl, rfl, starts⟩
  · rintro _ _ ⟨⟩
    exact kept

theorem Contract.withOperands (contract : Contract body context number)
    (kept : Keeps dims context.allowed) :
    Contract (withOperands body context.inputs.length dims) context number := by
  have arguments := contract.arguments
  refine ⟨contract.counted, ?_, ?_, fun i within => ?_⟩
  · simp [Reducer.withOperands]
    omega
  · simp [Reducer.withOperands, contract.results]
  · obtain ⟨p, standing, fits⟩ := contract.positions i within
    exact ⟨p.withOperand dims, standing.withOperands within (by omega) dims, fits.withOperand kept⟩

theorem dimsAt_withOperands (contract : Contract body context number)
    (within : i < context.inputs.length) (dims : List Extent) :
    DimsAt (withOperands body context.inputs.length dims).arguments (context.inputs.length + i)
      dims := by
  obtain ⟨p, standing, -⟩ := contract.positions i within
  have enough : context.inputs.length ≤ body.arguments.length := by
    have := contract.arguments
    omega
  exact ⟨_, (standing.withOperands within enough dims).operand⟩

end Reducer

namespace Op

open Reducer

theorem needInits_eq_ok {inputs given : List Ty} {inits : Option (List Ty)} :
    needInits inputs inits = .ok given ↔
      inputs ≠ [] ∧ inits = some given ∧ given.length = inputs.length := by
  simp only [needInits, bind_eq_ok, ensure_eq_ok, needItems_eq_ok, pure_eq, Except.ok.injEq]
  constructor
  · rintro ⟨-, nonempty, _, found, -, length, rfl⟩
    exact ⟨by simpa using nonempty, found, length⟩
  · rintro ⟨nonempty, found, length⟩
    exact ⟨(), by simpa using nonempty, given, found, (), length, rfl⟩

namespace Reduce

variable {op : Reduce} {body : Region} {inputs inits : List Tensor} {shape : Shape}
  {types : List Ty} {dims : List Extent}

/-- What a reduction reads before it looks at its body: the inputs, the initial values and the shape
    that is kept. -/
structure Reads (op : Reduce) (inputs inits : List Tensor) (shape : Shape) : Prop where
  inputs_eq : op.inputs = inputs.map Tensor.ty
  needed : needInits op.inputs op.inits = .ok (inits.map Tensor.ty)
  scalars : verifyScalarInits inits = .ok ()
  kept : ∃ base reduced, unifyInputs inputs "reduce inputs" = .ok base ∧
    op.dimensions.decodeInts "dimensions" = .ok reduced ∧
    verifyReducedDims base reduced = .ok () ∧ shape = keptShape base.shape reduced

theorem exists_reads (accepted : op.infer = .ok types) :
    ∃ inputs inits shape, op.Reads inputs inits shape := by
  simp only [infer, bind_eq_ok, Ty.collect_needTensor_eq_ok] at accepted
  obtain ⟨_, needed, inputs, inputs_eq, inits, rfl, base, unified, _, scalars, reduced, decoded, _,
    positions, -⟩ := accepted
  exact ⟨inputs, inits, _, inputs_eq, needed, scalars, base, reduced, unified, decoded, positions,
    rfl⟩

namespace Reads

/-- The reading does not depend on the body. -/
theorem withBody (reads : op.Reads inputs inits shape) (body : Option Region) :
    { op with body := body }.Reads inputs inits shape :=
  ⟨reads.inputs_eq, reads.needed, reads.scalars, reads.kept⟩

theorem infer_eq (reads : op.Reads inputs inits shape) :
    op.infer = do
      let accumulators ← op.accumulators inputs inits shape
      return accumulators.map fun t => .tensor t.element shape := by
  obtain ⟨base, reduced, unified, decoded, positions, rfl⟩ := reads.kept
  simp only [infer, reads.needed, Ty.collect_needTensor_eq_ok.mpr reads.inputs_eq,
    Ty.collect_needTensor_eq_ok.mpr rfl, unified, reads.scalars, decoded, positions, ok_bind]

/-- An input with a rank gives the kept shape a rank. -/
theorem exists_kept (reads : op.Reads inputs inits shape) {element : Ty}
    (ranked : .tensor element (.ranked dims) ∈ op.inputs) :
    (inputs.all fun t => !t.hasRank) = false ∧ ∃ kept, shape = .ranked kept := by
  have known : (inputs.all fun t => !t.hasRank) = false := by
    rw [reads.inputs_eq] at ranked
    obtain ⟨⟨_, _⟩, member, ⟨⟩⟩ := List.mem_map.mp ranked
    exact List.all_eq_false.mpr ⟨_, member, by simp [Tensor.hasRank, Shape.hasRank]⟩
  obtain ⟨base, reduced, unified, -, -, rfl⟩ := reads.kept
  refine ⟨known, ?_⟩
  cases baseShape : base.shape with
  | unranked => simp [unranked_of_unifyInputs unified baseShape] at known
  | ranked extents => exact ⟨_, rfl⟩

/-- Initial values that have a rank are scalars. -/
theorem scalar_of_dimsAt (reads : op.Reads inputs inits shape) {i : Nat}
    (init : DimsAt (inits.map Tensor.ty) i dims) : dims = [] := by
  obtain ⟨element, found⟩ := init
  obtain ⟨⟨_, _⟩, member, ⟨⟩⟩ := List.mem_map.mp (List.mem_of_getElem? found)
  have scalar := ensure_eq_ok.mp (checkAll_eq_ok.mp reads.scalars _ member)
  simpa [Tensor.hasOtherRank, Tensor.rank?, Shape.rank?] using scalar

end Reads

/-- The reduction is accepted with the body. -/
def Accepts (op : Reduce) (body : Region) : Prop :=
  ∃ types, { op with body := some body }.infer = .ok types

theorem accepts_iff (reads : op.Reads inputs inits shape) :
    op.Accepts body ↔
      Contract body (.ofTensors inputs inits (shape.dims?.getD []) "reduce") inputs.length := by
  have verified {results : List Tensor} := @verify_eq_ok body
    (.ofTensors inputs inits (shape.dims?.getD []) "reduce") inputs.length rfl results
  simp only [Accepts, (reads.withBody (some body)).infer_eq, accumulators, bind_eq_ok, verified]
  constructor
  · rintro ⟨_, _, ⟨contract, -⟩, -⟩
    exact contract
  · intro contract
    obtain ⟨results, typed⟩ := contract.shaped.tensors
    exact ⟨_, results, ⟨contract, typed⟩, rfl⟩

variable {kept : List Extent} {i : Nat}

/-- From one accepted body, a body with any operands that keep some of the kept extents. -/
theorem exists_accepts_iff (reads : op.Reads inputs inits (.ranked kept))
    (known : (inputs.all fun t => !t.hasRank) = false) (accepts : op.Accepts body)
    (within : i < op.inputs.length) :
    (∃ body', op.Accepts body' ∧ DimsAt body'.arguments (op.inputs.length + i) dims) ↔
      Keeps dims kept := by
  have length : op.inputs.length = (inputs.map Tensor.ty).length := by rw [reads.inputs_eq]
  rw [length] at within ⊢
  constructor
  · rintro ⟨body', accepts, operand⟩
    exact ((accepts_iff reads).mp accepts).keeps known within operand
  · intro keeps
    have contract := (accepts_iff reads).mp accepts
    exact ⟨_, (accepts_iff reads).mpr (contract.withOperands keeps),
      dimsAt_withOperands contract within dims⟩

theorem scalarOperands_iff (reads : op.Reads inputs inits (.ranked kept))
    (known : (inputs.all fun t => !t.hasRank) = false) (accepts : op.Accepts body) :
    (∀ body', op.Accepts body' → ScalarOperands body' op.inputs.length) ↔ kept = [] := by
  constructor
  · intro scalar
    cases kept with
    | nil => rfl
    | cons dim rest =>
      have nonempty := List.length_pos_iff.mpr (needInits_eq_ok.mp reads.needed).1
      have keeps : Keeps [dim] (dim :: rest) := .cons (Extent.compatible_self dim) .nil
      obtain ⟨body', accepts', operand⟩ :=
        (exists_accepts_iff reads known accepts nonempty).mpr keeps
      cases scalar body' accepts' 0 nonempty [dim] operand
  · rintro rfl body' accepts' i within dims operand
    have keeps := (exists_accepts_iff reads known accepts within).mp ⟨body', accepts', operand⟩
    exact keeps_nil_iff.mp keeps

/-- The operands of an accepted body need not be scalars. Every shape that keeps some of the extents
    of the result in order is the shape of an operand of some accepted body, and no other shape is.
    So the operands are scalars in all accepted bodies just when the reduction keeps no extent. In
    any case an operand is a scalar where the result and the initial value have a rank. -/
theorem operands_scalar_iff {element : Ty} (given : op.body = some body)
    (accepted : op.infer = .ok types) (ranked : .tensor element (.ranked dims) ∈ op.inputs) :
    ∃ kept, (∀ type ∈ types, ∃ element, type = .tensor element (.ranked kept)) ∧
      (∀ i < op.inputs.length, ∀ dims,
        (∃ body', op.Accepts body' ∧ DimsAt body'.arguments (op.inputs.length + i) dims) ↔
          Keeps dims kept) ∧
      ((∀ body', op.Accepts body' → ScalarOperands body' op.inputs.length) ↔ kept = []) ∧
      ∀ inits i dims dims' dims'', op.inits = some inits →
        DimsAt body.arguments (op.inputs.length + i) dims → DimsAt body.results i dims' →
          DimsAt inits i dims'' → dims = [] := by
  obtain ⟨inputs, inits, shape, reads⟩ := exists_reads accepted
  obtain ⟨known, kept, rfl⟩ := reads.exists_kept ranked
  have accepts : op.Accepts body := ⟨types, by rw [← given]; exact accepted⟩
  refine ⟨kept, ?_, fun i within dims => exists_accepts_iff reads known accepts within,
    scalarOperands_iff reads known accepts, ?_⟩
  · rw [reads.infer_eq, bind_eq_ok] at accepted
    obtain ⟨accumulators, -, ⟨⟩⟩ := accepted
    intro type member
    obtain ⟨accumulator, -, rfl⟩ := List.mem_map.mp member
    exact ⟨accumulator.element, rfl⟩
  · intro given i dims dims' dims'' found operand result init
    have contract := (accepts_iff reads).mp accepts
    obtain rfl := Option.some.inj (found.symm.trans (needInits_eq_ok.mp reads.needed).2.1)
    obtain rfl := reads.scalar_of_dimsAt init
    rw [reads.inputs_eq] at operand
    exact contract.scalar_of_ranked operand result init

/-- Five rows of three numbers each are summed by a body that adds vectors of five numbers. -/
theorem operands_scalar_iff_rows :
    let row : Ty := .tensor (.float .f32) (.ranked [some 5])
    let op : Reduce :=
      { inputs := [.tensor (.float .f32) (.ranked [some 5, some 3])]
        inits := some [.tensor (.float .f32) .unranked], dimensions := .ofInts [1]
        body := some ⟨[row, row], [row]⟩ }
    op.infer = .ok [row] ∧ ∃ body, op.Accepts body ∧ ¬ ScalarOperands body 1 := by
  intro row op
  have accepted : op.infer = .ok [row] := rfl
  obtain ⟨kept, shapes, -, scalar, -⟩ :=
    operands_scalar_iff rfl accepted (List.mem_singleton_self _)
  obtain ⟨_, same⟩ := shapes row (List.mem_singleton_self _)
  have notNil : kept ≠ [] := by
    rintro rfl
    simp [row] at same
  have notScalar := mt scalar.mp notNil
  simp only [not_forall] at notScalar
  obtain ⟨body, accepts, notScalar⟩ := notScalar
  exact ⟨accepted, body, accepts, notScalar⟩

end Reduce

end Op

end TensorTyping
