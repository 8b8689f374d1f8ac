import Mathlib.Data.Set.List
import TensorTyping.Proofs.Payload.Decode
import TensorTyping.Proofs.Refinement.Reduction

/-!
# The contract of a reduction body

A body for `N` inputs takes `N` accumulators and `N` operands and returns `N` accumulators. The
contract is stated here on its own: how many types there are, and what those at one position have to
do with each other. The check of a body accepts exactly the bodies that fulfil it. Any other body is
rejected, and where a parameter is blamed, it stands at the first position that breaks the contract.
-/

namespace TensorTyping

open Check

namespace Reducer

variable {body : Region} {context : Context} {number : Int} {p q : Position} {count i : Nat}

/-! ### The contract -/

/-- The extents can be matched in order against some of those that are kept. -/
def Keeps (dims kept : List Extent) : Prop :=
  List.SublistForall₂ (fun a b => Extent.compatible a b = true) dims kept

/-- The types at one position fit. The result is compared strictly with the accumulator, and under
    the policy of the operation with the operand and with the initial value. The operand has the
    elements of the input, and when it has a rank, it keeps some of the allowed extents in order. -/
structure Position.Fits (p : Position) (context : Context) : Prop where
  accumulator : Ty.compatible false p.result.ty p.accumulator = true
  operand : Ty.compatible (isRelaxed context.operation) p.result.ty p.operand = true
  init : Ty.compatible (isRelaxed context.operation) p.result.ty p.init = true
  element : Ty.compatibleElements (isRelaxed context.operation) p.input.elementType
    p.operand.elementType = true
  kept : context.allUnranked = true ∨ ∀ element dims, p.operand = .tensor element (.ranked dims) →
    Keeps dims context.allowed

/-- The types stand at the `i`-th of `count` positions. -/
structure Position.StandsAt (p : Position) (body : Region) (context : Context) (count i : Nat) :
    Prop where
  result : body.results[i]? = some p.result.ty
  accumulator : body.arguments[i]? = some p.accumulator
  operand : body.arguments[count + i]? = some p.operand
  init : context.inits[i]? = some p.init
  input : context.inputs[i]? = some p.input

/-- The result at the `i`-th position is a tensor, and the types there fit. -/
def FulfilledAt (body : Region) (context : Context) (count i : Nat) : Prop :=
  ∃ p : Position, p.StandsAt body context count i ∧ p.Fits context

/-- There are as many inputs and initial values as the number says. -/
def Context.Counted (context : Context) (number : Int) : Prop :=
  number = context.inputs.length ∧ number = context.inits.length

/-- The body has the parameters and the results for its inputs, and the results are tensors. -/
structure Shaped (body : Region) (context : Context) : Prop where
  arguments : body.arguments.length = 2 * context.inputs.length
  results : body.results.length = context.inputs.length
  tensors : ∃ results : List Tensor, body.results = results.map Tensor.ty

/-- The body fulfils the contract. -/
structure Contract (body : Region) (context : Context) (number : Int) : Prop where
  counted : context.Counted number
  arguments : body.arguments.length = 2 * context.inputs.length
  results : body.results.length = context.inputs.length
  positions : ∀ i < context.inputs.length, FulfilledAt body context context.inputs.length i

/-- The failure of a body that breaks its contract. -/
def mismatch (parameter : Option Int) (reason message : String) : Fault :=
  .diagnostic { kind := .reducerSignatureMismatch parameter reason, message := message }

/-- The failures that a body is rejected with. -/
inductive Refusal (body : Region) (context : Context) (number : Int) : Fault → Prop
  /-- The lists of inputs and of initial values do not have the given length. -/
  | uncounted (message : String) (lists : ¬ context.Counted number) :
      Refusal body context number (.diagnostic { kind := .invalidOperand, message := message })
  /-- The body has other numbers of parameters or results, or a result that is no tensor. -/
  | misshapen (reason message : String) (lists : context.Counted number)
      (signature : ¬ Shaped body context) :
      Refusal body context number (mismatch none reason message)
  /-- The `i`-th position is the first where the contract is broken, and the parameter is its
      accumulator or its operand. -/
  | broken (reason message : String) (lists : context.Counted number)
      (signature : Shaped body context) (i parameter : Nat) (within : i < context.inputs.length)
      (breaks : ¬ FulfilledAt body context context.inputs.length i)
      (first : ∀ j < i, FulfilledAt body context context.inputs.length j)
      (blamed : parameter = i ∨ parameter = context.inputs.length + i) :
      Refusal body context number (mismatch (some parameter) reason message)

/-! ### One position -/

theorem verifyKept_eq_ok {second : Nat} {operand : Tensor} :
    verifyKept context second i operand.shape = .ok () ↔
      context.allUnranked = true ∨ ∀ element dims, operand.ty = .tensor element (.ranked dims) →
        Keeps dims context.allowed := by
  obtain ⟨element, shape⟩ := operand
  cases shape with
  | unranked => simp [verifyKept, Tensor.ty]
  | ranked dims => simp [verifyKept, Tensor.ty, require, embeds_iff, Keeps]

/-- The operand parameter of a position that fits is a tensor. -/
theorem verifyPosition_eq_ok :
    verifyPosition context count i p = .ok () ↔ p.Fits context := by
  simp only [verifyPosition, require, bind_eq_ok, ensure_eq_ok, needPart_eq_ok, Ty.tensor?_eq_some]
  constructor
  · rintro ⟨-, accumulator, -, operand, -, init, view, same, -, element, kept⟩
    rw [verifyKept_eq_ok, ← same] at kept
    refine ⟨accumulator, operand, init, ?_, kept⟩
    rw [same]
    exact element
  · rintro ⟨accumulator, operand, init, element, kept⟩
    obtain ⟨view, same⟩ := Tensor.exists_of_compatible operand
    rw [same] at element kept
    exact ⟨(), accumulator, (), operand, (), init, view, same, (), element,
      verifyKept_eq_ok.mpr kept⟩

theorem verifyKept_eq_error {second : Nat} {operand : Shape} {fault : Fault}
    (failed : verifyKept context second i operand = .error fault) :
    ∃ reason message, fault = mismatch (some second) reason message := by
  unfold verifyKept at failed
  split at failed
  · exact ⟨_, _, (ensure_eq_error.mp failed).2⟩
  · cases failed

/-- A position is rejected for its accumulator or for its operand. -/
theorem verifyPosition_eq_error {fault : Fault}
    (failed : verifyPosition context count i p = .error fault) :
    ∃ parameter reason message, (parameter = i ∨ parameter = count + i) ∧
      fault = mismatch (some (parameter : Nat)) reason message := by
  simp only [verifyPosition, require, bind_eq_error, ensure_eq_error, ensure_eq_ok] at failed
  rcases failed with accumulator | ⟨-, -, operand | ⟨-, agree, init | ⟨-, -, untyped |
    ⟨view, -, element | ⟨-, -, kept⟩⟩⟩⟩⟩
  · exact ⟨i, _, _, .inl rfl, accumulator.2⟩
  · exact ⟨count + i, _, _, .inr rfl, operand.2⟩
  · exact ⟨i, _, _, .inl rfl, init.2⟩
  · obtain ⟨view, same⟩ := Tensor.exists_of_compatible agree
    rw [needPart_eq_ok.mpr (Ty.tensor?_eq_some.mpr same)] at untyped
    cases untyped
  · exact ⟨count + i, _, _, .inr rfl, element.2⟩
  · obtain ⟨reason, message, rfl⟩ := verifyKept_eq_error kept
    exact ⟨count + i, reason, message, .inr rfl, rfl⟩

/-! ### All positions -/

theorem Position.StandsAt.unique (first : p.StandsAt body context count i)
    (second : q.StandsAt body context count i) : p = q := by
  obtain ⟨result, accumulator, operand, init, input⟩ := p
  have sameResult := Option.some.inj (first.result.symm.trans second.result)
  have sameAccumulator := Option.some.inj (first.accumulator.symm.trans second.accumulator)
  have sameOperand := Option.some.inj (first.operand.symm.trans second.operand)
  have sameInit := Option.some.inj (first.init.symm.trans second.init)
  have sameInput := Option.some.inj (first.input.symm.trans second.input)
  simp_all [Tensor.ty_injective.eq_iff]

theorem fulfilledAt_iff (standing : p.StandsAt body context count i) :
    FulfilledAt body context count i ↔ p.Fits context := by
  constructor
  · rintro ⟨q, standing', fits⟩
    rwa [standing.unique standing']
  · exact fun fits => ⟨p, standing, fits⟩

theorem position_eq_ok {results : List Tensor} (typed : body.results = results.map Tensor.ty) :
    position results body.arguments context.inits context.inputs count i = .ok p ↔
      p.StandsAt body context count i := by
  have result : results[i]? = some p.result ↔ body.results[i]? = some p.result.ty := by
    simp [typed, Tensor.ty_injective.eq_iff]
  simp only [position, ← Int.natCast_add, bind_eq_ok, itemAt_natCast_eq_ok, pure_eq,
    Except.ok.injEq]
  constructor
  · rintro ⟨_, result?, _, accumulator, _, operand, _, init, _, input, rfl⟩
    exact ⟨result.mp result?, accumulator, operand, init, input⟩
  · intro standing
    exact ⟨_, result.mpr standing.result, _, standing.accumulator, _, standing.operand, _,
      standing.init, _, standing.input, rfl⟩

theorem exists_standsAt (counted : context.Counted number) (shaped : Shaped body context)
    (within : i < context.inputs.length) :
    ∃ p : Position, p.StandsAt body context context.inputs.length i := by
  obtain ⟨arguments, results, tensors, typed⟩ := shaped
  have inits : i < context.inits.length := by
    have := counted.1.symm.trans counted.2
    omega
  have tensor : i < tensors.length := by
    have := congrArg List.length typed
    rw [List.length_map] at this
    omega
  have accumulator : i < body.arguments.length := by omega
  have operand : context.inputs.length + i < body.arguments.length := by omega
  exact ⟨⟨tensors[i], body.arguments[i], body.arguments[context.inputs.length + i],
      context.inits[i], context.inputs[i]⟩,
    by simp [typed, tensor], List.getElem?_eq_getElem accumulator,
    List.getElem?_eq_getElem operand, List.getElem?_eq_getElem inits,
    List.getElem?_eq_getElem within⟩

/-- The positions hold the types of the body that belong together. -/
def ListsPositions (positions : List Position) (body : Region) (context : Context) : Prop :=
  ∀ (i : Nat) (p : Position), positions[i]? = some p ↔
    p.StandsAt body context context.inputs.length i

theorem exists_positions {results : List Tensor} (counted : context.Counted number)
    (shaped : Shaped body context) (typed : body.results = results.map Tensor.ty) :
    ∃ positions,
      collect (position results body.arguments context.inits context.inputs context.inputs.length)
          (List.range context.inputs.length) = .ok positions ∧
        ListsPositions positions body context := by
  cases read : collect (position results body.arguments context.inits context.inputs
      context.inputs.length) (List.range context.inputs.length) with
  | error fault =>
    obtain ⟨i, inside, failed⟩ := exists_of_collect_eq_error read
    obtain ⟨p, standing⟩ := exists_standsAt counted shaped (List.mem_range.mp inside)
    rw [(position_eq_ok typed).mpr standing] at failed
    cases failed
  | ok positions =>
    obtain ⟨length, each⟩ := collect_range_eq_ok.mp read
    have standsAt : ∀ (i : Nat) (p : Position), positions[i]? = some p →
        p.StandsAt body context context.inputs.length i :=
      fun i p found => (position_eq_ok typed).mp (each i p found)
    refine ⟨positions, rfl, fun i p => ⟨standsAt i p, fun standing => ?_⟩⟩
    have within := (List.getElem?_eq_some_iff.mp standing.input).1
    have found := List.getElem?_eq_getElem (length ▸ within)
    rw [found, (standsAt i _ found).unique standing]

theorem checkEach_positions_eq_ok {positions : List Position}
    (counted : context.Counted number) (shaped : Shaped body context)
    (lists : ListsPositions positions body context) :
    checkEach (verifyPosition context context.inputs.length) positions = .ok () ↔
      ∀ i < context.inputs.length, FulfilledAt body context context.inputs.length i := by
  simp only [checkEach_eq_ok, lists _ _, verifyPosition_eq_ok]
  constructor
  · intro each i within
    obtain ⟨p, standing⟩ := exists_standsAt counted shaped within
    exact ⟨p, standing, each i p standing⟩
  · intro each i p standing
    have within := (List.getElem?_eq_some_iff.mp standing.input).1
    exact (fulfilledAt_iff standing).mp (each i within)

theorem refusal_of_checkEach_positions {positions : List Position} {fault : Fault}
    (counted : context.Counted number) (shaped : Shaped body context)
    (lists : ListsPositions positions body context)
    (failed : checkEach (verifyPosition context context.inputs.length) positions =
      .error fault) : Refusal body context number fault := by
  obtain ⟨i, p, found, failed, passed⟩ := exists_of_checkEach_eq_error failed
  rw [lists i p] at found
  have within := (List.getElem?_eq_some_iff.mp found.input).1
  obtain ⟨parameter, reason, message, blamed, rfl⟩ := verifyPosition_eq_error failed
  refine .broken reason message counted shaped i parameter within ?_ ?_ blamed
  · intro fulfilled
    have fits := (fulfilledAt_iff found).mp fulfilled
    rw [verifyPosition_eq_ok.mpr fits] at failed
    cases failed
  · intro j before
    obtain ⟨q, standing⟩ := exists_standsAt counted shaped (Nat.lt_trans before within)
    have passed := passed j before q ((lists j q).mpr standing)
    exact ⟨q, standing, verifyPosition_eq_ok.mp passed⟩

/-! ### The whole body -/

theorem tensorResults_eq_ok {types : List Ty} {results : List Tensor} :
    tensorResults types = .ok results ↔ types = results.map Tensor.ty := by
  refine collect_eq_ok_iff_map fun type result => ?_
  cases type with
  | tensor element shape =>
    obtain ⟨element', shape'⟩ := result
    simp [Ty.tensor?, Tensor.ty]
  | _ => simp [Ty.tensor?, Tensor.ty]

theorem tensorResults_eq_error {types : List Ty} {fault : Fault}
    (failed : tensorResults types = .error fault) :
    (∀ results : List Tensor, types ≠ results.map Tensor.ty) ∧
      ∃ reason message, fault = mismatch none reason message := by
  constructor
  · intro results typed
    rw [tensorResults_eq_ok.mpr typed] at failed
    cases failed
  · obtain ⟨type, -, failed⟩ := exists_of_collect_eq_error failed
    split at failed
    · cases failed
    · exact ⟨_, _, (Except.error.inj failed).symm⟩

theorem Contract.shaped (contract : Contract body context number) : Shaped body context := by
  have tensors : body.results ∈ Set.range (List.map Tensor.ty) := by
    rw [Set.range_list_map]
    intro type member
    obtain ⟨i, found⟩ := List.mem_iff_getElem?.mp member
    have within := (List.getElem?_eq_some_iff.mp found).1
    obtain ⟨p, standing, -⟩ := contract.positions i (contract.results ▸ within)
    exact ⟨p.result, Option.some.inj (standing.result.symm.trans found)⟩
  obtain ⟨results, typed⟩ := tensors
  exact ⟨contract.arguments, contract.results, results, typed.symm⟩

theorem verify_eq_ok (given : context.count = .int number) {results : List Tensor} :
    verify (some body) context = .ok results ↔
      Contract body context number ∧ body.results = results.map Tensor.ty := by
  simp only [verify, given, require, bind_eq_ok, ensure_eq_ok, needPart_eq_ok, Payload.isInt_int,
    tensorResults_eq_ok]
  constructor
  · rintro ⟨-, counted, _, ⟨⟩, -, -, -, arguments, -, count, _, typed, -, -, _, read, _, each, ⟨⟩⟩
    have shaped : Shaped body context := ⟨arguments, count, _, typed⟩
    obtain ⟨positions, read', lists⟩ := exists_positions counted shaped typed
    obtain rfl := Except.ok.inj (read'.symm.trans read)
    have fulfilled := (checkEach_positions_eq_ok counted shaped lists).mp each
    exact ⟨⟨counted, arguments, count, fulfilled⟩, typed⟩
  · rintro ⟨contract, typed⟩
    obtain ⟨positions, read, lists⟩ := exists_positions contract.counted contract.shaped typed
    have each := (checkEach_positions_eq_ok contract.counted contract.shaped lists).mpr
      contract.positions
    exact ⟨(), contract.counted, body, rfl, _, rfl, (), contract.arguments, (), contract.results,
      results, typed, number, rfl, positions, read, (), each, rfl⟩

theorem verify_eq_error (given : context.count = .int number) {fault : Fault}
    (failed : verify (some body) context = .error fault) : Refusal body context number fault := by
  unfold verify at failed
  rw [given] at failed
  rcases bind_eq_error.mp failed with miscounted | ⟨_, lists, failed⟩
  · obtain ⟨lists, rfl⟩ := ensure_eq_error.mp miscounted
    exact .uncounted _ (by simpa [Context.Counted] using lists)
  have counted : context.Counted number := by
    simpa [Context.Counted] using ensure_eq_ok.mp lists
  rcases bind_eq_error.mp failed with missing | ⟨_, ⟨⟩, failed⟩
  · cases missing
  rcases bind_eq_error.mp failed with notNumber | ⟨_, _, failed⟩
  · cases notNumber
  rcases bind_eq_error.mp failed with miscounted | ⟨_, arguments, failed⟩
  · obtain ⟨arguments, rfl⟩ := ensure_eq_error.mp miscounted
    exact .misshapen _ _ counted fun shaped => arguments shaped.arguments
  rcases bind_eq_error.mp failed with miscounted | ⟨_, results, failed⟩
  · obtain ⟨results, rfl⟩ := ensure_eq_error.mp miscounted
    exact .misshapen _ _ counted fun shaped => results shaped.results
  rcases bind_eq_error.mp failed with refused | ⟨tensors, accepted, failed⟩
  · obtain ⟨untyped, reason, message, rfl⟩ := tensorResults_eq_error refused
    exact .misshapen _ _ counted fun shaped => shaped.tensors.elim untyped
  have typed := tensorResults_eq_ok.mp accepted
  have shaped : Shaped body context :=
    ⟨ensure_eq_ok.mp arguments, ensure_eq_ok.mp results, tensors, typed⟩
  rcases bind_eq_error.mp failed with notNumber | ⟨_, _, failed⟩
  · cases notNumber
  obtain ⟨positions, read, lists⟩ := exists_positions counted shaped typed
  rw [read, ok_bind] at failed
  rcases bind_eq_error.mp failed with position | ⟨_, _, failed⟩
  · exact refusal_of_checkEach_positions counted shaped lists position
  · cases failed

/-- A body is accepted, with its results as accumulators, exactly when it fulfils its contract. Any
    other body is refused. -/
theorem verify_decides_contract (body : Region) (context : Context) (number : Int)
    (given : context.count = .int number) :
    ((∃ results, verify (some body) context = .ok results ∧
        results.map Tensor.ty = body.results) ↔ Contract body context number) ∧
      (¬ Contract body context number → ∃ fault, verify (some body) context = .error fault ∧
        Refusal body context number fault) := by
  constructor
  · constructor
    · rintro ⟨results, accepted, -⟩
      exact ((verify_eq_ok given).mp accepted).1
    · intro contract
      obtain ⟨results, typed⟩ := contract.shaped.tensors
      exact ⟨results, (verify_eq_ok given).mpr ⟨contract, typed⟩, typed.symm⟩
  · intro broken
    cases outcome : verify (some body) context with
    | ok results => exact absurd ((verify_eq_ok given).mp outcome).1 broken
    | error fault => exact ⟨fault, rfl, verify_eq_error given outcome⟩

/-- The largest value and its index, where the accumulators are wider than the inputs. A body that
    takes a value for the index breaks the contract at the second position. -/
theorem verify_decides_contract_largest :
    let value : Ty := .tensor (.float .f32) (.ranked [])
    let index : Ty := .tensor .i32 (.ranked [])
    let context : Context :=
      { inputs := [.tensor (.float .f16) (.ranked [some 3, none]), .tensor .i32 .unranked]
        inits := [value, index], count := .int 2, allowed := [some 3] }
    let body : Region := ⟨[value, index, value, index], [value, index]⟩
    let confused : Region := ⟨[value, index, value, value], [value, index]⟩
    Contract body context 2 ∧ ¬ Contract confused context 2 ∧
      ∃ fault, verify (some confused) context = .error fault ∧
        Refusal confused context 2 fault := by
  intro value index context body confused
  obtain ⟨accepts, -⟩ := verify_decides_contract body context 2 rfl
  obtain ⟨accepts', rejects⟩ := verify_decides_contract confused context 2 rfl
  have broken : ¬ Contract confused context 2 := by
    intro contract
    obtain ⟨_, accepted, -⟩ := accepts'.mpr contract
    cases accepted
  exact ⟨accepts.mp ⟨[⟨.float .f32, .ranked []⟩, ⟨.i32, .ranked []⟩], rfl, rfl⟩, broken,
    rejects broken⟩

end Reducer

end TensorTyping
