import TensorTyping.Proofs.Dimensions
import TensorTyping.Proofs.Indexing.Positions
import TensorTyping.Proofs.Refinement.Indexing
import TensorTyping.Proofs.Totality.Types
import TensorTyping.Proofs.Ty.Static

/-!
# Scatters of several updates

A scatter of several updates into as many inputs checks one input and one update in full, the first
of each that have a rank, and compares the shapes of the others with the first of their list. So an
accepted scatter is acceptable pair by pair when the checked tensors say all that the others say.
When one of them does not, there is a scatter that is accepted although one of its pairs is not.
-/

namespace TensorTyping

namespace Shape

theorem compatibleDims_iff_getElem? {a b : List Extent} :
    compatibleDims a b = true ↔
      a.length = b.length ∧
        ∀ i, i < b.length → Extent.compatible a[i]?.join b[i]?.join = true := by
  induction a generalizing b with
  | nil => cases b <;> simp [compatibleDims]
  | cons dim rest ih =>
    cases b with
    | nil => simp [compatibleDims]
    | cons dim' rest' =>
      rw [compatibleDims, Bool.and_eq_true, ih]
      constructor
      · rintro ⟨first, lengths, others⟩
        refine ⟨by simpa using lengths, ?_⟩
        rintro (_ | i) inside
        · exact first
        · exact others i (by simpa using inside)
      · rintro ⟨lengths, all⟩
        refine ⟨all 0 (by simp), by simpa using lengths, ?_⟩
        intro i inside
        exact all (i + 1) (by simpa using inside)

/-- A known shape refines every shape that it agrees with. -/
theorem refines_of_isStatic {s t : Shape} (formed : s.WellFormed) (static : s.isStatic = true)
    (agree : s.compatible t = true) : s.Refines t := by
  rw [refines_iff_static formed]
  intro u _ agree'
  rw [compatible_comm] at agree
  exact compatible_trans static agree agree'

end Shape

namespace Scatter

variable {operand indices update : Tensor} {inputs updates tensors : List Tensor}
  {dims : ScatterDims}

/-! ### Lists of tensors -/

/-- The tensor that is checked in full for a list: the first that has a rank, or else the first. -/
def representative (tensors : List Tensor) : Tensor := firstRanked (tensors.headD default) tensors

/-- The first tensor has a shape compatible with that of each tensor of the list. -/
def Alike (tensors : List Tensor) : Prop :=
  ∀ t ∈ tensors, (tensors.headD default).shape.compatible t.shape = true

/-- The tensor that is checked in full says all that any tensor of the list says. -/
def Leads (tensors : List Tensor) : Prop :=
  ∀ t ∈ tensors, (representative tensors).shape.Refines t.shape

theorem representative_mem (nonempty : tensors ≠ []) : representative tensors ∈ tensors := by
  cases tensors with
  | nil => exact absurd rfl nonempty
  | cons first rest =>
    unfold representative firstRanked
    cases found : (first :: rest).find? Tensor.hasRank with
    | none => exact List.mem_cons_self
    | some t => exact List.mem_of_find?_eq_some found

theorem representative_replicate (t : Tensor) {count : Nat} (positive : count ≠ 0) :
    representative (List.replicate count t) = t :=
  List.eq_of_mem_replicate (representative_mem (by simpa using positive))

theorem ensureAlike_eq_ok {what : String} {first : Tensor} {rest : List Tensor} {u : Unit} :
    ensureAlike what first rest = .ok u ↔ Alike (first :: rest) := by
  simp [ensureAlike, Alike, Check.checkAll_eq_ok]

theorem collect_needTensor_map_ty (what : String) (tensors : List Tensor) :
    collect (Ty.needTensor · what) (tensors.map Tensor.ty) = .ok tensors :=
  Ty.collect_needTensor_eq_ok.mpr rfl

/-- What a scatter of several updates asks. -/
theorem verify_map_eq_ok :
    verify (inputs.map Tensor.ty) indices.ty (some (updates.map Tensor.ty)) (some dims) = .ok () ↔
      inputs ≠ [] ∧ inputs.length = updates.length ∧ indices.element.isInteger = true ∧
        Alike inputs ∧ Alike updates ∧
        verifyTensors (representative inputs) indices (representative updates) dims = .ok () := by
  simp only [verify, Check.bind_eq_ok, Check.ensure_eq_ok, Check.needItems_eq_ok,
    Option.some.injEq, exists_eq_left', collect_needTensor_map_ty, Tensor.needTensor_ty,
    Except.ok.injEq, List.length_map]
  cases inputs with
  | nil => simp
  | cons input otherInputs =>
    cases updates with
    | nil => simp
    | cons update otherUpdates =>
      simp [Check.bind_eq_ok, ensureAlike_eq_ok, Check.needPart_eq_ok, representative]

theorem verify_pair_eq_ok :
    verify [operand.ty] indices.ty (some [update.ty]) (some dims) = .ok () ↔
      indices.element.isInteger = true ∧ verifyTensors operand indices update dims = .ok () := by
  have whole := @verify_map_eq_ok indices [operand] [update] dims
  have alone : ∀ t, representative [t] = t := fun t => representative_replicate t Nat.one_ne_zero
  simpa [Alike, alone] using whole

/-! ### A scatter of whole batches -/

/-- The positions below a rank. -/
def positions (rank : Nat) : List Int := (List.range rank).map Int.ofNat

/-- Indices for batches of the given extents, each index vector being empty. -/
def batchIndices (extents : List Int) : Tensor :=
  ⟨.i32, .ranked (extents.map some ++ [some 0])⟩

/-- The mapping under which every dimension of the operand is a batching dimension. -/
def batchDims (rank : Nat) : GatherDims where
  indexVectorDim := .int rank
  operandBatchingDims := positions rank
  startIndicesBatchingDims := positions rank

theorem mem_positions {rank : Nat} {d : Int} : d ∈ positions rank ↔ 0 ≤ d ∧ d < rank :=
  Dimensions.mem_upTo

@[simp] theorem length_positions (rank : Nat) : (positions rank).length = rank :=
  Dimensions.length_upTo rank

theorem positions_increasing (rank : Nat) : (positions rank).Pairwise (· < ·) :=
  Dimensions.upTo_increasing rank

theorem rank?_batchIndices (extents : List Int) :
    (batchIndices extents).rank? = some (extents.length + 1) := by
  simp [batchIndices, Tensor.rank?, Shape.rank?]

theorem dim_batchIndices (extents : List Int) {i : Nat} (inside : i < extents.length) :
    (batchIndices extents).dim i = .ok (some extents[i]) :=
  itemAt_natCast_eq_ok.mpr (by simp [List.getElem?_append_left, inside])

theorem valid_batchDims (extents : List Int) {rank : Option Nat}
    (fits : ∀ n, rank = some n → extents.length ≤ n) :
    Mapping.Valid rank (batchIndices extents) (batchDims extents.length) := by
  have sorted := positions_increasing extents.length
  have inRange : ∀ d ∈ positions extents.length, Dimensions.isPosition rank d = true := by
    intro d member
    obtain ⟨nonneg, inside⟩ := mem_positions.mp member
    cases rank with
    | none => simpa [Dimensions.isPosition] using nonneg
    | some n =>
      have enough := fits n rfl
      simp only [Dimensions.isPosition, Bool.and_eq_true, decide_eq_true_eq]
      omega
  have vector : Mapping.indexVectorExtent (batchIndices extents) (.int extents.length) =
      .ok (some 0) := by
    have other : Payload.isInt (.int extents.length) ↑(extents.length + 1) = false := by
      simp only [Payload.isInt, beq_eq_false_iff_ne]
      omega
    simp only [Mapping.indexVectorExtent, rank?_batchIndices, other]
    exact itemAt_natCast_eq_ok.mpr (by simp)
  have batching : Mapping.ValidBatching (batchIndices extents) (positions extents.length)
      (positions extents.length) (.int extents.length) := by
    refine ⟨sorted.imp Int.ne_of_lt, ?_, ?_, rfl⟩
    · intro n found d member
      rw [rank?_batchIndices, Option.some.injEq] at found
      obtain ⟨nonneg, inside⟩ := mem_positions.mp member
      simp only [Dimensions.isPosition, Bool.and_eq_true, decide_eq_true_eq]
      omega
    · simp only [Bool.not_eq_true', List.any_eq_false, Payload.isInt, beq_iff_eq]
      intro d member
      have inside := (mem_positions.mp member).2
      omega
  have notBeyond : Mapping.isBeyond (.int extents.length) (batchIndices extents).rank? =
      .ok false := by
    rw [rank?_batchIndices, Mapping.isBeyond, Payload.isAbove, Payload.test, Except.ok.injEq,
      decide_eq_false_iff_not]
    omega
  exact {
    notNegative := by simp [batchDims, Payload.isBelow, Payload.test]
    notBeyond
    vector := ⟨some 0, vector, rfl⟩
    offsetSorted := rfl
    offsetUnique := List.nodup_nil
    offsetNonneg := by simp [batchDims]
    collapsedSorted := rfl
    collapsedUnique := List.nodup_nil
    collapsedInRange := by simp [batchDims]
    batchingSorted := isSorted_iff.mpr (sorted.imp Int.le_of_lt)
    batchingUnique := sorted.imp Int.ne_of_lt
    batchingInRange := inRange
    collapsedApart := List.disjoint_nil_left _
    mapUnique := List.nodup_nil
    mapInRange := by simp [batchDims]
    mapApart := List.disjoint_nil_left _
    indicesBatching := batching }

theorem verifyMapping_batch (extents : List Int) {u : Unit} :
    verifyMapping operand (batchIndices extents) (batchDims extents.length).dual = .ok u ↔
      ∀ rank, operand.rank? = some rank → rank = extents.length := by
  rw [verifyMapping_eq_ok]
  constructor
  · rintro ⟨-, total⟩ rank found
    have sum := total rank found
    simpa [batchDims] using sum.symm
  · intro same
    refine ⟨valid_batchDims extents fun n found => (same n found).ge, ?_⟩
    intro rank found
    simp [batchDims, same rank found]

theorem verifyBatch_batch (extents : List Int) {dims : List Extent} {next : Nat} {u : Unit}
    (total : dims.length + next = extents.length) :
    verifyBatch (batchIndices extents) (batchDims extents.length).dual (dims.zipIdx next) next =
        .ok u ↔
      Shape.compatibleDims dims ((extents.drop next).map some) = true := by
  induction dims generalizing next with
  | nil =>
    have done : extents.drop next = [] := List.drop_of_length_le (by simpa using total.ge)
    simp [verifyBatch, done, Shape.compatibleDims]
  | cons dim rest ih =>
    rw [List.length_cons] at total
    have inside : next < extents.length := by omega
    have elsewhere : (batchDims extents.length).dual.indexVectorDim.isInt next = false := by
      simp only [batchDims, GatherDims.dual, Payload.isInt, beq_eq_false_iff_ne]
      omega
    have later := @ih (next + 1) (by omega)
    rw [List.drop_eq_getElem_cons inside, List.map_cons, Shape.compatibleDims, Bool.and_eq_true,
      ← later, List.zipIdx_cons, verifyBatch]
    have outside : (batchDims extents.length).dual.updateWindowDims.contains (Int.ofNat next) =
        false := rfl
    simp only [outside, elsewhere, dim_batchIndices extents inside, Check.ok_bind,
      Check.bind_eq_ok, Check.ensure_eq_ok, Bool.false_eq_true, if_false, exists_const]

theorem ensureBatchingExtents_batch (extents : List Int) {dims : List Extent} {u : Unit}
    (shape : operand.shape = .ranked dims) (length : dims.length = extents.length) :
    Mapping.ensureBatchingExtents operand (batchIndices extents) (positions extents.length)
        (positions extents.length) = .ok u ↔
      Shape.compatibleDims dims (extents.map some) = true := by
  have same : (positions extents.length).zip (positions extents.length) =
      (List.range extents.length).map fun i => (Int.ofNat i, Int.ofNat i) := by
    rw [positions, List.zip_map']
  rw [Shape.compatibleDims_iff_getElem?, Mapping.ensureBatchingExtents, Check.checkAll_eq_ok, same]
  simp only [List.forall_mem_map, List.mem_range, List.length_map, length, true_and]
  refine forall₂_congr fun i inside => ?_
  have dim : operand.dim i = .ok dims[i]?.join := by
    rw [Tensor.dim, shape]
    exact itemAt_eq_join (Int.natCast_nonneg i) (by omega)
  simp [dim, dim_batchIndices extents inside, List.getElem?_eq_getElem inside]

theorem verifyUpdate_batch (extents : List Int) {dims : List Extent} {u : Unit}
    (ranked : ∀ rank, operand.rank? = some rank → rank = extents.length) :
    verifyUpdate operand (batchIndices extents) dims (extents.length + 1)
        (batchDims extents.length).dual = .ok u ↔
      operand.shape.compatible (.ranked (extents.map some)) = true ∧
        Shape.compatibleDims dims (extents.map some) = true := by
  have batchRank : Mapping.batchRank (extents.length + 1)
      (batchDims extents.length).dual.indexVectorDim = .ok extents.length := by
    have below : Payload.isBelow (.int extents.length) ↑(extents.length + 1) = .ok true := by
      rw [Payload.isBelow, Payload.test, Except.ok.injEq, decide_eq_true_iff]
      omega
    rw [Mapping.batchRank, GatherDims.dual, batchDims, below]
    rfl
  have windows : verifyWindows operand.shape dims (batchDims extents.length).dual = .ok () := by
    cases operand.shape with
    | unranked => rfl
    | ranked bounds => simp [verifyWindows, batchDims, GatherDims.dual, checkAll]
  have batching : (if operand.hasRank = true then
      Mapping.ensureBatchingExtents operand (batchIndices extents) (positions extents.length)
        (positions extents.length) else pure ()) = .ok u ↔
      operand.shape.compatible (.ranked (extents.map some)) = true := by
    cases shape : operand.shape with
    | unranked => simp [Tensor.hasRank, shape, Shape.hasRank, Shape.compatible]
    | ranked bounds =>
      have length : bounds.length = extents.length :=
        ranked _ (by rw [Tensor.rank?, shape, Shape.rank?])
      simp only [Tensor.hasRank, shape, Shape.hasRank, if_true, Shape.compatible]
      exact ensureBatchingExtents_batch extents shape length
  have noWindow : Mapping.ensureInRange (batchDims extents.length).dual.updateWindowDims
      (some dims.length) "update_window_dims" "rank-of('updates')" = .ok () := rfl
  have count : (batchDims extents.length).dual.updateWindowDims.length + extents.length =
      extents.length := Nat.zero_add _
  simp only [verifyUpdate, batchRank, windows, noWindow, count, Check.ok_bind, Check.bind_eq_ok,
    Check.ensure_eq_ok]
  constructor
  · rintro ⟨_, length, _, agree, fits⟩
    rw [verifyBatch_batch extents (by omega), List.drop_zero] at agree
    exact ⟨batching.mp fits, agree⟩
  · rintro ⟨fits, agree⟩
    have length : dims.length = extents.length := by
      simpa using (Shape.compatibleDims_iff_getElem?.mp agree).1
    refine ⟨(), length, (), ?_, batching.mpr fits⟩
    rwa [verifyBatch_batch extents (by omega), List.drop_zero]

/-- A scatter of whole batches of known extents is accepted just when the operand and the update
    agree with these extents. An unranked update is not compared, and then nothing but the rank of
    the operand is. -/
theorem verifyTensors_batch (extents : List Int) {u : Unit} :
    verifyTensors operand (batchIndices extents) update (batchDims extents.length).dual = .ok u ↔
      (∀ rank, operand.rank? = some rank → rank = extents.length) ∧
      ∀ dims, update.shape = .ranked dims →
        operand.shape.compatible (.ranked (extents.map some)) = true ∧
          Shape.compatibleDims dims (extents.map some) = true := by
  simp only [verifyTensors, Check.bind_eq_ok, verifyMapping_batch, rank?_batchIndices]
  cases update.shape with
  | unranked => simp
  | ranked dims =>
    simp only [Shape.ranked.injEq, forall_eq']
    constructor
    · rintro ⟨-, ranked, fits⟩
      exact ⟨ranked, (verifyUpdate_batch extents ranked).mp fits⟩
    · rintro ⟨ranked, fits⟩
      exact ⟨(), ranked, (verifyUpdate_batch extents ranked).mpr fits⟩

theorem rank_of_compatible {extents : List Int}
    (agree : operand.shape.compatible (.ranked (extents.map some)) = true) :
    ∀ rank, operand.rank? = some rank → rank = extents.length := by
  intro rank found
  cases shape : operand.shape with
  | unranked => simp [Tensor.rank?, shape, Shape.rank?] at found
  | ranked dims =>
    rw [shape, Shape.compatible, Shape.compatibleDims_iff_getElem?] at agree
    rw [Tensor.rank?, shape, Shape.rank?, Option.some.injEq] at found
    rw [← found]
    simpa using agree.1

/-- The tensor of floating-point numbers with the given extents. -/
def batch (extents : List Int) : Tensor := ⟨.float .f32, .ranked (extents.map some)⟩

theorem verifyTensors_batch_update (extents : List Int) :
    verifyTensors operand (batchIndices extents) (batch extents) (batchDims extents.length).dual =
        .ok () ↔
      operand.shape.compatible (.ranked (extents.map some)) = true := by
  rw [verifyTensors_batch]
  constructor
  · rintro ⟨-, agree⟩
    exact (agree _ rfl).1
  · intro agree
    refine ⟨rank_of_compatible agree, ?_⟩
    rintro dims same
    obtain rfl := Shape.ranked.inj same
    exact ⟨agree, Shape.compatible_self (.ranked _)⟩

theorem verifyTensors_batch_operand (extents : List Int) :
    verifyTensors (batch extents) (batchIndices extents) update (batchDims extents.length).dual =
        .ok () ↔
      update.shape.compatible (.ranked (extents.map some)) = true := by
  rw [verifyTensors_batch]
  have self : (batch extents).shape.compatible (.ranked (extents.map some)) = true :=
    Shape.compatible_self _
  constructor
  · rintro ⟨-, agree⟩
    cases shape : update.shape with
    | unranked => rfl
    | ranked dims => exact (agree dims shape).2
  · intro agree
    refine ⟨rank_of_compatible self, fun dims same => ⟨self, ?_⟩⟩
    rwa [same] at agree

/-! ### Pair by pair -/

/-- A scatter of the updates into the inputs that is accepted is so for each input and its update
    alone. -/
def Separable (inputs updates : List Tensor) : Prop :=
  ∀ (indices : Tensor) (dims : ScatterDims),
    verify (inputs.map Tensor.ty) indices.ty (some (updates.map Tensor.ty)) (some dims) = .ok () →
      ∀ pair ∈ inputs.zip updates,
        verify [pair.1.ty] indices.ty (some [pair.2.ty]) (some dims) = .ok ()

/-- Only the shapes of the operand and of the update are looked at, so they may be refined ones. -/
theorem verifyTensors_of_refines {operand' update' : Tensor}
    (hoperand : operand'.shape.Refines operand.shape) (hupdate : update'.shape.Refines update.shape)
    (fits : verifyTensors operand' indices update' dims = .ok ()) :
    verifyTensors operand indices update dims = .ok () := by
  have operandRefines : Tensor.Refines ⟨operand.element, operand'.shape⟩ operand :=
    ⟨Ty.same_refl _, hoperand⟩
  have indicesRefines : indices.Refines indices := ⟨Ty.same_refl _, .refl _⟩
  have updateRefines : Tensor.Refines ⟨update.element, update'.shape⟩ update :=
    ⟨Ty.same_refl _, hupdate⟩
  obtain ⟨_, success, -⟩ :=
    verifyTensors_carries operandRefines indicesRefines updateRefines dims () fits
  exact success

/-- A scatter is acceptable pair by pair when the tensors that are checked in full say all. -/
theorem Leads.separable (hinputs : Leads inputs) (hupdates : Leads updates) :
    Separable inputs updates := by
  rintro indices dims accepted ⟨input, update⟩ member
  obtain ⟨-, -, integer, -, -, fits⟩ := verify_map_eq_ok.mp accepted
  obtain ⟨memberInput, memberUpdate⟩ := List.of_mem_zip member
  exact verify_pair_eq_ok.mpr ⟨integer, verifyTensors_of_refines (hinputs input memberInput)
    (hupdates update memberUpdate) fits⟩

theorem leads_replicate (count : Nat) (t : Tensor) : Leads (List.replicate count t) := by
  intro t' member
  obtain ⟨positive, rfl⟩ := List.mem_replicate.mp member
  rw [representative_replicate t' positive]
  exact .refl _

theorem alike_replicate (count : Nat) (t : Tensor) : Alike (List.replicate count t) := by
  intro t' member
  obtain ⟨positive, rfl⟩ := List.mem_replicate.mp member
  obtain ⟨n, rfl⟩ := Nat.exists_eq_succ_of_ne_zero positive
  exact Shape.compatible_self _

theorem leads_of_isStatic (formed : ∀ t ∈ tensors, t.WellFormed) (alike : Alike tensors)
    (static : (tensors.headD default).shape.isStatic = true) : Leads tensors := by
  cases tensors with
  | nil => exact fun _ member => absurd member List.not_mem_nil
  | cons first rest =>
    have ranked : first.hasRank = true := by
      obtain ⟨element, _ | dims⟩ := first
      · cases static
      · rfl
    have same : representative (first :: rest) = first := by
      simp [representative, firstRanked, ranked]
    intro t member
    rw [same]
    exact Shape.refines_of_isStatic (formed first List.mem_cons_self).shape static (alike t member)

/-- Inputs are led by the one that is checked if each of them is acceptable whenever they are
    accepted with equal updates. -/
theorem leads_of_separable_inputs (formed : ∀ t ∈ tensors, t.WellFormed) (alike : Alike tensors)
    (separable : ∀ update, Separable tensors (List.replicate tensors.length update)) :
    Leads tensors := by
  intro t member
  have nonempty := List.ne_nil_of_mem member
  have positive : tensors.length ≠ 0 := by simpa using nonempty
  rw [Shape.refines_iff_static (formed _ (representative_mem nonempty)).shape]
  intro extents _ agree
  have fits := (verifyTensors_batch_update extents).mpr agree
  rw [← representative_replicate (batch extents) positive] at fits
  have accepted := verify_map_eq_ok.mpr ⟨nonempty, List.length_replicate.symm, rfl, alike,
    alike_replicate _ _, fits⟩
  obtain ⟨i, inside, rfl⟩ := List.getElem_of_mem member
  have pair : (tensors[i], batch extents) ∈
      tensors.zip (List.replicate tensors.length (batch extents)) :=
    List.mem_iff_getElem?.mpr ⟨i, by simp [inside]⟩
  have alone := separable _ _ _ accepted _ pair
  exact (verifyTensors_batch_update extents).mp (verify_pair_eq_ok.mp alone).2

/-- Updates are led by the one that is checked if each of them is acceptable whenever they are
    accepted with equal inputs. -/
theorem leads_of_separable_updates (formed : ∀ t ∈ tensors, t.WellFormed) (alike : Alike tensors)
    (separable : ∀ input, Separable (List.replicate tensors.length input) tensors) :
    Leads tensors := by
  intro t member
  have nonempty := List.ne_nil_of_mem member
  have positive : tensors.length ≠ 0 := by simpa using nonempty
  rw [Shape.refines_iff_static (formed _ (representative_mem nonempty)).shape]
  intro extents _ agree
  have fits := (verifyTensors_batch_operand extents).mpr agree
  rw [← representative_replicate (batch extents) positive] at fits
  have accepted := verify_map_eq_ok.mpr ⟨by simpa using nonempty, List.length_replicate, rfl,
    alike_replicate _ _, alike, fits⟩
  obtain ⟨i, inside, rfl⟩ := List.getElem_of_mem member
  have pair : (batch extents, tensors[i]) ∈
      (List.replicate tensors.length (batch extents)).zip tensors :=
    List.mem_iff_getElem?.mpr ⟨i, by simp [inside]⟩
  have alone := separable _ _ _ accepted _ pair
  exact (verifyTensors_batch_operand extents).mp (verify_pair_eq_ok.mp alone).2

/-- An accepted scatter of several updates is acceptable for each input and its update alone if the
    input and the update that are checked in full say all that the others say. The condition on
    the inputs is needed for this to hold whatever the updates, and that on the updates for it to
    hold whatever the inputs. A first tensor of which all is known meets it. -/
theorem separable_iff_leads (inputs updates : List Tensor) :
    (Leads inputs → Leads updates → Separable inputs updates) ∧
    ((∀ t ∈ inputs, t.WellFormed) → Alike inputs →
      (Leads inputs ↔ ∀ updates', Leads updates' → Separable inputs updates') ∧
      ((inputs.headD default).shape.isStatic = true → Leads inputs)) ∧
    ((∀ t ∈ updates, t.WellFormed) → Alike updates →
      (Leads updates ↔ ∀ inputs', Leads inputs' → Separable inputs' updates) ∧
      ((updates.headD default).shape.isStatic = true → Leads updates)) := by
  refine ⟨Leads.separable, ?_, ?_⟩
  · intro formed alike
    refine ⟨⟨fun leads _ leads' => leads.separable leads', ?_⟩, leads_of_isStatic formed alike⟩
    intro separable
    exact leads_of_separable_inputs formed alike fun t => separable _ (leads_replicate _ t)
  · intro formed alike
    refine ⟨⟨fun leads _ leads' => leads'.separable leads, ?_⟩, leads_of_isStatic formed alike⟩
    intro separable
    exact leads_of_separable_updates formed alike fun t => separable _ (leads_replicate _ t)

theorem separable_iff_leads_matrices :
    let matrix : Tensor := ⟨.float .f32, .ranked [some 10, some 8]⟩
    let vector : Tensor := ⟨.float .f32, .ranked [some 7]⟩
    let unranked : Tensor := ⟨.float .f32, .unranked⟩
    let update : Tensor := ⟨.float .f32, .ranked [some 4, some 8]⟩
    let indices : Tensor := ⟨.i32, .ranked [some 4, some 1]⟩
    let dims : ScatterDims :=
      { updateWindowDims := [1], insertedWindowDims := [0], scatterDimsToOperandDims := [0],
        indexVectorDim := .int 1 }
    let inputs := [unranked, matrix, vector]
    verify (inputs.map Tensor.ty) indices.ty (some [update.ty, update.ty, update.ty])
        (some dims) = .ok () ∧
      verify [vector.ty] indices.ty (some [update.ty]) (some dims) ≠ .ok () ∧
      ¬ Leads inputs ∧
      verify [unranked.ty] indices.ty (some [update.ty]) (some dims) = .ok () := by
  intro matrix vector unranked update indices dims inputs
  have accepted : verify (inputs.map Tensor.ty) indices.ty
      (some ([update, update, update].map Tensor.ty)) (some dims) = .ok () := rfl
  have rejected : verify [vector.ty] indices.ty (some [update.ty]) (some dims) ≠ .ok () := by
    intro success
    cases success
  have formed : ∀ t ∈ [matrix, unranked], t.ty.WellFormed := by decide
  have alike : Alike [matrix, unranked] := by unfold Alike; decide
  have known : Leads [matrix, unranked] :=
    ((separable_iff_leads _ []).2.1 (fun t member => (formed t member).tensor? rfl) alike).2 rfl
  refine ⟨accepted, rejected, ?_, ?_⟩
  · intro leads
    have each := (separable_iff_leads inputs [update, update, update]).1 leads
      (leads_replicate 3 _) indices dims accepted
    exact rejected (each (vector, update) (by simp [inputs]))
  · exact (separable_iff_leads _ [update, update]).1 known (leads_replicate 2 _) indices dims rfl
      (unranked, update) (by simp)

end Scatter

end TensorTyping
