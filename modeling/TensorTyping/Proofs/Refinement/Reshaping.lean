import TensorTyping.Op.Reshaping
import TensorTyping.Op.Slicing
import TensorTyping.Proofs.Payload.Decode
import TensorTyping.Proofs.Refinement.Types

/-!
# Refinement of broadcasts, reshapes and slices

Operations that rearrange, stretch, pad or cut tensors give refined results on refined operands.
Where the rank of an operand is unknown it is taken from an attribute, or the result has no rank.
-/

namespace TensorTyping

open Check (Carries)

namespace Op

variable {operand' operand result' result : Ty}

/-! ### Broadcasts -/

theorem inferBroadcast_carries (sizes : Payload) (h : operand'.Refines operand) :
    Carries Ty.RefinesAll (inferBroadcast operand' sizes) (inferBroadcast operand sizes) := by
  refine (h.needTensor _ _).bind ?_
  intro t' t ht
  apply Carries.bind_same
  intro sizes _
  apply Carries.bind_same
  intro _ _
  obtain ⟨element', shape'⟩ := t'
  obtain ⟨element, shape⟩ := t
  obtain ⟨elements, shapes⟩ := ht
  cases shapes with
  | ranked dims =>
    have longer := List.rel_append (RefinesDims.refl (sizes.map some)) dims
    refine (Tensor.form_carries elements (.ranked longer)).bind ?_
    intro _ _ formed
    exact .pure (.cons formed.ty .nil)
  | unranked =>
    refine .to_ok ?_
    intro types success
    cases shape' with
    | unranked =>
      cases success
      exact .cons (.tensor elements (.unranked _)) .nil
    | ranked dims =>
      simp only [Check.bind_eq_ok, Tensor.form_eq_ok, Check.pure_eq, Except.ok.injEq] at success
      obtain ⟨_, ⟨-, -, rfl⟩, rfl⟩ := success
      exact .cons (.tensor elements (.unranked _)) .nil

/-- A dimension that is stretched or agrees with its target stays so when less is known. -/
theorem verifyBroadcastDim_carries {t' t r' r : Tensor} (ht : t'.Refines t) (hr : r'.Refines r)
    (i : Nat) (d : Int) :
    Carries (fun _ _ => True) (verifyBroadcastDim t' r' i d) (verifyBroadcastDim t r i d) := by
  refine (ht.dim i).bind ?_
  intro _ _ source
  refine (hr.dim d).bind ?_
  intro _ _ target
  refine (Carries.ensure ?_).mono fun _ _ _ => trivial
  rintro (one | agree)
  · rcases Extent.refines_iff.mp source with unknown | equal
    · rw [unknown]
      exact Or.inr (Extent.compatible_none_left _)
    · exact Or.inl (equal ▸ one)
  · exact Or.inr (source.compatible target agree)

theorem verifyBroadcastDims_carries {t' t r' r : Tensor} (ht : t'.Refines t) (hr : r'.Refines r)
    (dims : List Int) :
    Carries (fun _ _ => True) (verifyBroadcastDims t' r' dims)
      (verifyBroadcastDims t r dims) := by
  unfold verifyBroadcastDims
  rcases ht.rank?_eq_or with unknown | equal
  · rw [unknown]
    exact .to_ok fun _ _ => trivial
  rw [equal]
  cases t'.rank? with
  | none => exact .pure trivial
  | some rank =>
    refine (Carries.ensure id).bind ?_
    intro _ _ _
    rcases hr.rank?_eq_or with unknown' | equal'
    · rw [unknown']
      cases r'.rank? with
      | none => exact Dimensions.ensurePositions_carries dims _ (Or.inl rfl)
      | some resultRank =>
        refine .bind_left ?_
        intro _ _
        have positions := Dimensions.ensurePositions_carries dims "broadcast_dimensions"
          (Or.inl rfl : none = none ∨ none = some resultRank)
        exact positions.bind_discard fun _ _ _ _ _ => trivial
    · rw [equal']
      cases r'.rank? with
      | none => exact Dimensions.ensurePositions_carries dims _ (Or.inl rfl)
      | some resultRank =>
        refine (Carries.ensure id).bind ?_
        intro _ _ _
        refine (Dimensions.ensurePositions_carries dims _ (Or.inr rfl)).bind ?_
        intro _ _ _
        refine .checkEach (List.forall₂_same.mpr fun _ _ => rfl) ?_
        rintro i d _ rfl
        exact verifyBroadcastDim_carries ht hr i d

theorem BroadcastInDim.infer_carries (dimensions : Payload) (h : operand'.Refines operand)
    (hresult : result'.Refines result) :
    Carries Ty.RefinesAll (infer ⟨operand', dimensions, result'⟩)
      (infer ⟨operand, dimensions, result⟩) := by
  refine (h.needTensor _ _).bind ?_
  intro t' t ht
  refine (hresult.needTensor _ _).bind ?_
  intro r' r hr
  refine (Carries.ensure fun same => ?_).bind ?_
  · rwa [← Ty.same_congr ht.element hr.element]
  intro _ _ _
  apply Carries.bind_same
  intro dims _
  refine (verifyBroadcastDims_carries ht hr dims).bind ?_
  intro _ _ _
  exact .pure (.cons hr.ty .nil)

theorem shapeOperand_carries {t' t : Tensor} (h : t'.Refines t) (name : String) :
    Carries Extent.Refines (shapeOperand t' name) (shapeOperand t name) := by
  refine (Carries.ensure h.hasOtherRank).bind ?_
  intro _ _ _
  refine (Carries.ensure ?_).bind ?_
  · rw [Ty.isInteger_eq, Ty.isInteger_eq, Ty.kind?_of_same h.element]
    exact id
  intro _ _ _
  exact h.dim 0

theorem DynamicBroadcastInDim.infer_carries {dimensions knownExpanding knownNonexpanding : Payload}
    {output' output : Ty} (h : operand'.Refines operand) (houtput : output'.Refines output)
    (hresult : result'.Refines result) :
    Carries Ty.RefinesAll
      (infer ⟨operand', output', dimensions, result', knownExpanding, knownNonexpanding⟩)
      (infer ⟨operand, output, dimensions, result, knownExpanding, knownNonexpanding⟩) := by
  refine (h.needTensor _ _).bind ?_
  intro t' t ht
  refine (hresult.needTensor _ _).bind ?_
  intro r' r hr
  refine (houtput.needTensor _ _).bind ?_
  intro o' o ho
  refine (shapeOperand_carries ho _).bind ?_
  intro count' count hcount
  refine (Carries.ensure (hcount.compatible hr.rankExtent)).bind ?_
  intro _ _ _
  refine (Carries.ensure fun same => ?_).bind ?_
  · rwa [← Ty.same_congr ht.element hr.element]
  intro _ _ _
  apply Carries.bind_same
  intro dims _
  refine (verifyBroadcastDims_carries ht hr dims).bind ?_
  intro _ _ _
  apply Carries.bind_same
  intro expanding _
  apply Carries.bind_same
  intro nonexpanding _
  refine (Dimensions.ensurePositions_carries _ _ ht.rank?_eq_or).bind ?_
  intro _ _ _
  refine (Dimensions.ensurePositions_carries _ _ ht.rank?_eq_or).bind ?_
  intro _ _ _
  cases Dimensions.leastCommon? expanding nonexpanding with
  | none => exact .pure (.cons hr.ty .nil)
  | some d => exact .of_reject _ _ _

/-! ### Transposition, reversal and reshaping -/

theorem inferTranspose_carries (permutation : Payload) (h : operand'.Refines operand) :
    Carries Ty.RefinesAll (inferTranspose operand' permutation)
      (inferTranspose operand permutation) := by
  refine (h.needTensor _ _).bind ?_
  intro t' t ht
  apply Carries.bind_same
  intro permutation _
  refine (Carries.ensure id).bind ?_
  intro _ _ _
  obtain ⟨element', shape'⟩ := t'
  obtain ⟨element, shape⟩ := t
  obtain ⟨elements, shapes⟩ := ht
  cases shapes with
  | ranked dims =>
    refine (Carries.ensure fun count => ?_).bind ?_
    · rw [← dims.length_eq]
      exact count
    intro _ _ _
    refine (Carries.collect_same fun p _ => Carries.itemAt dims p).bind ?_
    intro _ _ permuted
    exact .pure (.cons (.tensor elements (.ranked permuted)) .nil)
  | unranked =>
    refine .to_ok ?_
    intro types success
    cases shape' with
    | unranked =>
      cases success
      exact .cons (.tensor elements (.refl _)) .nil
    | ranked dims =>
      simp only [Check.bind_eq_ok, Check.pure_eq, Except.ok.injEq] at success
      obtain ⟨-, -, permuted, collected, rfl⟩ := success
      refine .cons (.tensor elements (.ranked ?_)) .nil
      rw [← Check.length_of_collect collected]
      exact .of_unknown permuted

theorem inferReverse_carries (dimensions : Payload) (h : operand'.Refines operand) :
    Carries Ty.RefinesAll (inferReverse operand' dimensions)
      (inferReverse operand dimensions) := by
  refine (h.needTensor _ _).bind ?_
  intro t' t ht
  apply Carries.bind_same
  intro dims _
  refine (Dimensions.ensurePositions_carries dims _ ht.rank?_eq_or).bind ?_
  intro _ _ _
  exact .pure (.cons ht.ty .nil)

/-- A fold over extents that is known only when all of them are. -/
theorem foldl_known_refines (combine : Int → Int → Int) {dims' dims : List Extent}
    (h : RefinesDims dims' dims) {start' start : Extent} (hstart : start'.Refines start) :
    Extent.Refines
      (dims'.foldl (fun total dim => total.bind fun n => dim.map (combine n)) start')
      (dims.foldl (fun total dim => total.bind fun n => dim.map (combine n)) start) := by
  induction h generalizing start' start with
  | nil => exact hstart
  | cons first _ ih =>
    refine ih ?_
    cases hstart with
    | unknown => exact .unknown _
    | refl =>
      cases first with
      | refl => exact .refl _
      | unknown => cases start' <;> exact .unknown _

theorem size?_refines {s' s : Shape} (h : s'.Refines s) : Extent.Refines s'.size? s.size? := by
  cases h with
  | unranked => exact .unknown _
  | ranked dims => exact foldl_known_refines (· * ·) dims (.refl _)

theorem ensureSameSize_carries {s' s r' r : Shape} (hs : s'.Refines s) (hr : r'.Refines r) :
    Carries (fun _ _ => True) (ensureSameSize s' r') (ensureSameSize s r) := by
  unfold ensureSameSize
  rcases Extent.refines_iff.mp (size?_refines hs) with unknown | equal
  · rw [unknown]
    exact .to_ok fun _ _ => trivial
  · rcases Extent.refines_iff.mp (size?_refines hr) with unknown' | equal'
    · rw [unknown']
      cases s.size? <;> exact .to_ok fun _ _ => trivial
    · rw [equal, equal']
      cases s.size? with
      | none => exact .to_ok fun _ _ => trivial
      | some n =>
        cases r.size? with
        | none => exact .to_ok fun _ _ => trivial
        | some m => exact (Carries.ensure id).mono fun _ _ _ => trivial

theorem unknownShape_carries {rank' rank : Extent} (h : rank'.Refines rank) :
    Carries Shape.Refines (Dimensions.unknownShape rank') (Dimensions.unknownShape rank) := by
  cases h with
  | unknown => exact .to_ok fun shape _ => .unranked shape
  | refl =>
    refine (Carries.same _).mono ?_
    rintro shape _ ⟨rfl, -⟩
    exact .refl shape

theorem inferReshape_carries (h : operand'.Refines operand) (hresult : result'.Refines result) :
    Carries Ty.RefinesAll (inferReshape operand' result') (inferReshape operand result) := by
  refine (h.needTensor _ _).bind ?_
  intro t' t ht
  refine (hresult.needTensor _ _).bind ?_
  intro r' r hr
  refine (Carries.ensure fun same => ?_).bind ?_
  · rwa [← Ty.same_congr ht.element hr.element]
  intro _ _ _
  refine (ensureSameSize_carries ht.shape hr.shape).bind ?_
  intro _ _ _
  exact .pure (.cons hr.ty .nil)

theorem DynamicReshape.infer_carries {output' output : Ty} {declared' declared : Option Ty}
    (h : operand'.Refines operand) (houtput : output'.Refines output)
    (hdeclared : Option.Rel Ty.Refines declared' declared) :
    Carries Ty.RefinesAll (infer ⟨operand', output', declared'⟩)
      (infer ⟨operand, output, declared⟩) := by
  refine (h.needTensor _ _).bind ?_
  intro t' t ht
  refine (houtput.needTensor _ _).bind ?_
  intro o' o ho
  refine (shapeOperand_carries ho _).bind ?_
  intro rank' rank hrank
  refine (unknownShape_carries hrank).bind ?_
  intro shape' shape hshape
  cases hdeclared with
  | none => exact .pure (.cons (.tensor ht.element hshape) .nil)
  | some hdeclared =>
    refine (hdeclared.needTensor _ _).bind ?_
    intro r' r hr
    refine (Carries.ensure fun same => ?_).bind ?_
    · rwa [← Ty.same_congr hr.element ht.element]
    intro _ _ _
    refine (Carries.ensure (hrank.compatible hr.rankExtent)).bind ?_
    intro _ _ _
    refine (ensureSameSize_carries ht.shape hr.shape).bind ?_
    intro _ _ _
    exact .pure (.cons hr.ty .nil)

/-! ### Concatenation -/

/-- Extents agree when their known values do, and then they agree on the common value. -/
theorem agreeExtents?_eq_some {dims : List Extent} {dim : Extent} :
    agreeExtents? dims = some dim ↔ dim.IsCommon dims := by
  have known : ∀ n, n ∈ dims.filterMap id ↔ some n ∈ dims := by simp
  simp only [Extent.IsCommon, ← known]
  unfold agreeExtents?
  cases dims.filterMap id with
  | nil => cases dim <;> simp
  | cons first rest =>
    by_cases all : ∀ n ∈ rest, n = first
    · have agree : rest.all (· == first) = true := by simpa using all
      have member : ∀ n, n ∈ first :: rest ↔ n = first := by
        intro n
        rw [List.mem_cons, or_iff_left_iff_imp]
        exact all n
      simp only [agree, if_true, Option.some.injEq, member]
      constructor
      · rintro rfl n
        rw [Option.some.injEq, eq_comm]
      · intro common
        exact ((common first).mpr rfl).symm
    · have differ : ¬rest.all (· == first) = true := by simpa using all
      dsimp only
      rw [if_neg differ]
      constructor
      · rintro ⟨⟩
      · intro common
        refine absurd (fun n member => ?_) all
        have head := (common first).mpr List.mem_cons_self
        have later := (common n).mpr (List.mem_cons_of_mem _ member)
        rw [head] at later
        exact (Option.some.inj later).symm

/-- Extents that agree keep agreeing when some of them are forgotten. -/
theorem agreeExtents?_refines {dims' dims : List Extent} {dim' : Extent}
    (known : ∀ n, some n ∈ dims → some n ∈ dims') (agree : agreeExtents? dims' = some dim') :
    ∃ dim, agreeExtents? dims = some dim ∧ dim'.Refines dim := by
  have common := agreeExtents?_eq_some.mp agree
  by_cases some_known : ∃ n, some n ∈ dims
  · obtain ⟨n, member⟩ := some_known
    obtain rfl := (common n).mpr (known n member)
    refine ⟨some n, agreeExtents?_eq_some.mpr fun m => ⟨?_, ?_⟩, .refl _⟩
    · rintro ⟨⟩
      exact member
    · intro member'
      exact (common m).mpr (known m member')
  · refine ⟨none, agreeExtents?_eq_some.mpr fun n => ⟨?_, ?_⟩, .unknown _⟩
    · rintro ⟨⟩
    · intro member
      exact absurd ⟨n, member⟩ some_known

theorem filterMap_dims?_unranked (element : Ty) (rest : List Tensor) :
    (Tensor.mk element .unranked :: rest).filterMap (fun t => t.shape.dims?) =
      rest.filterMap fun t => t.shape.dims? := rfl

theorem filterMap_dims?_ranked (element : Ty) (dims : List Extent) (rest : List Tensor) :
    (Tensor.mk element (.ranked dims) :: rest).filterMap (fun t => t.shape.dims?) =
      dims :: rest.filterMap fun t => t.shape.dims? := rfl

/-- The shapes of the tensors that have a rank. -/
theorem filterMap_dims?_filter_hasRank (tensors : List Tensor) :
    (tensors.filter Tensor.hasRank).filterMap (fun t => t.shape.dims?) =
      tensors.filterMap fun t => t.shape.dims? := by
  induction tensors with
  | nil => rfl
  | cons t rest ih =>
    obtain ⟨element, shape⟩ := t
    cases shape with
    | unranked =>
      rw [List.filter_cons_of_neg (by simp [Tensor.hasRank, Shape.hasRank]),
        filterMap_dims?_unranked, ih]
    | ranked dims =>
      rw [List.filter_cons_of_pos rfl, filterMap_dims?_ranked, filterMap_dims?_ranked, ih]

/-- When all coarse tensors have a rank, so have the finer ones, and their extents are refined. -/
theorem filterMap_dims?_refines {tensors' tensors : List Tensor}
    (all : List.Forall₂ Tensor.Refines tensors' tensors)
    (full : (tensors.filterMap fun t => t.shape.dims?).length = tensors.length) :
    List.Forall₂ RefinesDims (tensors'.filterMap fun t => t.shape.dims?)
        (tensors.filterMap fun t => t.shape.dims?) ∧
      (tensors'.filterMap fun t => t.shape.dims?).length = tensors'.length := by
  induction all with
  | nil => exact ⟨.nil, rfl⟩
  | @cons t' t _ rest first _ ih =>
    obtain ⟨element', shape'⟩ := t'
    obtain ⟨element, shape⟩ := t
    cases first.shape with
    | unranked =>
      have short := List.length_filterMap_le (fun t : Tensor => t.shape.dims?) rest
      rw [filterMap_dims?_unranked, List.length_cons] at full
      omega
    | ranked dims =>
      rw [filterMap_dims?_ranked, List.length_cons, List.length_cons] at full
      obtain ⟨refines, full'⟩ := ih (Nat.succ.inj full)
      rw [filterMap_dims?_ranked, filterMap_dims?_ranked, List.length_cons, full']
      exact ⟨.cons dims refines, rfl⟩

/-- A coarse tensor that has a rank is refined by one of the same rank. -/
theorem exists_dims?_of_refines {tensors' tensors : List Tensor}
    (all : List.Forall₂ Tensor.Refines tensors' tensors) {dims : List Extent}
    (member : dims ∈ tensors.filterMap fun t => t.shape.dims?) :
    ∃ dims' ∈ tensors'.filterMap fun t => t.shape.dims?, RefinesDims dims' dims := by
  obtain ⟨⟨element, shape⟩, member, known⟩ := List.mem_filterMap.mp member
  obtain ⟨⟨element', shape'⟩, member', refines⟩ := Check.exists_left_of_forall₂ all member
  cases refines.shape with
  | unranked => cases known
  | @ranked dims' _ hdims =>
    cases known
    exact ⟨dims', List.mem_filterMap.mpr ⟨_, member', rfl⟩, hdims⟩

/-- The extents of one dimension, which all of the shapes have. -/
theorem collect_dim_eq_ok {shapes : List (List Extent)} {d : Nat} {dims : List Extent} :
    collect (itemAt · d) shapes = .ok dims ↔
      (∀ shape ∈ shapes, d < shape.length) ∧ dims = shapes.map fun shape => shape[d]?.join := by
  simp only [Check.collect_eq_ok, itemAt_natCast_eq_ok]
  constructor
  · intro each
    induction each with
    | nil => simp
    | cons first _ ih =>
      refine ⟨List.forall_mem_cons.mpr ⟨(List.getElem?_eq_some_iff.mp first).1, ih.1⟩, ?_⟩
      rw [List.map_cons, first, Option.join_some, ← ih.2]
  · rintro ⟨inside, rfl⟩
    refine List.forall₂_map_right_iff.mpr (List.forall₂_same.mpr fun shape member => ?_)
    rw [List.getElem?_eq_getElem (inside shape member), Option.join_some]

/-- An extent that is known of a coarse tensor is known of the finer one. -/
theorem known_extent_of_refines {tensors' tensors : List Tensor}
    (all : List.Forall₂ Tensor.Refines tensors' tensors) (d : Nat) (n : Int)
    (member : some n ∈ (tensors.filterMap fun t => t.shape.dims?).map
      fun shape : List Extent => (shape[d]?.join : Extent)) :
    some n ∈ (tensors'.filterMap fun t => t.shape.dims?).map
      fun shape : List Extent => (shape[d]?.join : Extent) := by
  induction all with
  | nil => exact member
  | @cons t' t rest' rest first _ ih =>
    obtain ⟨element', shape'⟩ := t'
    obtain ⟨element, shape⟩ := t
    cases first.shape with
    | unranked =>
      rw [filterMap_dims?_unranked] at member
      cases shape' with
      | unranked => exact ih member
      | ranked dims => exact List.mem_cons_of_mem _ (ih member)
    | ranked dims =>
      rw [filterMap_dims?_ranked, List.map_cons, List.mem_cons] at member
      rw [filterMap_dims?_ranked, List.map_cons, List.mem_cons]
      rcases member with head | tail
      · have refines := dims.getElem?_join d
        rw [← head] at refines
        exact Or.inl refines.eq_some.symm
      · exact Or.inr (ih tail)

theorem sumExtents_refines {dims' dims : List Extent} (h : RefinesDims dims' dims) :
    Extent.Refines (sumExtents dims') (sumExtents dims) :=
  foldl_known_refines (· + ·) h (.refl _)

theorem concatenatedExtent_carries {tensors' tensors : List Tensor} (dimension : Payload) (d : Nat)
    (all : List.Forall₂ Tensor.Refines tensors' tensors) :
    Carries Extent.Refines
      (concatenatedExtent (tensors'.filterMap fun t => t.shape.dims?)
        ((tensors'.filterMap fun t => t.shape.dims?).length != tensors'.length) dimension d)
      (concatenatedExtent (tensors.filterMap fun t => t.shape.dims?)
        ((tensors.filterMap fun t => t.shape.dims?).length != tensors.length) dimension d) := by
  refine .bind_left ?_
  intro dims' collected
  obtain ⟨inside', rfl⟩ := collect_dim_eq_ok.mp collected
  have inside : ∀ shape ∈ tensors.filterMap fun t => t.shape.dims?, d < shape.length := by
    intro shape member
    obtain ⟨shape', member', refines⟩ := exists_dims?_of_refines all member
    rw [← refines.length_eq]
    exact inside' shape' member'
  refine .bind_right (collect_dim_eq_ok.mpr ⟨inside, rfl⟩) ?_
  split
  · -- The extents are summed up, unless a tensor has no rank.
    refine .pure ?_
    by_cases full : (tensors.filterMap fun t => t.shape.dims?).length = tensors.length
    · obtain ⟨refines, full'⟩ := filterMap_dims?_refines all full
      rw [full, full']
      simp only [bne_self_eq_false, Bool.false_eq_true, if_false]
      apply sumExtents_refines
      rw [RefinesDims, List.forall₂_map_left_iff, List.forall₂_map_right_iff]
      exact refines.imp fun _ _ dims => dims.getElem?_join d
    · rw [if_pos (bne_iff_ne.mpr full)]
      exact .unknown _
  · cases agree : agreeExtents? _ with
    | none => exact .of_reject _ _ _
    | some dim' =>
      obtain ⟨dim, agree', refines⟩ :=
        agreeExtents?_refines (fun n => known_extent_of_refines all d n) agree
      rw [agree']
      exact .pure refines

/-- The rank of the first tensor that has one is the rank of one of the tensors. -/
theorem exists_of_head?_rank {tensors : List Tensor} {rank : Nat}
    (found : (tensors.filter Tensor.hasRank).head?.bind Tensor.rank? = some rank) :
    ∃ t ∈ tensors, t.rank? = some rank := by
  obtain ⟨t, head, known⟩ := Option.bind_eq_some_iff.mp found
  exact ⟨t, (List.mem_filter.mp (List.mem_of_head? head)).1, known⟩

theorem hasRank_iff {t : Tensor} : t.hasRank = true ↔ ∃ rank, t.rank? = some rank := by
  obtain ⟨element, shape⟩ := t
  cases shape <;> simp [Tensor.rank?, Tensor.hasRank, Shape.rank?, Shape.hasRank]

theorem exists_head?_rank {tensors : List Tensor} {t : Tensor} (member : t ∈ tensors)
    (ranked : t.hasRank = true) :
    ∃ rank, (tensors.filter Tensor.hasRank).head?.bind Tensor.rank? = some rank := by
  have member' : t ∈ tensors.filter Tensor.hasRank := List.mem_filter.mpr ⟨member, ranked⟩
  cases kept : tensors.filter Tensor.hasRank with
  | nil => simp [kept] at member'
  | cons head rest =>
    have hasRank : head.hasRank = true :=
      (List.mem_filter.mp (kept ▸ List.mem_cons_self : head ∈ tensors.filter Tensor.hasRank)).2
    exact hasRank_iff.mp hasRank

theorem concatenateTensors_carries {first' first : Tensor} {tensors' tensors : List Tensor}
    (dimension : Payload) (hfirst : first'.Refines first)
    (all : List.Forall₂ Tensor.Refines tensors' tensors) :
    Carries Tensor.Refines (concatenateTensors first' tensors' dimension)
      (concatenateTensors first tensors dimension) := by
  refine (Carries.checkEach all ?_).bind ?_
  · intro i t' t ht
    refine (Carries.ensure fun same => ?_).mono fun _ _ _ => trivial
    rwa [← Ty.same_congr ht.element hfirst.element]
  intro _ _ _
  dsimp only
  simp only [filterMap_dims?_filter_hasRank]
  cases found : (tensors.filter Tensor.hasRank).head?.bind Tensor.rank? with
  | none =>
    cases (tensors'.filter Tensor.hasRank).head?.bind Tensor.rank? with
    | none => exact .pure ⟨hfirst.element, .unranked _⟩
    | some rank =>
      refine .bind_left fun _ _ => .bind_left fun _ _ => .bind_left fun _ _ => .bind_left ?_
      intro dims _
      exact .pure ⟨hfirst.element, .unranked _⟩
  | some rank =>
    -- A coarse tensor of this rank comes from a finer one of the same rank, and all finer tensors
    -- were found to have one rank.
    obtain ⟨t, member, known⟩ := exists_of_head?_rank found
    obtain ⟨t', member', refines⟩ := Check.exists_left_of_forall₂ all member
    have known' : t'.rank? = some rank := refines.shape.rank?_eq_some known
    obtain ⟨rank', found'⟩ := exists_head?_rank member' (hasRank_iff.mpr ⟨rank, known'⟩)
    rw [found']
    refine .bind_left ?_
    intro _ success
    simp only [Check.checkAll_eq_ok, Check.ensure_eq_ok, List.mem_filter] at success
    have ranks : ∀ t' ∈ tensors', ∀ n, t'.rank? = some n → n = rank' := by
      intro t' member n known
      have equal := success t' ⟨member, hasRank_iff.mpr ⟨n, known⟩⟩
      exact Option.some.inj (known.symm.trans equal)
    obtain rfl := ranks t' member' rank known'
    refine .bind_right (c := ()) ?_ ?_
    · simp only [Check.checkAll_eq_ok, Check.ensure_eq_ok, List.mem_filter, hasRank_iff]
      rintro t ⟨member, n, known⟩
      obtain ⟨t', member', refines⟩ := Check.exists_left_of_forall₂ all member
      rw [known, ranks t' member' n (refines.shape.rank?_eq_some known)]
    apply Carries.bind_same
    intro inRange _
    refine (Carries.ensure id).bind ?_
    intro _ _ _
    refine (Carries.collect_same fun d _ => concatenatedExtent_carries dimension d all).bind ?_
    intro dims' dims hdims
    exact .pure ⟨hfirst.element, .ranked hdims⟩

theorem inferConcatenate_carries {inputs' inputs : List Ty} (dimension : Payload)
    (all : Ty.RefinesAll inputs' inputs) :
    Carries Ty.RefinesAll (inferConcatenate inputs' dimension)
      (inferConcatenate inputs dimension) := by
  refine (Carries.collect all fun _ _ h => h.needTensor _ _).bind ?_
  intro tensors' tensors views
  cases views with
  | nil => exact .of_reject _ _ _
  | cons first rest =>
    apply Carries.bind_same
    intro negative _
    refine (Carries.ensure id).bind ?_
    intro _ _ _
    refine (concatenateTensors_carries dimension first (.cons first rest)).bind ?_
    intro _ _ joined
    exact .pure (.cons joined.ty .nil)

/-! ### Padding -/

theorem PadDim.extent_carries (i : Nat) (pad : PadDim) {dim' dim : Extent}
    (h : dim'.Refines dim) :
    Carries Extent.Refines (PadDim.extent i pad dim') (PadDim.extent i pad dim) := by
  refine (Carries.ensure id).bind ?_
  intro _ _ _
  cases h with
  | unknown => exact .to_ok fun dim _ => .unknown dim
  | refl =>
    refine (Carries.same _).mono ?_
    rintro dim _ ⟨rfl, -⟩
    exact .refl dim

/-- The low padding has as many elements as the operand dimensions, or is not given. -/
theorem Pad.decode_low {op : Pad} {rank : Nat} {pads : List PadDim}
    (decoded : op.decode rank = .ok pads) :
    ∃ low, op.edgeLow.decodeInts "edge_padding_low" = .ok low ∧
      (low.isEmpty = true ∨ low.length = rank) := by
  simp only [Pad.decode, Check.bind_eq_ok] at decoded
  obtain ⟨low, success, -⟩ := decoded
  rcases Payload.decodeIntsOr_eq_ok.mp success with ⟨absent, -⟩ | ⟨-, decoded, count⟩
  · rw [absent]
    exact ⟨[], rfl, Or.inl rfl⟩
  · exact ⟨low, decoded, Or.inr count⟩

theorem padded_carries {t' t : Tensor} (ht : t'.Refines t) (decoded : Check (List PadDim)) :
    Carries Ty.RefinesAll
      (do
        let pads ← decoded
        let dims ← collect (fun item => do PadDim.extent item.2 item.1 (← t'.dim item.2))
          pads.zipIdx
        return [(← Tensor.form t'.element (.ranked dims)).ty])
      (do
        let pads ← decoded
        let dims ← collect (fun item => do PadDim.extent item.2 item.1 (← t.dim item.2))
          pads.zipIdx
        return [(← Tensor.form t.element (.ranked dims)).ty]) := by
  apply Carries.bind_same
  intro pads _
  refine (Carries.collect_same fun item _ =>
    (ht.dim item.2).bind fun _ _ dim => PadDim.extent_carries item.2 item.1 dim).bind ?_
  intro dims' dims hdims
  refine (Tensor.form_carries ht.element (.ranked hdims)).bind ?_
  intro _ _ formed
  exact .pure (.cons formed.ty .nil)

theorem Pad.infer_carries {value' value : Ty} (edgeLow edgeHigh interior : Payload)
    (h : operand'.Refines operand) (hvalue : value'.Refines value) :
    Carries Ty.RefinesAll (infer ⟨operand', value', edgeLow, edgeHigh, interior⟩)
      (infer ⟨operand, value, edgeLow, edgeHigh, interior⟩) := by
  refine (h.needTensor _ _).bind ?_
  intro t' t ht
  refine (hvalue.needTensor _ _).bind ?_
  intro v' v hv
  refine (Carries.ensure hv.hasOtherRank).bind ?_
  intro _ _ _
  refine (Carries.ensure fun same => ?_).bind ?_
  · rwa [← Ty.same_congr hv.element ht.element]
  intro _ _ _
  unfold Pad.rank
  rcases ht.rank?_eq_or with unknown | equal
  · rw [unknown]
    cases known : t'.rank? with
    | none =>
      apply Carries.bind_same
      intro rank _
      cases rank with
      | none => exact .pure (.cons ht.ty .nil)
      | some rank => exact padded_carries ht _
    | some rank =>
      -- The finer run has decoded the low padding, from which the coarse one takes the rank.
      simp only [Check.pure_eq, Check.ok_bind]
      intro types success
      have padded := success
      simp only [Check.bind_eq_ok, Tensor.form_eq_ok, Except.ok.injEq] at padded
      obtain ⟨pads, decoded, dims, -, _, ⟨-, -, rfl⟩, rfl⟩ := padded
      obtain ⟨low, decodedLow, count⟩ := Pad.decode_low decoded
      dsimp only at decodedLow
      rw [decodedLow, Check.ok_bind, Check.ok_bind]
      by_cases empty : low.isEmpty = true
      · rw [if_pos empty]
        refine ⟨_, rfl, .cons (.tensor ht.element ?_) .nil⟩
        rw [Shape.rank?_eq_none.mp unknown]
        exact .unranked _
      · obtain rfl := count.resolve_left empty
        rw [if_neg empty]
        exact padded_carries ht _ _ success
  · rw [equal]
    apply Carries.bind_same
    intro rank _
    cases rank with
    | none => exact .pure (.cons ht.ty .nil)
    | some rank => exact padded_carries ht _

/-! ### Slicing -/

theorem SliceDim.extent_carries (i : Nat) (slice : SliceDim) {bound' bound : Extent}
    (h : bound'.Refines bound) :
    Carries Extent.Refines (SliceDim.extent i slice bound') (SliceDim.extent i slice bound) := by
  cases h with
  | refl =>
    refine (Carries.same _).mono ?_
    rintro dim _ ⟨rfl, -⟩
    exact .refl dim
  | unknown =>
    refine (Carries.ensure id).bind ?_
    intro _ _ _
    refine (Carries.ensure id).bind ?_
    intro _ _ _
    cases bound' with
    | none =>
      refine (Carries.same _).mono ?_
      rintro dim _ ⟨rfl, -⟩
      exact .refl dim
    | some n =>
      refine .bind_left ?_
      intro _ _
      refine (Carries.ensure id).bind ?_
      intro _ _ _
      apply Carries.bind_same
      intro size _
      exact .pure (.refl _)

/-- The slices along the single dimensions have the decoded starts, limits and strides, of which
    there are as many as the operand has dimensions, when its rank is known. -/
theorem Slice.decode_eq_ok {op : Slice} {rank? : Option Nat} {slices : List SliceDim} :
    op.decode rank? = .ok slices ↔
      ∃ starts limits strides : List Int, op.starts.decodeInts "start_indices" = .ok starts ∧
        op.limits.decodeInts "limit_indices" = .ok limits ∧
        op.strides.decodeIntsOr "strides" starts.length 1 = .ok strides ∧
        limits.length = starts.length ∧ (∀ n, rank? = some n → starts.length = n) ∧
        slices = (starts.zip (limits.zip strides)).map fun item =>
          ⟨item.1, item.2.1, item.2.2⟩ := by
  simp only [decode, Check.bind_eq_ok, Payload.ensureCount, Check.ensure_eq_ok, Payload.isInt_int,
    Int.ofNat_inj]
  constructor
  · rintro ⟨starts, hstarts, limits, hlimits, strides, hstrides, -, count, -, limitCount, read⟩
    rw [count] at hstrides limitCount
    rw [count, collect_itemAt_range SliceDim.mk rfl limitCount.symm
      (Payload.length_of_decodeIntsOr hstrides)] at read
    obtain rfl := Except.ok.inj read
    have known : ∀ n, rank? = some n → starts.length = n := by
      rintro n rfl
      exact count.symm
    exact ⟨starts, limits, strides, (Payload.decodeInts_arity_eq_ok.mp hstarts).1,
      (Payload.decodeInts_arity_eq_ok.mp hlimits).1, hstrides, limitCount.symm, known, rfl⟩
  · rintro ⟨starts, limits, strides, hstarts, hlimits, hstrides, limitCount, known, rfl⟩
    have count : rank?.getD starts.length = starts.length := by
      cases rank? with
      | none => rfl
      | some n => exact (known n rfl).symm
    have arity : Payload.ofExtent (rank?.map Int.ofNat) = .null ∨
        (Payload.ofExtent (rank?.map Int.ofNat)).isInt starts.length = true := by
      cases rank? with
      | none => exact .inl rfl
      | some n => exact .inr (Payload.isInt_int.mpr (congrArg Int.ofNat count))
    refine ⟨starts, Payload.decodeInts_arity_eq_ok.mpr ⟨hstarts, .inr arity⟩, limits, ?_⟩
    rw [count]
    refine ⟨Payload.decodeInts_arity_eq_ok.mpr ⟨hlimits, .inr (.inr ?_)⟩, strides, hstrides, (),
      rfl, (), limitCount.symm, collect_itemAt_range SliceDim.mk rfl limitCount
        (Payload.length_of_decodeIntsOr hstrides)⟩
    rw [limitCount]
    exact Payload.isInt_int.mpr rfl

/-- The start indices say how many dimensions the operand has, known or not. -/
theorem Slice.decode_none {op : Slice} {rank : Nat} {slices : List SliceDim}
    (decoded : op.decode (some rank) = .ok slices) : op.decode none = .ok slices := by
  obtain ⟨starts, limits, strides, hstarts, hlimits, hstrides, counts, -, rfl⟩ :=
    decode_eq_ok.mp decoded
  exact decode_eq_ok.mpr ⟨starts, limits, strides, hstarts, hlimits, hstrides, counts, by simp, rfl⟩

theorem Slice.infer_carries (starts limits strides : Payload) (h : operand'.Refines operand) :
    Carries Ty.RefinesAll (infer ⟨operand', starts, limits, strides⟩)
      (infer ⟨operand, starts, limits, strides⟩) := by
  refine (h.needTensor _ _).bind ?_
  intro t' t ht
  have decode : Carries (fun a b => a = b)
      (Slice.decode ⟨operand', starts, limits, strides⟩ t'.rank?)
      (Slice.decode ⟨operand, starts, limits, strides⟩ t.rank?) := by
    intro slices decoded
    refine ⟨slices, ?_, rfl⟩
    rcases ht.rank?_eq_or with unknown | equal
    · rw [unknown]
      cases known : t'.rank? with
      | none => exact known ▸ decoded
      | some rank => exact Slice.decode_none (known ▸ decoded)
    · rw [equal]
      exact decoded
  refine decode.bind ?_
  rintro slices _ rfl
  refine (Carries.collect_same fun item _ =>
    (ht.dim item.2).bind fun _ _ bound => SliceDim.extent_carries item.2 item.1 bound).bind ?_
  intro dims' dims hdims
  refine (Tensor.form_carries ht.element (.ranked hdims)).bind ?_
  intro _ _ formed
  exact .pure (.cons formed.ty .nil)

theorem RealDynamicSlice.verifyPositions_carries {t' t : Tensor} {value' value : Ty}
    (ht : t'.Refines t) (name : String) (h : value'.Refines value) :
    Carries Tensor.Refines (verifyPositions t' name value') (verifyPositions t name value) := by
  refine (h.needTensor _ _).bind ?_
  intro v' v hv
  refine (shapeOperand_carries hv name).bind ?_
  intro count' count hcount
  refine (Carries.ensure (hcount.compatible ht.rankExtent)).bind ?_
  intro _ _ _
  exact .pure hv

theorem RealDynamicSlice.infer_carries {starts' starts limits' limits strides' strides : Ty}
    (h : operand'.Refines operand) (hstarts : starts'.Refines starts)
    (hlimits : limits'.Refines limits) (hstrides : strides'.Refines strides) :
    Carries Ty.RefinesAll (infer ⟨operand', starts', limits', strides'⟩)
      (infer ⟨operand, starts, limits, strides⟩) := by
  refine (h.needTensor _ _).bind ?_
  intro t' t ht
  refine (verifyPositions_carries ht _ hstarts).bind ?_
  intro _ _ first
  refine (verifyPositions_carries ht _ hlimits).bind ?_
  intro _ _ second
  refine (verifyPositions_carries ht _ hstrides).bind ?_
  intro _ _ third
  refine (Ty.unifyTensorList_carries (.cons first (.cons second (.cons third .nil)))).bind ?_
  intro _ _ _
  rcases ht.rank?_eq_or with unknown | equal
  · rw [unknown]
    refine .to_ok ?_
    intro types success
    have unranked : ∀ shape : Shape, shape.Refines t.shape := by
      rw [Shape.rank?_eq_none.mp unknown]
      exact .unranked
    cases known : t'.rank? with
    | none =>
      simp only [known, Check.pure_eq, Except.ok.injEq] at success
      subst success
      exact .cons (.tensor ht.element (unranked _)) .nil
    | some rank =>
      simp only [known, Check.pure_eq, Except.ok.injEq] at success
      subst success
      exact .cons (.tensor ht.element (unranked _)) .nil
  · rw [equal]
    cases t'.rank? with
    | none => exact .pure (.cons ht.ty .nil)
    | some rank => exact .pure (.cons (.tensor ht.element (.refl _)) .nil)

end Op

end TensorTyping
