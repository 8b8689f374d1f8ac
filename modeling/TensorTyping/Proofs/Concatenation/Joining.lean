import TensorTyping.Proofs.Refinement.Reshaping
import TensorTyping.Proofs.Size

/-!
# Joining tensors in steps

A concatenation looks at its inputs dimension by dimension. Along the joined dimension their extents
are summed up, along any other the known ones have to agree, and an input without a rank has only
unknown extents. `JoinsDims`, `JoinsShapes` and `Joins` say so of extents, shapes and tensors. None
of them depends on the order of the inputs, and some of the inputs can be joined beforehand.
-/

namespace TensorTyping

open Check

namespace Op

/-! ### Sums of extents -/

section Sums

variable {dims a b : List Extent} {n : Int}

theorem sumExtents_eq_some :
    sumExtents dims = some n ↔ ∃ values : List Int, dims = values.map some ∧ values.sum = n := by
  simp only [List.sum_eq_foldl]
  exact Extent.foldl_known_eq_some

theorem sumExtents_of_unknown (unknown : none ∈ dims) : sumExtents dims = none := by
  cases total : sumExtents dims with
  | none => rfl
  | some n =>
    obtain ⟨values, rfl, -⟩ := sumExtents_eq_some.mp total
    simp at unknown

theorem sumExtents_eq_some_of_perm (perm : a.Perm b) (total : sumExtents b = some n) :
    sumExtents a = some n := by
  obtain ⟨values, rfl, rfl⟩ := sumExtents_eq_some.mp total
  obtain ⟨values', known, moved⟩ := exists_map_of_perm perm
  exact sumExtents_eq_some.mpr ⟨values', known, moved.sum_eq⟩

theorem sumExtents_perm (perm : a.Perm b) : sumExtents a = sumExtents b :=
  Option.ext fun _ => ⟨sumExtents_eq_some_of_perm perm.symm, sumExtents_eq_some_of_perm perm⟩

/-- Some of the extents can be summed up beforehand. -/
theorem sumExtents_append (a b : List Extent) :
    sumExtents (a ++ b) = sumExtents (sumExtents a :: b) := by
  ext n
  rw [sumExtents_eq_some, sumExtents_eq_some]
  constructor
  · rintro ⟨_, known, rfl⟩
    obtain ⟨first, second, rfl, rfl, rfl⟩ := List.append_eq_map_iff.mp known
    refine ⟨first.sum :: second, ?_, by rw [List.sum_cons, List.sum_append]⟩
    rw [List.map_cons, sumExtents_eq_some.mpr ⟨first, rfl, rfl⟩]
  · rintro ⟨_, known, rfl⟩
    obtain ⟨total, second, rfl, summed, rfl⟩ := List.map_eq_cons_iff.mp known.symm
    obtain ⟨first, rfl, rfl⟩ := sumExtents_eq_some.mp summed.symm
    exact ⟨first ++ second, List.map_append.symm, by rw [List.sum_cons, List.sum_append]⟩

end Sums

/-! ### Extents along one dimension -/

/-- Inputs that have the given extents in dimension `i` are joined to an extent. -/
def JoinsDims (dimension : Payload) (i : Nat) (dims : List Extent) (dim : Extent) : Prop :=
  if dimension.isInt i then dim = sumExtents dims else dim.IsCommon dims

section Dims

variable {dimension : Payload} {i : Nat} {dims a b : List Extent} {dim result : Extent}

theorem joinsDims_self (along : dimension.isInt i = true) :
    JoinsDims dimension i dims dim ↔ dim = sumExtents dims := by
  rw [JoinsDims, if_pos along]

theorem joinsDims_other (other : ¬dimension.isInt i = true) :
    JoinsDims dimension i dims dim ↔ dim.IsCommon dims := by
  rw [JoinsDims, if_neg other]

theorem joinsDims_perm (perm : a.Perm b) :
    JoinsDims dimension i a dim ↔ JoinsDims dimension i b dim := by
  simp only [JoinsDims, sumExtents_perm perm, Extent.IsCommon, perm.mem_iff]

theorem joinsDims_append (first : JoinsDims dimension i a dim) :
    JoinsDims dimension i (a ++ b) result ↔ JoinsDims dimension i (dim :: b) result := by
  by_cases along : dimension.isInt i = true
  · rw [joinsDims_self along] at first ⊢
    rw [joinsDims_self along, sumExtents_append, first]
  · rw [joinsDims_other along] at first ⊢
    simp only [joinsDims_other along, Extent.IsCommon, List.mem_append, List.mem_cons,
      ← first _, @eq_comm Extent dim]

theorem exists_joinsDims_left (both : JoinsDims dimension i (a ++ b) result) :
    ∃ dim, JoinsDims dimension i a dim := by
  by_cases along : dimension.isInt i = true
  · exact ⟨sumExtents a, (joinsDims_self along).mpr rfl⟩
  · have agreed := agreeExtents?_eq_some.mpr ((joinsDims_other along).mp both)
    obtain ⟨dim, agree, -⟩ := agreeExtents?_refines (fun n => List.mem_append_left b) agreed
    exact ⟨dim, (joinsDims_other along).mpr (agreeExtents?_eq_some.mp agree)⟩

/-- Where no extent is known the result is not, as long as there is an input. -/
theorem joinsDims_unknown (nonempty : dims ≠ []) (unknown : ∀ dim ∈ dims, dim = none) :
    JoinsDims dimension i dims none := by
  by_cases along : dimension.isInt i = true
  · obtain ⟨dim, member⟩ := List.exists_mem_of_ne_nil dims nonempty
    rw [unknown dim member] at member
    rw [joinsDims_self along, sumExtents_of_unknown member]
  · rw [joinsDims_other along]
    refine fun n => ⟨?_, fun member => (unknown _ member).symm⟩
    rintro ⟨⟩

end Dims

/-! ### Shapes -/

/-- The shapes are joined to a shape. It has the rank of those that have one, and then the dimension
    is a position in it. -/
structure JoinsShapes (dimension : Payload) (shapes : List Shape) (shape : Shape) : Prop where
  rank : ∀ n, shape.rank? = some n ↔ ∃ s ∈ shapes, s.rank? = some n
  position : ∀ n, shape.rank? = some n → dimension.isPosition (some n) = .ok true
  extents : ∀ i, JoinsDims dimension i (shapes.map (·.extent i)) (shape.extent i)

section Shapes

variable {dimension : Payload} {a b shapes : List Shape} {s t : Shape}

theorem JoinsShapes.perm (h : JoinsShapes dimension a s) (perm : a.Perm b) :
    JoinsShapes dimension b s where
  rank n := by simp only [h.rank n, perm.mem_iff]
  position := h.position
  extents i := (joinsDims_perm (perm.map _)).mp (h.extents i)

/-- Once the first shapes are joined, what they are joined to stands for them. -/
theorem JoinsShapes.append (first : JoinsShapes dimension a t) :
    JoinsShapes dimension (a ++ b) s ↔ JoinsShapes dimension (t :: b) s := by
  have ranks (n : Nat) : (∃ u ∈ a ++ b, u.rank? = some n) ↔ ∃ u ∈ t :: b, u.rank? = some n := by
    simp only [List.mem_append, List.mem_cons, or_and_right, exists_or, exists_eq_left, first.rank]
  have extents (i : Nat) :
      JoinsDims dimension i ((a ++ b).map (·.extent i)) (s.extent i) ↔
        JoinsDims dimension i ((t :: b).map (·.extent i)) (s.extent i) := by
    rw [List.map_append, List.map_cons]
    exact joinsDims_append (first.extents i)
  constructor
  · intro h
    exact ⟨fun n => (h.rank n).trans (ranks n), h.position, fun i => (extents i).mp (h.extents i)⟩
  · intro h
    exact ⟨fun n => (h.rank n).trans (ranks n).symm, h.position,
      fun i => (extents i).mpr (h.extents i)⟩

theorem joinsDims_beyond {i : Nat} (nonempty : shapes ≠ [])
    (outside : ∀ s ∈ shapes, ∀ n, s.rank? = some n → n ≤ i) :
    JoinsDims dimension i (shapes.map (·.extent i)) none := by
  refine joinsDims_unknown (by simpa using nonempty) fun dim member => ?_
  obtain ⟨s, listed, rfl⟩ := List.mem_map.mp member
  cases s with
  | unranked => rfl
  | ranked dims => simp [Shape.extent, List.getElem?_eq_none (outside _ listed _ rfl)]

/-- Shapes without a rank are joined to one without a rank, whatever the dimension. -/
theorem joinsShapes_of_unranked (nonempty : shapes ≠ []) (unranked : ∀ s ∈ shapes, s.rank? = none) :
    JoinsShapes dimension shapes t ↔ t = .unranked := by
  have none_known {n : Nat} : ¬∃ s ∈ shapes, s.rank? = some n := by
    rintro ⟨s, member, known⟩
    cases (unranked s member).symm.trans known
  constructor
  · intro h
    cases t with
    | unranked => rfl
    | ranked dims => exact absurd ((h.rank _).mp rfl) none_known
  · rintro rfl
    refine ⟨fun n => ⟨?_, fun known => absurd known none_known⟩, ?_, fun i => ?_⟩
    · rintro ⟨⟩
    · rintro n ⟨⟩
    · exact joinsDims_beyond nonempty fun s member n known => absurd ⟨s, member, known⟩ none_known

/-- Shapes of which one has a rank are joined to one of this rank, extent by extent. -/
theorem joinsShapes_of_rank {rank : Nat} (member : s ∈ shapes) (known : s.rank? = some rank) :
    JoinsShapes dimension shapes t ↔
      (∀ u ∈ shapes, ∀ n, u.rank? = some n → n = rank) ∧
        dimension.isPosition (some rank) = .ok true ∧
        ∃ dims, t = .ranked dims ∧ dims.length = rank ∧
          ∀ (i : Nat) (dim : Extent), dims[i]? = some dim →
            JoinsDims dimension i (shapes.map (·.extent i)) dim := by
  constructor
  · intro h
    have same := (h.rank rank).mpr ⟨s, member, known⟩
    refine ⟨fun u listed n known' => ?_, h.position rank same, ?_⟩
    · exact Option.some.inj (((h.rank n).mpr ⟨u, listed, known'⟩).symm.trans same)
    · cases t with
      | unranked => cases same
      | ranked dims =>
        refine ⟨dims, rfl, Option.some.inj same, fun i dim found => ?_⟩
        have joined := h.extents i
        rwa [Shape.extent, found] at joined
  · rintro ⟨ranks, position, dims, rfl, rfl, extents⟩
    refine ⟨fun n => ⟨?_, ?_⟩, ?_, fun i => ?_⟩
    · rintro ⟨⟩
      exact ⟨s, member, known⟩
    · rintro ⟨u, listed, known'⟩
      rw [ranks u listed n known']
      rfl
    · rintro n ⟨⟩
      exact position
    · rw [Shape.extent]
      cases found : dims[i]? with
      | some dim => exact extents i dim found
      | none =>
        -- Past the rank of the result no shape has a dimension.
        refine joinsDims_beyond (List.ne_nil_of_mem member) fun u listed n known' => ?_
        exact (ranks u listed n known').trans_le (List.getElem?_eq_none_iff.mp found)

theorem exists_joinsShapes_left (nonempty : a ≠ []) (both : JoinsShapes dimension (a ++ b) s) :
    ∃ t, JoinsShapes dimension a t := by
  have ranks (n : Nat) (t : Shape) (member : t ∈ a) (known : t.rank? = some n) :
      s.rank? = some n :=
    (both.rank n).mpr ⟨t, List.mem_append_left b member, known⟩
  -- The later shapes may have a rank where the first ones have none.
  by_cases ranked : ∃ n, ∃ t ∈ a, t.rank? = some n
  · obtain ⟨n, t, member, known⟩ := ranked
    have rank := ranks n t member known
    have extents (i : Nat) : ∃ dim, JoinsDims dimension i (a.map (·.extent i)) dim := by
      have joined := both.extents i
      rw [List.map_append] at joined
      exact exists_joinsDims_left joined
    choose extent joined using extents
    refine ⟨.ranked ((List.range n).map extent), (joinsShapes_of_rank member known).mpr ?_⟩
    refine ⟨fun u listed m known' => ?_, both.position n rank, _, rfl, by simp, ?_⟩
    · exact Option.some.inj ((ranks m u listed known').symm.trans rank)
    · intro i dim found
      rw [List.getElem?_map] at found
      obtain ⟨j, at_i, rfl⟩ := Option.map_eq_some_iff.mp found
      obtain ⟨_, rfl⟩ := List.getElem?_eq_some_iff.mp at_i
      rw [List.getElem_range]
      exact joined i
  · refine ⟨.unranked, (joinsShapes_of_unranked nonempty fun t member => ?_).mpr rfl⟩
    cases known : t.rank? with
    | none => rfl
    | some n => exact absurd ⟨n, t, member, known⟩ ranked

end Shapes

/-! ### The extents of a concatenation -/

section Concatenated

variable {dimension : Payload} {tensors : List Tensor} {i : Nat} {dim : Extent}

theorem extent_eq_some {s : Shape} {n : Int} :
    s.extent i = some n ↔ ∃ dims, s.dims? = some dims ∧ dims[i]?.join = some n := by
  cases s <;> simp [Shape.extent, Shape.dims?]

theorem extents_of_ranked
    (ranked : (tensors.filterMap fun t => t.shape.dims?).length = tensors.length) :
    ((tensors.filterMap fun t => t.shape.dims?).map fun dims => dims[i]?.join) =
      (tensors.map Tensor.shape).map (·.extent i) := by
  rw [List.map_filterMap, List.map_map, List.filterMap_eq_map_iff_forall_eq_some]
  intro t member
  have known := List.filterMap_length_eq_length.mp ranked t member
  rw [Function.comp_apply]
  cases shape : t.shape with
  | unranked => simp [shape, Shape.dims?] at known
  | ranked dims => rfl

theorem unknown_extent_of_unranked
    (unranked : (tensors.filterMap fun t => t.shape.dims?).length ≠ tensors.length) :
    none ∈ (tensors.map Tensor.shape).map (·.extent i) := by
  simp only [ne_eq, List.filterMap_length_eq_length, not_forall] at unranked
  obtain ⟨t, member, unknown⟩ := unranked
  refine List.mem_map.mpr ⟨t.shape, List.mem_map_of_mem member, ?_⟩
  cases shape : t.shape with
  | unranked => rfl
  | ranked dims => simp [shape, Shape.dims?] at unknown

theorem known_extent_iff {n : Int} :
    some n ∈ ((tensors.filterMap fun t => t.shape.dims?).map fun dims => dims[i]?.join) ↔
      some n ∈ (tensors.map Tensor.shape).map (·.extent i) := by
  simp only [List.mem_map, List.mem_filterMap, extent_eq_some, exists_exists_and_eq_and]
  constructor
  · rintro ⟨dims, ⟨t, member, shape⟩, known⟩
    exact ⟨t, member, dims, shape, known⟩
  · rintro ⟨t, member, dims, shape, known⟩
    exact ⟨dims, ⟨t, member, shape⟩, known⟩

theorem forall_dims?_iff :
    (∀ dims ∈ tensors.filterMap fun t => t.shape.dims?, i < dims.length) ↔
      ∀ t ∈ tensors, t.HasDim i := by
  simp only [List.mem_filterMap, forall_exists_index, and_imp, Tensor.HasDim, Tensor.rank?]
  rw [forall_comm]
  refine forall_congr' fun t => ?_
  cases t.shape <;> simp [Shape.dims?, Shape.rank?]

/-- The inputs that have no rank are left out of the comparison of the extents, and make their sum
    unknown. The other ones have the dimension. -/
theorem concatenatedExtent_eq_ok :
    concatenatedExtent (tensors.filterMap fun t => t.shape.dims?)
        ((tensors.filterMap fun t => t.shape.dims?).length != tensors.length) dimension i =
        .ok dim ↔
      (∀ t ∈ tensors, t.HasDim i) ∧
        JoinsDims dimension i ((tensors.map Tensor.shape).map (·.extent i)) dim := by
  simp only [concatenatedExtent, bind_eq_ok, collect_dim_eq_ok, and_assoc, exists_eq_left,
    exists_and_left, forall_dims?_iff]
  refine and_congr_right fun _ => ?_
  by_cases along : dimension.isInt i = true
  · rw [if_pos along, joinsDims_self along, pure_eq, Except.ok.injEq, eq_comm]
    by_cases ranked : (tensors.filterMap fun t => t.shape.dims?).length = tensors.length
    · rw [ranked, extents_of_ranked ranked]
      simp
    · rw [if_pos (bne_iff_ne.mpr ranked), sumExtents_of_unknown (unknown_extent_of_unranked ranked)]
  · rw [if_neg along, joinsDims_other along, Extent.IsCommon]
    simp only [← known_extent_iff]
    rw [← Extent.IsCommon, ← agreeExtents?_eq_some]
    generalize agreeExtents? _ = agreed
    cases agreed <;> simp

end Concatenated

/-! ### Tensors -/

/-- The tensors are joined to a tensor, whose element type they all have. -/
structure Joins (dimension : Payload) (tensors : List Tensor) (t : Tensor) : Prop where
  elements : ∀ u ∈ tensors, u.element.same t.element = true
  shapes : JoinsShapes dimension (tensors.map Tensor.shape) t.shape

section Tensors

variable {dimension : Payload} {a b tensors : List Tensor} {first s t : Tensor}

theorem rank?_eq_none_of_head?
    (found : (tensors.filter Tensor.hasRank).head?.bind Tensor.rank? = none)
    (member : t ∈ tensors) :
    t.rank? = none := by
  by_contra known
  obtain ⟨n, known⟩ := Option.ne_none_iff_exists'.mp known
  obtain ⟨rank, found'⟩ := exists_head?_rank member (hasRank_iff.mpr ⟨n, known⟩)
  cases found.symm.trans found'

theorem concatenateTensors_eq_ok (member : first ∈ tensors) :
    concatenateTensors first tensors dimension = .ok t ↔
      t.element = first.element ∧ Joins dimension tensors t := by
  obtain ⟨element, shape⟩ := t
  have nonempty : tensors.map Tensor.shape ≠ [] := by simpa using List.ne_nil_of_mem member
  have elements : (∀ (i : Nat) u, tensors[i]? = some u → u.element.same first.element = true) ↔
      ∀ u ∈ tensors, u.element.same first.element = true := by
    simp only [List.mem_iff_getElem?, forall_exists_index, @forall_comm Nat]
  unfold concatenateTensors
  simp only [filterMap_dims?_filter_hasRank, bind_eq_ok, checkEach_eq_ok, ensure_eq_ok, elements,
    exists_const]
  cases found : (tensors.filter Tensor.hasRank).head?.bind Tensor.rank? with
  | none =>
    have unranked : ∀ s ∈ tensors.map Tensor.shape, s.rank? = none := by
      intro s listed
      obtain ⟨u, member', rfl⟩ := List.mem_map.mp listed
      exact rank?_eq_none_of_head? found member'
    constructor
    · rintro ⟨elements, ⟨⟩⟩
      exact ⟨rfl, elements, (joinsShapes_of_unranked nonempty unranked).mpr rfl⟩
    · rintro ⟨rfl, elements, shapes⟩
      obtain rfl := (joinsShapes_of_unranked nonempty unranked).mp shapes
      exact ⟨elements, rfl⟩
  | some rank =>
    obtain ⟨u, member', known⟩ := exists_of_head?_rank found
    have joins := @joinsShapes_of_rank dimension _ _ shape _ (List.mem_map_of_mem member') known
    simp only [bind_eq_ok, checkAll_eq_ok, ensure_eq_ok, collect_range_eq_ok,
      concatenatedExtent_eq_ok, pure_eq, Except.ok.injEq, Tensor.mk.injEq, exists_const,
      List.mem_filter, hasRank_iff]
    constructor
    · rintro ⟨elements, ranks, _, position, rfl, dims, ⟨length, extents⟩, rfl, rfl⟩
      refine ⟨rfl, elements, joins.mpr ⟨?_, position, dims, rfl, length,
        fun i dim found => (extents i dim found).2⟩⟩
      intro s listed n known'
      obtain ⟨v, member, rfl⟩ := List.mem_map.mp listed
      exact Option.some.inj (known'.symm.trans (ranks v ⟨member, n, known'⟩))
    · rintro ⟨rfl, elements, shapes⟩
      obtain ⟨ranks, position, dims, rfl, length, extents⟩ := joins.mp shapes
      have same (v : Tensor) (member : v ∈ tensors) (n : Nat) (known' : v.rank? = some n) :
          n = rank :=
        ranks v.shape (List.mem_map_of_mem member) n known'
      refine ⟨elements, ?_, true, position, rfl, dims, ⟨length, fun i dim found => ⟨?_, ?_⟩⟩,
        rfl, rfl⟩
      · rintro v ⟨member, n, known'⟩
        rw [known', same v member n known']
      · intro v member n known'
        have inside := (List.getElem?_eq_some_iff.mp found).1
        have equal := same v member n known'
        omega
      · exact extents i dim found

/-- The order of the tensors only decides which of their element types the result has. -/
theorem Joins.perm (h : Joins dimension a s) (perm : a.Perm b) (member : first ∈ b) :
    Joins dimension b ⟨first.element, s.shape⟩ where
  elements u listed := by
    have same := h.elements u (perm.mem_iff.mpr listed)
    exact Ty.same_trans same (Ty.same_symm (h.elements first (perm.mem_iff.mpr member)))
  shapes := h.shapes.perm (perm.map _)

theorem Joins.append (first : Joins dimension a t) (nonempty : a ≠ []) :
    Joins dimension (a ++ b) s ↔ Joins dimension (t :: b) s := by
  have shapes := @JoinsShapes.append dimension _ (b.map Tensor.shape) s.shape _ first.shapes
  rw [← List.map_append, ← List.map_cons] at shapes
  obtain ⟨u, member⟩ := List.exists_mem_of_ne_nil a nonempty
  constructor
  · intro h
    refine ⟨fun v listed => ?_, shapes.mp h.shapes⟩
    rcases List.mem_cons.mp listed with rfl | listed
    · have same := h.elements u (List.mem_append_left b member)
      exact Ty.same_trans (Ty.same_symm (first.elements u member)) same
    · exact h.elements v (List.mem_append_right a listed)
  · intro h
    refine ⟨fun v listed => ?_, shapes.mpr h.shapes⟩
    rcases List.mem_append.mp listed with listed | listed
    · exact Ty.same_trans (first.elements v listed) (h.elements t List.mem_cons_self)
    · exact h.elements v (List.mem_cons_of_mem t listed)

theorem exists_joins_left (nonempty : a ≠ []) (both : Joins dimension (a ++ b) s) :
    ∃ t, t.element = s.element ∧ Joins dimension a t := by
  have shapes := both.shapes
  rw [List.map_append] at shapes
  obtain ⟨shape, joined⟩ := exists_joinsShapes_left (by simpa using nonempty) shapes
  exact ⟨⟨s.element, shape⟩, rfl, fun u member => both.elements u (List.mem_append_left b member),
    joined⟩

end Tensors

/-! ### Inference -/

section Inference

variable {dimension : Payload} {inputs types : List Ty}

theorem inferConcatenate_eq_ok :
    inferConcatenate inputs dimension = .ok types ↔
      ∃ first rest t, inputs = (first :: rest).map Tensor.ty ∧ dimension.isBelow 0 = .ok false ∧
        t.element = first.element ∧ Joins dimension (first :: rest) t ∧ types = [t.ty] := by
  simp only [inferConcatenate, bind_eq_ok, Ty.collect_needTensor_eq_ok]
  constructor
  · rintro ⟨_ | ⟨first, rest⟩, rfl, success⟩
    · simp at success
    · simp only [bind_eq_ok, ensure_eq_ok, pure_eq, Except.ok.injEq,
        concatenateTensors_eq_ok List.mem_cons_self] at success
      obtain ⟨negative, below, -, nonneg, t, ⟨element, joins⟩, rfl⟩ := success
      obtain rfl : negative = false := by simpa using nonneg
      exact ⟨first, rest, t, rfl, below, element, joins, rfl⟩
  · rintro ⟨first, rest, t, rfl, below, element, joins, rfl⟩
    refine ⟨first :: rest, rfl, ?_⟩
    have joined := (concatenateTensors_eq_ok List.mem_cons_self).mpr ⟨element, joins⟩
    simp only [below, joined, ok_bind, ensure, Bool.not_false, if_true, pure_eq]

theorem inferConcatenate_append {xs ys : List Ty} (nonempty : xs ≠ []) :
    inferConcatenate (xs ++ ys) dimension = .ok types ↔
      ∃ t, inferConcatenate xs dimension = .ok [t] ∧
        inferConcatenate (t :: ys) dimension = .ok types := by
  constructor
  · intro accepted
    obtain ⟨first, rest, s, both, below, element, joins, rfl⟩ := inferConcatenate_eq_ok.mp accepted
    obtain ⟨a, b, split, rfl, rfl⟩ := List.map_eq_append_iff.mp both.symm
    obtain ⟨_, a, rfl⟩ := List.exists_cons_of_ne_nil (by simpa using nonempty : a ≠ [])
    obtain ⟨rfl, rfl⟩ := List.cons.inj split
    obtain ⟨t, same, joined⟩ := exists_joins_left (List.cons_ne_nil first a) joins
    refine ⟨t.ty, inferConcatenate_eq_ok.mpr ?_, inferConcatenate_eq_ok.mpr ?_⟩
    · exact ⟨first, a, t, rfl, below, same.trans element, joined, rfl⟩
    · exact ⟨t, b, s, rfl, below, same.symm, (joined.append (List.cons_ne_nil _ _)).mp joins, rfl⟩
  · rintro ⟨_, before, after⟩
    obtain ⟨first, a, t, rfl, below, element, joined, ⟨⟩⟩ := inferConcatenate_eq_ok.mp before
    obtain ⟨t', b, s, both, -, same, joins, rfl⟩ := inferConcatenate_eq_ok.mp after
    obtain ⟨equal, rfl⟩ := List.cons.inj both
    obtain rfl := Tensor.ty_injective equal
    refine inferConcatenate_eq_ok.mpr ⟨first, a ++ b, s, ?_, below, same.trans element, ?_, rfl⟩
    · rw [← List.map_append, List.cons_append]
    · exact (joined.append (List.cons_ne_nil _ _)).mpr joins

theorem inferConcatenate_perm {xs ys : List Ty} (perm : xs.Perm ys)
    (accepted : inferConcatenate xs dimension = .ok types) :
    ∃ t t', types = [t] ∧ inferConcatenate ys dimension = .ok [t'] ∧ t'.same t = true := by
  obtain ⟨first, rest, s, rfl, below, element, joins, rfl⟩ := inferConcatenate_eq_ok.mp accepted
  obtain ⟨tensors, rfl, moved⟩ := exists_map_of_perm perm.symm
  have nonempty : tensors ≠ [] := fun none => by simp [none] at moved
  obtain ⟨first', rest', rfl⟩ := List.exists_cons_of_ne_nil nonempty
  have joined := joins.perm moved.symm List.mem_cons_self
  have same := joins.elements first' (moved.mem_iff.mp List.mem_cons_self)
  have accepted' := inferConcatenate_eq_ok.mpr ⟨first', rest', ⟨first'.element, s.shape⟩, rfl,
    below, rfl, joined, rfl⟩
  refine ⟨s.ty, _, rfl, accepted', ?_⟩
  simp [Tensor.ty, Ty.same, same]

/-- Concatenation is associative and does not depend on the order of its inputs. Inputs are accepted
    with a result exactly if the first of them, at least one, are accepted and their result is
    accepted in their place, with the same result. Accepted inputs are accepted in any other order,
    with the same type; its element type is written as in the input that then comes first. -/
theorem inferConcatenate_assoc_comm (dimension : Payload) :
    (∀ xs ys types : List Ty, xs ≠ [] →
      (inferConcatenate (xs ++ ys) dimension = .ok types ↔
        ∃ t, inferConcatenate xs dimension = .ok [t] ∧
          inferConcatenate (t :: ys) dimension = .ok types)) ∧
      ∀ xs ys types : List Ty, xs.Perm ys → inferConcatenate xs dimension = .ok types →
        ∃ t t', types = [t] ∧ inferConcatenate ys dimension = .ok [t'] ∧ t'.same t = true :=
  ⟨fun _ _ _ nonempty => inferConcatenate_append nonempty,
    fun _ _ _ perm accepted => inferConcatenate_perm perm accepted⟩

/-- A tensor without a rank makes the sum of the rows unknown, whenever it is joined. The columns of
    the first matrix become known once the second one is joined. -/
theorem inferConcatenate_assoc_comm_matrices :
    let element : Ty := .float .f32
    let rankless : Ty := .tensor element .unranked
    let tall : Ty := .tensor element (.ranked [some 2, none])
    let wide : Ty := .tensor element (.ranked [some 4, some 3])
    let all : Ty := .tensor element (.ranked [none, some 3])
    inferConcatenate [rankless, tall, wide] (.int 0) = .ok [all] ∧
      (∃ t, inferConcatenate [rankless, tall] (.int 0) = .ok [t] ∧
        inferConcatenate [t, wide] (.int 0) = .ok [all]) ∧
      ∃ t, inferConcatenate [wide, rankless, tall] (.int 0) = .ok [t] ∧ t.same all = true := by
  intro element rankless tall wide all
  have accepted : inferConcatenate [rankless, tall, wide] (.int 0) = .ok [all] := rfl
  obtain ⟨groups, reorders⟩ := inferConcatenate_assoc_comm (.int 0)
  have moved : [rankless, tall, wide].Perm [wide, rankless, tall] :=
    @List.perm_append_comm _ [rankless, tall] [wide]
  obtain ⟨_, t, ⟨⟩, accepted', same⟩ := reorders _ _ _ moved accepted
  have nonempty : [rankless, tall] ≠ [] := List.cons_ne_nil _ _
  exact ⟨accepted, (groups _ [wide] _ nonempty).mp accepted, t, accepted', same⟩

end Inference

end Op

end TensorTyping
