import TensorTyping.Proofs.Concatenation.Joining
import TensorTyping.Proofs.Slicing

/-!
# Putting a tensor together from its slices

A static tensor can be cut along one of its dimensions at any positions in order. Every part is an
accepted slice, and the concatenation of the parts has the type of the tensor. Parts may be empty.
-/

namespace TensorTyping

namespace Op

/-! ### Positions of cuts -/

/-- Positions from the start of an extent to its end, in order and at least two of them. -/
structure Cuts (extent : Int) (cuts : List Int) : Prop where
  first : cuts.head? = some 0
  last : cuts.getLast? = some extent
  ordered : cuts.Pairwise (· ≤ ·)
  several : 2 ≤ cuts.length

/-- The parts between neighbouring cuts. -/
def parts (cuts : List Int) : List (Int × Int) := cuts.zip cuts.tail

theorem parts_cons_cons (a b : Int) (rest : List Int) :
    parts (a :: b :: rest) = (a, b) :: parts (b :: rest) := rfl

/-- Parts that follow one another are as long together as the last cut is from the first. -/
theorem sum_parts {first last : Int} {rest : List Int}
    (final : (first :: rest).getLast? = some last) :
    ((parts (first :: rest)).map fun cut => cut.2 - cut.1).sum = last - first := by
  induction rest generalizing first with
  | nil =>
    obtain rfl : first = last := by simpa using final
    simp [parts]
  | cons next rest ih =>
    rw [List.getLast?_cons_cons] at final
    rw [parts_cons_cons, List.map_cons, List.sum_cons, ih final]
    omega

/-- Every part runs forwards between two of the cuts. -/
theorem mem_parts {cuts : List Int} (ordered : cuts.Pairwise (· ≤ ·)) {cut : Int × Int}
    (member : cut ∈ parts cuts) : cut.1 ∈ cuts ∧ cut.2 ∈ cuts ∧ cut.1 ≤ cut.2 := by
  induction cuts with
  | nil => simp [parts] at member
  | cons a rest ih =>
    obtain ⟨least, ordered⟩ := List.pairwise_cons.mp ordered
    cases rest with
    | nil => simp [parts] at member
    | cons b rest =>
      rw [parts_cons_cons, List.mem_cons] at member
      rcases member with rfl | member
      · simp [least]
      · obtain ⟨start, limit, forwards⟩ := ih ordered member
        exact ⟨List.mem_cons_of_mem _ start, List.mem_cons_of_mem _ limit, forwards⟩

namespace Cuts

variable {extent : Int} {cuts : List Int}

theorem within (h : Cuts extent cuts) {cut : Int × Int} (member : cut ∈ parts cuts) :
    0 ≤ cut.1 ∧ cut.1 ≤ cut.2 ∧ cut.2 ≤ extent := by
  have ordered := h.ordered
  obtain ⟨start, limit, forwards⟩ := mem_parts ordered member
  refine ⟨?_, forwards, ?_⟩
  · obtain ⟨rest, rfl⟩ := List.head?_eq_some_iff.mp h.first
    rcases List.mem_cons.mp start with zero | later
    · omega
    · exact (List.pairwise_cons.mp ordered).1 _ later
  · obtain ⟨earlier, rfl⟩ := List.getLast?_eq_some_iff.mp h.last
    rcases List.mem_append.mp limit with before | same
    · exact (List.pairwise_append.mp ordered).2.2 _ before _ List.mem_cons_self
    · exact Int.le_of_eq (List.mem_singleton.mp same)

theorem sum_eq (h : Cuts extent cuts) :
    ((parts cuts).map fun cut => cut.2 - cut.1).sum = extent := by
  obtain ⟨rest, rfl⟩ := List.head?_eq_some_iff.mp h.first
  rw [sum_parts h.last, Int.sub_zero]

theorem parts_ne_nil (h : Cuts extent cuts) : parts cuts ≠ [] := by
  have several := h.several
  match cuts with
  | a :: b :: rest => simp [parts]

end Cuts

/-! ### Concatenation of ranked tensors -/

theorem sumExtents_map_some (values : List Int) :
    sumExtents (values.map some) = some values.sum :=
  sumExtents_eq_some.mpr ⟨values, rfl, rfl⟩

theorem concatenatedExtent_self {shapes : List (List Extent)} {d : Nat} {values : List Int}
    (inside : ∀ shape ∈ shapes, d < shape.length)
    (known : (shapes.map fun shape => (shape[d]?.join : Extent)) = values.map some) :
    concatenatedExtent shapes false (.int d) d = .ok (some values.sum) := by
  rw [concatenatedExtent, collect_dim_eq_ok.mpr ⟨inside, rfl⟩, Check.ok_bind,
    if_pos (Payload.isInt_int.mpr rfl), known, sumExtents_map_some]
  rfl

theorem concatenatedExtent_of_ne {shapes : List (List Extent)} {d i : Nat} {dim : Extent}
    (apart : d ≠ i) (inside : ∀ shape ∈ shapes, i < shape.length)
    (common : dim.IsCommon (shapes.map fun shape => shape[i]?.join)) :
    concatenatedExtent shapes false (.int d) i = .ok dim := by
  have other : ¬ (Payload.int d).isInt i = true := by simpa using apart
  rw [concatenatedExtent, collect_dim_eq_ok.mpr ⟨inside, rfl⟩, Check.ok_bind, if_neg other,
    agreeExtents?_eq_some.mpr common]
  rfl

/-- Tensors of one element type and rank, at least one of them, are joined dimension by
    dimension. -/
theorem joins_of_extents {element : Ty} {shapes : List (List Extent)} {result : List Extent}
    {d : Nat} (nonempty : shapes ≠ []) (inside : d < result.length)
    (ranks : ∀ shape ∈ shapes, shape.length = result.length)
    (extents : ∀ (i : Nat) (extent : Extent), result[i]? = some extent →
      concatenatedExtent shapes false (.int d) i = .ok extent) :
    Joins (.int d) (shapes.map fun shape => ⟨element, .ranked shape⟩)
      ⟨element, .ranked result⟩ := by
  have dims : (shapes.map fun shape => (⟨element, .ranked shape⟩ : Tensor)).filterMap
      (fun t => t.shape.dims?) = shapes := by
    simp [List.filterMap_map, Shape.dims?]
  have rank : ∀ s ∈ (shapes.map fun shape => (⟨element, .ranked shape⟩ : Tensor)).map Tensor.shape,
      s.rank? = some result.length := by
    intro s listed
    rw [List.map_map] at listed
    obtain ⟨shape, member, rfl⟩ := List.mem_map.mp listed
    exact congrArg some (ranks shape member)
  obtain ⟨shape, member⟩ := List.exists_mem_of_ne_nil shapes nonempty
  have listed := List.mem_map_of_mem (f := Tensor.shape) (List.mem_map_of_mem
    (f := fun shape => (⟨element, .ranked shape⟩ : Tensor)) member)
  refine ⟨fun u member => ?_, (joinsShapes_of_rank listed (rank _ listed)).mpr ?_⟩
  · obtain ⟨shape, -, rfl⟩ := List.mem_map.mp member
    exact Ty.same_refl element
  · refine ⟨fun u listed n known => ?_, ?_, result, rfl, rfl, fun i dim found => ?_⟩
    · exact Option.some.inj (known.symm.trans (rank u listed))
    · simp [Payload.isPosition, Payload.isWithin, Payload.test, inside]
    · refine (concatenatedExtent_eq_ok.mp ?_).2
      rw [dims, List.length_map, bne_self_eq_false]
      exact extents i dim found

theorem inferConcatenate_of_extents {element : Ty} {shapes : List (List Extent)}
    {result : List Extent} {d : Nat} (nonempty : shapes ≠ []) (inside : d < result.length)
    (ranks : ∀ shape ∈ shapes, shape.length = result.length)
    (extents : ∀ (i : Nat) (extent : Extent), result[i]? = some extent →
      concatenatedExtent shapes false (.int d) i = .ok extent) :
    inferConcatenate (shapes.map fun shape => .tensor element (.ranked shape)) (.int d) =
      .ok [.tensor element (.ranked result)] := by
  have joins := @joins_of_extents element _ _ _ nonempty inside ranks extents
  obtain ⟨first, rest, rfl⟩ := List.exists_cons_of_ne_nil nonempty
  rw [List.map_cons] at joins
  refine inferConcatenate_eq_ok.mpr ⟨⟨element, .ranked first⟩, _, ⟨element, .ranked result⟩, ?_, ?_,
    rfl, joins, rfl⟩
  · rw [← List.map_cons (f := fun shape => (⟨element, .ranked shape⟩ : Tensor)), List.map_map]
    rfl
  · simp [Payload.isBelow, Payload.test]

/-! ### Parts of a tensor -/

section Parts

variable {element : Ty} {extents cuts : List Int} {d : Nat} {extent : Int} {strides : Payload}

/-- The concatenated parts have the extents of the tensor. Along the dimension that is cut these are
    the sums of the lengths of the parts, and along any other all parts have one extent. -/
theorem concatenatedExtent_parts (along : extents[d]? = some extent) (cut : Cuts extent cuts)
    {i : Nat} {n : Int} (found : extents[i]? = some n) :
    concatenatedExtent ((parts cuts).map fun cut => (extents.set d (cut.2 - cut.1)).map some) false
      (.int d) i = .ok (some n) := by
  have inside : i < extents.length := (List.getElem?_eq_some_iff.mp found).1
  have within : ∀ shape ∈ (parts cuts).map fun cut => (extents.set d (cut.2 - cut.1)).map some,
      i < shape.length := by
    intro shape member
    obtain ⟨part, -, rfl⟩ := List.mem_map.mp member
    simpa using inside
  by_cases here : d = i
  · subst here
    obtain rfl : n = extent := Option.some.inj (found.symm.trans along)
    rw [← cut.sum_eq]
    apply concatenatedExtent_self within
    rw [List.map_map, List.map_map]
    apply List.map_congr_left
    intro cut _
    simp [inside]
  · have column : (((parts cuts).map fun cut => (extents.set d (cut.2 - cut.1)).map some).map
        fun shape => (shape[i]?.join : Extent)) = (parts cuts).map fun _ => some n := by
      rw [List.map_map]
      apply List.map_congr_left
      intro cut _
      simp [here, found]
    apply concatenatedExtent_of_ne here within
    rw [column]
    intro m
    rw [List.map_const', List.mem_replicate, ne_eq, List.length_eq_zero_iff]
    simp [cut.parts_ne_nil, eq_comm]

/-- A static tensor that is cut along a dimension, at positions in order from its start to its end,
    is put together again from the parts. Every part is accepted as a slice with the stride one, and
    their concatenation has the type of the tensor. -/
theorem concatenate_parts (form : (Ty.tensor element (.ranked (extents.map some))).WellFormed)
    (bounded : ∀ n ∈ extents, n < 2 ^ 63) (along : extents[d]? = some extent)
    (cut : Cuts extent cuts)
    (ones : strides = .null ∨ strides = .ofInts (List.replicate extents.length 1)) :
    ∃ types, List.Forall₂ (fun cut type => (Slice.between element extents d strides cut).infer =
        .ok [type]) (parts cuts) types ∧
      inferConcatenate types (.int d) = .ok [.tensor element (.ranked (extents.map some))] := by
  have isElement : element.isElement = true := by
    cases form with
    | tensor isElement _ _ => exact isElement
  have nonneg := @Tensor.nonneg_of_wellFormed ⟨element, .ranked (extents.map some)⟩ _ form rfl
  have inside : d < extents.length := (List.getElem?_eq_some_iff.mp along).1
  refine ⟨(parts cuts).map fun cut =>
    .tensor element (.ranked ((extents.set d (cut.2 - cut.1)).map some)), ?_, ?_⟩
  · rw [List.forall₂_map_right_iff, List.forall₂_same]
    intro part member
    exact Slice.infer_between isElement (fun n listed => ⟨nonneg n listed, bounded n listed⟩) along
      (cut.within member) ones
  · have ranks : ∀ shape ∈ (parts cuts).map fun cut => (extents.set d (cut.2 - cut.1)).map some,
        shape.length = (extents.map some).length := by
      intro shape member
      obtain ⟨part, -, rfl⟩ := List.mem_map.mp member
      simp
    have sums : ∀ (i : Nat) (dim : Extent), (extents.map some)[i]? = some dim →
        concatenatedExtent ((parts cuts).map fun cut => (extents.set d (cut.2 - cut.1)).map some)
          false (.int d) i = .ok dim := by
      intro i dim found
      rw [List.getElem?_map] at found
      obtain ⟨n, known, rfl⟩ := Option.map_eq_some_iff.mp found
      exact concatenatedExtent_parts along cut known
    have joined := @inferConcatenate_of_extents element _ _ _ (by simpa using cut.parts_ne_nil)
      (by simpa using inside) ranks sums
    rwa [List.map_map] at joined

/-- A matrix with three rows and no columns, cut into a part of two rows, an empty part and the last
    row. -/
theorem concatenate_parts_rows :
    let whole : Ty := .tensor (.float .f32) (.ranked [some 3, some 0])
    Cuts 3 [0, 2, 2, 3] ∧ ∃ types,
      List.Forall₂ (fun cut type => (Slice.between (.float .f32) [3, 0] 0 .null cut).infer =
        .ok [type]) [(0, 2), (2, 2), (2, 3)] types ∧
      inferConcatenate types (.int 0) = .ok [whole] := by
  intro whole
  have cuts : Cuts 3 [0, 2, 2, 3] := ⟨rfl, rfl, by decide, by decide⟩
  have form : whole.WellFormed := Ty.isWellFormed_iff.mp rfl
  exact ⟨cuts, concatenate_parts form (by decide) rfl cuts (.inl rfl)⟩

end Parts

end Op

end TensorTyping
