import TensorTyping.Proofs.Matching
import TensorTyping.Proofs.Transposition

/-!
# Layouts

A layout is an order in which the dimensions of a tensor are stored. A tensor is brought into a
layout by a transposition, after which every dimension is found at its place in the order. Reading
and writing the extent of a dimension commute with the change of layout.
-/

namespace TensorTyping

/-- An order of the dimensions of a tensor, together with an attribute that lists it. -/
structure Layout (rank : Nat) where
  listing : Payload
  order : List Int
  decoded : listing.decodeInts "permutation" = .ok order
  permutes : order.Perm (Dimensions.upTo rank)

namespace Layout

variable {rank : Nat} (layout : Layout rank)

/-- The place of a dimension in the order. -/
def place (d : Int) : Int := layout.order.idxOf d

/-- The extents in the order. -/
def arrange (dims : List Extent) : List Extent :=
  layout.order.map fun d => dims[d.toNat]?.join

theorem mem_order {d : Int} : d ∈ layout.order ↔ 0 ≤ d ∧ d < rank :=
  Dimensions.mem_of_perm layout.permutes

theorem nodup_order : layout.order.Nodup :=
  layout.permutes.nodup_iff.mpr (Dimensions.nodup_upTo rank)

theorem length_order : layout.order.length = rank := Dimensions.length_of_perm layout.permutes

@[simp] theorem length_arrange (dims : List Extent) : (layout.arrange dims).length = rank := by
  rw [arrange, List.length_map, length_order]

/-! ### Places -/

variable {d : Int}

theorem place_inRange (inRange : 0 ≤ d ∧ d < rank) :
    0 ≤ layout.place d ∧ layout.place d < rank := by
  have inside := List.idxOf_lt_length_of_mem (layout.mem_order.mpr inRange)
  rw [length_order] at inside
  exact ⟨Int.natCast_nonneg _, Int.ofNat_lt.mpr inside⟩

theorem place_inj {e : Int} (inRange : 0 ≤ d ∧ d < rank) :
    layout.place d = layout.place e ↔ d = e := by
  rw [place, place, Int.ofNat_inj, List.idxOf_inj (layout.mem_order.mpr inRange)]

/-- Different dimensions have different places. -/
theorem nodup_map_place {dims : List Int} (inRange : ∀ d ∈ dims, 0 ≤ d ∧ d < rank) :
    (dims.map layout.place).Nodup ↔ dims.Nodup := by
  constructor
  · exact List.Nodup.of_map _
  · intro unique
    exact unique.map_on fun d member e _ same => (layout.place_inj (inRange d member)).mp same

/-! ### Reading and writing extents -/

/-- A dimension keeps its extent at its new place. -/
theorem arrange_place (dims : List Extent) (inRange : 0 ≤ d ∧ d < rank) :
    (layout.arrange dims)[(layout.place d).toNat]?.join = dims[d.toNat]?.join := by
  have found := List.getElem?_idxOf (layout.mem_order.mpr inRange)
  rw [arrange, place, Int.toNat_natCast, List.getElem?_map, found, Option.map_some,
    Option.join_some]

/-- Writing the extent of a dimension before the change of layout is writing it at the new place
    after it. -/
theorem arrange_set {dims : List Extent} (length : dims.length = rank)
    (inRange : 0 ≤ d ∧ d < rank) (extent : Extent) :
    layout.arrange (dims.set d.toNat extent) =
      (layout.arrange dims).set (layout.place d).toNat extent := by
  have member := layout.mem_order.mpr inRange
  have written : layout.arrange (dims.set d.toNat extent) =
      layout.order.map (Function.update (fun e => dims[e.toNat]?.join) d extent) := by
    refine List.map_congr_left fun e other => ?_
    have bounds := layout.mem_order.mp other
    by_cases here : e = d
    · rw [here, Function.update_self, List.getElem?_set_self (by omega), Option.join_some]
    · rw [Function.update_of_ne here, List.getElem?_set_ne (by omega)]
  rw [written, layout.nodup_order.map_update, if_pos member, place, Int.toNat_natCast, arrange]

theorem arrange_replicate_none (count : Nat) :
    layout.arrange (List.replicate count none) = List.replicate rank none := by
  have unknown := Shape.pick_replicate_none count layout.order
  rwa [length_order] at unknown

/-- No extent is lost. -/
theorem arrange_perm {dims : List Extent} (length : dims.length = rank) :
    (layout.arrange dims).Perm dims := by
  have moved := layout.permutes.map fun d => dims[d.toNat]?.join
  have whole := Shape.pick_upTo dims
  rw [length] at whole
  exact moved.trans (.of_eq whole)

/-! ### Transposition -/

theorem inferTranspose_ranked (element : Ty) {dims : List Extent} (length : dims.length = rank) :
    Op.inferTranspose (.tensor element (.ranked dims)) layout.listing =
      .ok [.tensor element (.ranked (layout.arrange dims))] := by
  have permutes : layout.order.Perm (Dimensions.upTo layout.order.length) := by
    rw [length_order]
    exact layout.permutes
  refine Op.inferTranspose_eq_ok.mpr ⟨layout.order, layout.decoded, permutes, ?_, rfl⟩
  rintro _ ⟨⟩
  rw [length, length_order]

end Layout

end TensorTyping
