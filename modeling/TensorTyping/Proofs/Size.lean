import Mathlib.Algebra.BigOperators.Group.List.Basic
import Mathlib.Algebra.Ring.Int.Defs
import TensorTyping.Proofs.Ty.Refinement

/-!
# Numbers of elements

A shape has a number of elements when it is static, and the number is the product of the extents. It
does not depend on their order, and the extents of two shapes together have the product of the two
numbers.
-/

namespace TensorTyping

namespace Extent

/-- A fold over extents has a value when all of them are known. -/
theorem foldl_known_eq_some {combine : Int → Int → Int} {dims : List Extent} {start n : Int} :
    dims.foldl (fun total dim => total.bind fun n => dim.map (combine n)) (some start) = some n ↔
      ∃ values : List Int, dims = values.map some ∧ values.foldl combine start = n := by
  have unknown (rest : List Extent) :
      rest.foldl (fun total dim => total.bind fun n => dim.map (combine n)) none = none := by
    induction rest with
    | nil => rfl
    | cons _ _ ih => exact ih
  induction dims generalizing start with
  | nil => simp
  | cons dim rest ih =>
    cases dim with
    | none =>
      rw [List.foldl_cons, Option.bind_some, Option.map_none, unknown]
      constructor
      · rintro ⟨⟩
      · rintro ⟨_ | ⟨_, _⟩, ⟨⟩, -⟩
    | some m =>
      rw [List.foldl_cons, Option.bind_some, Option.map_some]
      refine ih.trans ⟨?_, ?_⟩
      · rintro ⟨values, rfl, folded⟩
        exact ⟨m :: values, rfl, folded⟩
      · rintro ⟨_ | ⟨_, values⟩, ⟨⟩, folded⟩
        exact ⟨values, rfl, folded⟩

end Extent

/-- Images in another order are the images of the values in another order. -/
theorem exists_map_of_perm {α β : Type} {f : α → β} {items : List β} {values : List α}
    (perm : items.Perm (values.map f)) :
    ∃ values' : List α, items = values'.map f ∧ values'.Perm values := by
  have moved := congrFun (congrFun (List.eq_map_comp_perm f) items) values
  exact moved.mpr perm

namespace Shape

variable {a b dims : List Extent} {n : Int}

theorem size?_eq_some :
    size? (.ranked dims) = some n ↔
      ∃ extents : List Int, dims = extents.map some ∧ extents.prod = n := by
  simp only [List.prod_eq_foldl]
  exact Extent.foldl_known_eq_some

theorem exists_size_of_isStatic {s : Shape} (static : s.isStatic = true) :
    ∃ n, s.size? = some n := by
  obtain ⟨extents, rfl⟩ := exists_of_isStatic static
  exact ⟨_, size?_eq_some.mpr ⟨extents, rfl, rfl⟩⟩

@[simp] theorem size?_singleton (dim : Extent) : size? (.ranked [dim]) = dim := by
  cases dim <;> simp [size?]

theorem size?_append_eq_some :
    size? (.ranked (a ++ b)) = some n ↔
      ∃ k m, size? (.ranked a) = some k ∧ size? (.ranked b) = some m ∧ n = k * m := by
  simp only [size?_eq_some]
  constructor
  · rintro ⟨_, known, rfl⟩
    obtain ⟨first, second, rfl, rfl, rfl⟩ := List.append_eq_map_iff.mp known
    exact ⟨_, _, ⟨first, rfl, rfl⟩, ⟨second, rfl, rfl⟩, List.prod_append⟩
  · rintro ⟨_, _, ⟨first, rfl, rfl⟩, ⟨second, rfl, rfl⟩, rfl⟩
    exact ⟨first ++ second, List.map_append.symm, List.prod_append⟩

theorem size?_of_perm (perm : a.Perm b) (size : size? (.ranked b) = some n) :
    size? (.ranked a) = some n := by
  obtain ⟨extents, rfl, rfl⟩ := size?_eq_some.mp size
  obtain ⟨extents', known, moved⟩ := exists_map_of_perm perm
  exact size?_eq_some.mpr ⟨extents', known, moved.prod_eq⟩

end Shape

end TensorTyping
