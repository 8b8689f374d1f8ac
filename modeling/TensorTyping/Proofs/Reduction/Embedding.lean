import Mathlib.Data.List.NodupEquivFin
import TensorTyping.Proofs.Refinement.Reduction

/-!
# Extents matched in order

An operand parameter of a reduction body keeps some of the allowed extents in order. Whether it does
is found out in one pass over the allowed extents, which takes the earliest match for each extent of
the parameter. No match is lost in this way: the pass succeeds whenever the extents can be sent to
positions of the allowed ones in any way that keeps their order.
-/

namespace TensorTyping

/-- Some items of a list match another list in order just when the positions of the other list are
    sent, in order, to positions of related items. -/
theorem sublistForall₂_iff_exists_strictMono {α β : Type} {related : α → β → Prop} {as : List α}
    {bs : List β} :
    List.SublistForall₂ related as bs ↔
      ∃ place : Fin as.length → Fin bs.length, StrictMono place ∧
        ∀ i, related (as.get i) (bs.get (place i)) := by
  rw [List.sublistForall₂_iff]
  constructor
  · rintro ⟨kept, matched, sub⟩
    obtain ⟨lengths, each⟩ := List.forall₂_iff_get.mp matched
    obtain ⟨place, found⟩ := List.sublist_iff_exists_fin_orderEmbedding_get_eq.mp sub
    refine ⟨fun i => place (i.cast lengths), ?_, fun i => ?_⟩
    · exact place.strictMono.comp (Fin.cast_strictMono lengths)
    · rw [← found]
      exact each i i.isLt (lengths ▸ i.isLt)
  · rintro ⟨place, increasing, each⟩
    have length : (List.ofFn fun i => bs.get (place i)).length = as.length := List.length_ofFn
    refine ⟨List.ofFn fun i => bs.get (place i), ?_, ?_⟩
    · refine List.forall₂_iff_get.mpr ⟨length.symm, fun i inside _ => ?_⟩
      simpa using each ⟨i, inside⟩
    · let embedding := (Fin.castOrderIso length).toOrderEmbedding.trans
        (OrderEmbedding.ofStrictMono place increasing)
      refine List.sublist_iff_exists_fin_orderEmbedding_get_eq.mpr ⟨embedding, fun i => ?_⟩
      exact List.get_ofFn _ i

theorem Extent.compatible_iff {a b : Extent} :
    a.compatible b = true ↔ a = b ∨ a = none ∨ b = none := by
  cases a <;> cases b <;> simp [compatible]

namespace Reducer

/-- Taking the earliest match each time decides whether the extents can be sent, in order, to
    allowed extents so that each is equal to its own, unless one of the two is unknown. -/
theorem embeds_iff_exists_strictMono (dims allowed : List Extent) :
    embeds dims allowed = true ↔
      ∃ place : Fin dims.length → Fin allowed.length, StrictMono place ∧
        ∀ i, dims.get i = allowed.get (place i) ∨ dims.get i = none ∨
          allowed.get (place i) = none := by
  rw [embeds_iff, sublistForall₂_iff_exists_strictMono]
  simp only [Extent.compatible_iff]

end Reducer

end TensorTyping
