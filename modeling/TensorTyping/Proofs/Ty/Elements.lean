import TensorTyping.Proofs.Ty.WellFormed

/-!
# Compatible element types

Compatibility of element types compares representatives: every element type has one, which forgets
how a quantized type scales its values and, under the relaxed policy, how wide a float is. Hence it
is an equivalence relation on the types that can be formed.
-/

namespace TensorTyping

namespace Ty

variable {a a' b b' : Ty} {relaxed : Bool}

/-! ### Sameness on either side -/

theorem compatibleElements_congr_left (h : a'.same a = true) (b : Ty) :
    compatibleElements relaxed a' b = compatibleElements relaxed a b := by
  induction a using induct generalizing a' b with
  | tensor element shape ih =>
    cases a' <;> simp only [same, Bool.false_eq_true, Bool.and_eq_true] at h
    simpa only [compatibleElements] using ih h.1 b
  | quantized storage expressed scale zeroPoint hs he =>
    cases a' with
    | quantized storage₁ expressed₁ scale₁ zeroPoint₁ =>
      have parts := h
      simp only [same, Bool.and_eq_true] at parts
      simp only [compatibleElements]
      cases b.elementType with
      | quantized storage' expressed' scale' zeroPoint' =>
        simp only [same_congr h (same_refl _), same_congr parts.1.1.1 (same_refl _),
          he parts.1.1.2]
      | _ => rfl
    | _ => simp [same] at h
  | tuple items ih =>
    cases a' with
    | tuple items' => simp only [compatibleElements, same_congr h (same_refl _), isFloat]
    | _ => simp [same] at h
  | _ => cases a' <;> simp_all [same, compatibleElements, isFloat]

theorem compatibleElements_congr_right (h : b'.same b = true) (a : Ty) :
    compatibleElements relaxed a b' = compatibleElements relaxed a b := by
  have element := elementType_same h
  induction a using induct generalizing b b' with
  | tensor inner shape ih => simpa only [compatibleElements] using ih h element
  | quantized storage expressed scale zeroPoint hs he =>
    simp only [compatibleElements]
    generalize b'.elementType = f', b.elementType = f at element
    cases f' with
    | quantized storage₁ expressed₁ scale₁ zeroPoint₁ =>
      cases f with
      | quantized storage₂ expressed₂ scale₂ zeroPoint₂ =>
        have parts := element
        simp only [same, Bool.and_eq_true] at parts
        simp only [same_congr (same_refl _) element, same_congr (same_refl _) parts.1.1.1,
          he parts.1.1.2 (elementType_same parts.1.1.2)]
      | _ => simp [same] at element
    | _ =>
      cases f with
      | quantized => simp [same] at element
      | _ => rfl
  | _ =>
    simp only [compatibleElements, same_congr (same_refl _) element, isFloat_eq,
      kind?_of_same element]

/-- Compatibility of elements does not tell same types apart. -/
theorem compatibleElements_congr (ha : a'.same a = true) (hb : b'.same b = true) :
    compatibleElements relaxed a' b' = compatibleElements relaxed a b := by
  rw [compatibleElements_congr_left ha, compatibleElements_congr_right hb]

theorem compatibleElements_self (h : a.isElement = true) :
    compatibleElements relaxed a a = true := by
  cases a <;> simp_all [compatibleElements, elementType, same_refl]

/-! ### Representatives -/

/-- The representative of all elements that are compatible with this one. -/
def representative (relaxed : Bool) : Ty → Ty
  | .tensor element _ => element.representative relaxed
  | .quantized storage expressed _ _ =>
      .quantized storage (expressed.representative relaxed) default 0
  | .float format => if relaxed then .float .f32 else .float format
  | other => other

theorem representative_same (relaxed : Bool) (h : a.same b = true) :
    (a.representative relaxed).same (b.representative relaxed) = true := by
  induction a using induct generalizing b with
  | tensor element shape ih =>
    cases b <;> simp only [same, Bool.false_eq_true, Bool.and_eq_true] at h
    simpa only [representative] using ih h.1
  | quantized storage expressed scale zeroPoint hs he =>
    cases b <;> simp only [same, Bool.false_eq_true, Bool.and_eq_true] at h
    simp [representative, same, h.1.1.1, he h.1.1.2, Binary64.same_refl]
  | float format =>
    rw [← eq_of_same_float (same_symm h)]
    exact same_refl _
  | _ => cases b <;> simp_all [same, representative]

theorem representative_elementType (relaxed : Bool) (t : Ty) :
    t.elementType.representative relaxed = t.representative relaxed := by
  cases t <;> rfl

/-- Elements are compatible when their representatives are the same. -/
theorem compatibleElements_iff (hb : b.WellFormed) :
    compatibleElements relaxed a b = true ↔
      (a.representative relaxed).same (b.representative relaxed) = true := by
  induction a using induct generalizing b with
  | tensor element shape ih => exact ih hb
  | quantized storage expressed scale zeroPoint hs he =>
    rw [compatibleElements, ← representative_elementType relaxed b]
    have formed := hb.elementType
    have flat := hb.elementType_ne_tensor
    generalize b.elementType = f at formed flat
    cases formed with
    | quantized scale' zeroPoint' _ formed' =>
      simp only [representative, same, Bool.or_eq_true, Bool.and_eq_true, he formed',
        Binary64.same_refl, beq_self_eq_true, and_true]
      constructor
      · rintro (⟨⟨⟨hstorage, hexpressed⟩, -⟩, -⟩ | both)
        · exact ⟨hstorage, representative_same relaxed hexpressed⟩
        · exact both
      · exact Or.inr
    | tensor => exact absurd rfl (flat _ _)
    | float => cases relaxed <;> simp [representative, same]
    | _ => simp [representative, same]
  | _ =>
    simp only [compatibleElements, ← representative_elementType relaxed b]
    have flat := hb.elementType_ne_tensor
    generalize b.elementType = f at flat
    cases f with
    | tensor element shape => exact absurd rfl (flat element shape)
    | float => cases relaxed <;> simp [representative, same, isFloat]
    | _ => cases relaxed <;> simp [representative, same, isFloat]

/-- Compatibility is an equivalence relation on the elements of types that can be formed. -/
theorem compatibleElements_refl (h : a.WellFormed) : compatibleElements relaxed a a = true :=
  (compatibleElements_iff h).mpr (same_refl _)

theorem compatibleElements_symm (ha : a.WellFormed) (hb : b.WellFormed)
    (h : compatibleElements relaxed a b = true) : compatibleElements relaxed b a = true :=
  (compatibleElements_iff ha).mpr (same_symm ((compatibleElements_iff hb).mp h))

theorem compatibleElements_trans {c : Ty} (hb : b.WellFormed) (hc : c.WellFormed)
    (hab : compatibleElements relaxed a b = true) (hbc : compatibleElements relaxed b c = true) :
    compatibleElements relaxed a c = true :=
  (compatibleElements_iff hc).mpr
    (same_trans ((compatibleElements_iff hb).mp hab) ((compatibleElements_iff hc).mp hbc))

/-! ### Both policies -/

/-- What the strict policy forgets of a type, the relaxed one forgets as well. -/
theorem representative_strict (relaxed : Bool) (t : Ty) :
    (t.representative false).representative relaxed = t.representative relaxed := by
  induction t using induct with
  | quantized storage expressed scale zeroPoint hs he => simp only [representative, he]
  | tensor element shape ih => exact ih
  | _ => rfl

theorem compatibleElements_of_strict (hb : b.WellFormed)
    (h : compatibleElements false a b = true) : compatibleElements relaxed a b = true := by
  rw [compatibleElements_iff hb] at h ⊢
  rw [← representative_strict relaxed a, ← representative_strict relaxed b]
  exact representative_same relaxed h

/-- Under either policy compatibility of elements is an equivalence relation on the types that can
    be formed, with one representative for each class, and types that are compatible under the
    strict policy are so under both. -/
theorem compatibleElements_equivalence (relaxed : Bool) :
    Equivalence (fun a b : {t : Ty // t.WellFormed} =>
      compatibleElements relaxed a.1 b.1 = true) ∧
    (∀ a b : {t : Ty // t.WellFormed}, compatibleElements relaxed a.1 b.1 = true ↔
      (a.1.representative relaxed).same (b.1.representative relaxed) = true) ∧
    ∀ a b : {t : Ty // t.WellFormed}, compatibleElements false a.1 b.1 = true →
      compatibleElements relaxed a.1 b.1 = true := by
  refine ⟨⟨fun a => ?_, fun {a b} h => ?_, fun {a b c} hab hbc => ?_⟩, fun a b => ?_,
    fun a b h => ?_⟩
  · exact compatibleElements_refl a.2
  · exact compatibleElements_symm a.2 b.2 h
  · exact compatibleElements_trans b.2 c.2 hab hbc
  · exact compatibleElements_iff b.2
  · exact compatibleElements_of_strict b.2 h

/-- Integers of four bits stand for floats, and tensors of them or they themselves are what integers
    of eight bits stand for. How wide the floats are matters under the strict policy only. -/
theorem compatibleElements_equivalence_nested :
    compatibleElements true
        (.quantized (.int .w8 true)
          (.tensor (.quantized (.int .w4 true) (.float .f16) .zero 0) .unranked) .zero 0)
        (.quantized (.int .w8 true) (.quantized (.int .w4 true) (.float .f64) .zero 1) .zero 0) =
      true ∧
    compatibleElements false
        (.quantized (.int .w8 true)
          (.tensor (.quantized (.int .w4 true) (.float .f16) .zero 0) .unranked) .zero 0)
        (.quantized (.int .w8 true) (.quantized (.int .w4 true) (.float .f64) .zero 1) .zero 0) =
      false := by
  let narrow : {t : Ty // t.WellFormed} :=
    ⟨.quantized (.int .w8 true)
      (.tensor (.quantized (.int .w4 true) (.float .f16) .zero 0) .unranked) .zero 0, by decide⟩
  let single : {t : Ty // t.WellFormed} :=
    ⟨.quantized (.int .w8 true) (.quantized (.int .w4 true) (.float .f32) .zero 0) .zero 2,
      by decide⟩
  let wide : {t : Ty // t.WellFormed} :=
    ⟨.quantized (.int .w8 true) (.quantized (.int .w4 true) (.float .f64) .zero 1) .zero 0,
      by decide⟩
  have first : compatibleElements true narrow.1 single.1 = true := rfl
  have second : compatibleElements true single.1 wide.1 = true := rfl
  obtain ⟨equivalence, -, -⟩ := compatibleElements_equivalence true
  exact ⟨equivalence.trans first second, rfl⟩

end Ty

end TensorTyping
