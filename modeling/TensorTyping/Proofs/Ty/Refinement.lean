import Mathlib.Data.List.Forall2
import TensorTyping.Proofs.Items
import TensorTyping.Proofs.Ty.Same

/-!
# The refinement order

One extent refines another when it is the same or fills in an unknown one; one shape refines another
when its extents do, or when the other is unranked. Types are refined in their shapes: the structure
is kept, and so are the element types, up to a relation that is a parameter. Everything that the
checks ask of extents and shapes can only get harder to satisfy when more of them is known.
-/

namespace TensorTyping

/-! ### Extents -/

/-- The first extent is what is known of the second, or more. -/
inductive Extent.Refines : Extent → Extent → Prop
  | unknown (fine : Extent) : Extent.Refines fine none
  | refl (dim : Extent) : Extent.Refines dim dim

namespace Extent

variable {a a' b b' : Extent}

theorem refines_iff : a'.Refines a ↔ a = none ∨ a' = a := by
  constructor
  · rintro (_ | _)
    · exact Or.inl rfl
    · exact Or.inr rfl
  · rintro (rfl | rfl)
    · exact .unknown a'
    · exact .refl a'

instance (a' a : Extent) : Decidable (a'.Refines a) := decidable_of_iff _ refines_iff.symm

theorem Refines.trans {c : Extent} (hab : a.Refines b) (hbc : b.Refines c) : a.Refines c := by
  cases hbc with
  | unknown => exact .unknown a
  | refl => exact hab

theorem Refines.antisymm (hab : a.Refines b) (hba : b.Refines a) : a = b := by
  cases hab with
  | refl => rfl
  | unknown =>
    cases hba
    · rfl
    · rfl

theorem Refines.eq_some {n : Int} (h : a'.Refines (some n)) : a' = some n := by
  cases h
  rfl

theorem compatible_comm (a b : Extent) : a.compatible b = b.compatible a := by
  cases a <;> cases b <;> simp [compatible, eq_comm]

@[simp] theorem compatible_self (a : Extent) : a.compatible a = true := by
  cases a <;> simp [compatible]

@[simp] theorem compatible_none_left (b : Extent) : compatible none b = true := rfl

@[simp] theorem compatible_none_right (a : Extent) : compatible a none = true := by
  cases a <;> rfl

/-- Extents that agree on more agree on less. -/
theorem Refines.compatible (ha : a'.Refines a) (hb : b'.Refines b)
    (agree : a'.compatible b' = true) : a.compatible b = true := by
  cases ha with
  | unknown => simp
  | refl =>
    cases hb with
    | unknown => simp
    | refl => exact agree

/-- The refinement of two extents refines the first, and the second when they agree. -/
theorem refine_refines_left (a b : Extent) : (a.refine b).Refines a := by
  cases a with
  | none => exact .unknown _
  | some n => exact .refl _

theorem refine_refines_right (agree : a.compatible b = true) : (a.refine b).Refines b := by
  cases a <;> cases b <;> simp_all [Extent.refine, Extent.compatible, refines_iff]

/-- An extent that refines two others refines what they say together. -/
theorem Refines.refine_least {c : Extent} (ha : c.Refines a) (hb : c.Refines b) :
    c.Refines (a.refine b) := by
  cases a with
  | none => exact hb
  | some n => exact ha

theorem Refines.refine (ha : a'.Refines a) (hb : b'.Refines b)
    (agree : a'.compatible b' = true) : (a'.refine b').Refines (a.refine b) :=
  ((refine_refines_left a' b').trans ha).refine_least ((refine_refines_right agree).trans hb)

/-- Extents that are all known are a list of numbers. -/
theorem exists_map_some {dims : List Extent} (known : none ∉ dims) :
    ∃ values : List Int, dims = values.map some := by
  induction dims with
  | nil => exact ⟨[], rfl⟩
  | cons dim rest ih =>
    rw [List.mem_cons, not_or] at known
    obtain ⟨values, rfl⟩ := ih known.2
    cases dim with
    | none => exact absurd rfl known.1
    | some n => exact ⟨n :: values, rfl⟩

/-- The extent is the common value of all known extents of a list, and unknown when none of them is
    known. -/
def IsCommon (extent : Extent) (dims : List Extent) : Prop := ∀ n, extent = some n ↔ some n ∈ dims

theorem isCommon_singleton {extent dim : Extent} : extent.IsCommon [dim] ↔ extent = dim := by
  constructor
  · intro common
    apply Option.ext
    intro n
    rw [common n, List.mem_singleton, eq_comm]
  · rintro rfl n
    rw [List.mem_singleton, eq_comm]

/-- Extents that have a common value are compatible, and can be taken together one by one. -/
theorem isCommon_cons_cons {extent a b : Extent} {rest : List Extent} :
    extent.IsCommon (a :: b :: rest) ↔
      b.compatible a = true ∧ extent.IsCommon (b.refine a :: rest) := by
  cases a with
  | none => cases b <;> simp [IsCommon, compatible, refine]
  | some m =>
    cases b with
    | none => simp [IsCommon, compatible, refine]
    | some n =>
      simp only [IsCommon, compatible, refine, beq_iff_eq, List.mem_cons, Option.some.injEq]
      constructor
      · intro common
        have first := (common m).mpr (Or.inl rfl)
        have second := (common n).mpr (Or.inr (Or.inl rfl))
        obtain rfl : n = m := Option.some.inj (second.symm.trans first)
        exact ⟨rfl, fun k => by rw [common k, or_self_left]⟩
      · rintro ⟨rfl, common⟩ k
        rw [common k, or_self_left]

/-- The common value is kept when it is listed once more, and others are left out. -/
theorem IsCommon.of_subset {extent : Extent} {dims dims' : List Extent}
    (common : extent.IsCommon dims) (member : extent ∈ dims') (inside : dims' ⊆ extent :: dims) :
    extent.IsCommon dims' := by
  intro n
  constructor
  · rintro rfl
    exact member
  · intro known
    rcases List.mem_cons.mp (inside known) with same | known
    · exact same.symm
    · exact (common n).mpr known

end Extent

/-! ### Shapes -/

/-- The extents of the first list refine those of the second. -/
abbrev RefinesDims (fine coarse : List Extent) : Prop := List.Forall₂ Extent.Refines fine coarse

/-- The first shape is what is known of the second, or more. -/
inductive Shape.Refines : Shape → Shape → Prop
  | unranked (fine : Shape) : Shape.Refines fine .unranked
  | ranked {fine coarse : List Extent} :
      RefinesDims fine coarse → Shape.Refines (.ranked fine) (.ranked coarse)

namespace RefinesDims

variable {fine coarse : List Extent}

theorem refl (dims : List Extent) : RefinesDims dims dims :=
  List.forall₂_same.mpr fun dim _ => .refl dim

theorem trans {a b c : List Extent} (hab : RefinesDims a b) (hbc : RefinesDims b c) :
    RefinesDims a c := by
  induction hab generalizing c with
  | nil => exact hbc
  | cons first _ ih =>
    obtain ⟨_, _, first', others, rfl⟩ := List.forall₂_cons_left_iff.mp hbc
    exact .cons (first.trans first') (ih others)

theorem antisymm {a b : List Extent} (hab : RefinesDims a b) (hba : RefinesDims b a) : a = b := by
  induction hab with
  | nil => rfl
  | cons first _ ih =>
    cases hba with
    | cons first' others => rw [first.antisymm first', ih others]

/-- An extent at a position, unknown beyond the last one. -/
theorem getElem?_join (h : RefinesDims fine coarse) (i : Nat) :
    Extent.Refines fine[i]?.join coarse[i]?.join := by
  induction h generalizing i with
  | nil => exact .unknown _
  | cons first _ ih =>
    cases i with
    | zero => simpa using first
    | succ i => simpa using ih i

theorem dropLast (h : RefinesDims fine coarse) : RefinesDims fine.dropLast coarse.dropLast := by
  rw [List.dropLast_eq_take, List.dropLast_eq_take, h.length_eq]
  exact List.forall₂_take _ h

/-- Known extents are refined only by themselves. -/
theorem eq_of_known (h : RefinesDims fine coarse) (known : none ∉ coarse) : fine = coarse := by
  induction h with
  | nil => rfl
  | cons first _ ih =>
    rw [List.mem_cons, not_or] at known
    rcases Extent.refines_iff.mp first with unknown | rfl
    · exact absurd unknown.symm known.1
    · rw [ih known.2]

theorem of_unknown (dims : List Extent) : RefinesDims dims (List.replicate dims.length none) := by
  induction dims with
  | nil => exact .nil
  | cons dim rest ih => exact .cons (.unknown dim) ih

/-- A change at a position where nothing is known. -/
theorem set_of_unknown (h : RefinesDims fine coarse) {i : Nat} (unknown : coarse[i]?.join = none)
    (dim : Extent) : RefinesDims (fine.set i dim) coarse := by
  induction h generalizing i with
  | nil => exact .nil
  | cons first rest ih =>
    cases i with
    | zero =>
      rw [List.getElem?_cons_zero, Option.join_some] at unknown
      rw [unknown]
      exact .cons (.unknown dim) rest
    | succ i => exact .cons first (ih (by simpa using unknown))

/-- Dropping the same positions of both lists. -/
theorem without (h : RefinesDims fine coarse) (positions : List Int) :
    RefinesDims (Shape.without fine positions) (Shape.without coarse positions) := by
  unfold Shape.without
  generalize 0 = start
  induction h generalizing start with
  | nil => exact .nil
  | cons first _ ih =>
    simp only [List.zipIdx_cons, List.filter_cons]
    split
    · exact .cons first (ih (start + 1))
    · exact ih (start + 1)

/-- Lists that are refined agree pairwise when their refinements do. -/
theorem compatibleDims {a a' b b' : List Extent} (ha : RefinesDims a' a) (hb : RefinesDims b' b)
    (agree : Shape.compatibleDims a' b' = true) : Shape.compatibleDims a b = true := by
  induction ha generalizing b b' with
  | nil =>
    cases hb with
    | nil => rfl
    | cons => simp [Shape.compatibleDims] at agree
  | cons first _ ih =>
    cases hb with
    | nil => simp [Shape.compatibleDims] at agree
    | cons first' others =>
      simp only [Shape.compatibleDims, Bool.and_eq_true] at agree ⊢
      exact ⟨first.compatible first' agree.1, ih others agree.2⟩

theorem refineDims_left {a b : List Extent} (agree : Shape.compatibleDims a b = true) :
    RefinesDims (Shape.refineDims a b) a := by
  induction a generalizing b with
  | nil => exact .nil
  | cons dim rest ih =>
    cases b with
    | nil => simp [Shape.compatibleDims] at agree
    | cons dim' rest' =>
      simp only [Shape.compatibleDims, Bool.and_eq_true] at agree
      exact .cons (Extent.refine_refines_left dim dim') (ih agree.2)

theorem refineDims_right {a b : List Extent} (agree : Shape.compatibleDims a b = true) :
    RefinesDims (Shape.refineDims a b) b := by
  induction a generalizing b with
  | nil =>
    cases b with
    | nil => exact .nil
    | cons => simp [Shape.compatibleDims] at agree
  | cons dim rest ih =>
    cases b with
    | nil => simp [Shape.compatibleDims] at agree
    | cons dim' rest' =>
      simp only [Shape.compatibleDims, Bool.and_eq_true] at agree
      exact .cons (Extent.refine_refines_right agree.1) (ih agree.2)

theorem refineDims_least {a b c : List Extent} (ha : RefinesDims c a) (hb : RefinesDims c b) :
    RefinesDims c (Shape.refineDims a b) := by
  induction ha generalizing b with
  | nil => exact .nil
  | cons first _ ih =>
    obtain ⟨_, _, first', others, rfl⟩ := List.forall₂_cons_left_iff.mp hb
    exact .cons (first.refine_least first') (ih others)

end RefinesDims

namespace Shape

variable {s s' t t' : Shape}

theorem Refines.refl (s : Shape) : s.Refines s := by
  cases s with
  | unranked => exact .unranked _
  | ranked dims => exact .ranked (RefinesDims.refl dims)

theorem Refines.trans {u : Shape} (hst : s.Refines t) (htu : t.Refines u) : s.Refines u := by
  cases htu with
  | unranked => exact .unranked s
  | ranked later =>
    cases hst with
    | ranked first => exact .ranked (first.trans later)

theorem Refines.antisymm (hst : s.Refines t) (hts : t.Refines s) : s = t := by
  cases hst with
  | unranked =>
    cases hts
    rfl
  | ranked dims =>
    cases hts with
    | ranked dims' => rw [dims.antisymm dims']

theorem exists_of_isStatic (static : s.isStatic = true) :
    ∃ dims : List Int, s = .ranked (dims.map some) := by
  cases s with
  | unranked => simp [isStatic] at static
  | ranked dims =>
    have known : none ∉ dims := by
      intro member
      have absurd := List.all_eq_true.mp static none member
      simp at absurd
    obtain ⟨values, rfl⟩ := Extent.exists_map_some known
    exact ⟨values, rfl⟩

theorem rank?_eq_none : s.rank? = none ↔ s = .unranked := by
  cases s <;> simp [rank?]

/-- A rank that is known of the coarser shape is that of the finer one. -/
theorem Refines.rank?_eq_some (h : s'.Refines s) {n : Nat} (known : s.rank? = some n) :
    s'.rank? = some n := by
  cases h with
  | unranked => simp [rank?] at known
  | ranked dims =>
    rw [← known]
    simp [rank?, dims.length_eq]

theorem Refines.rank?_eq_or (h : s'.Refines s) : s.rank? = none ∨ s.rank? = s'.rank? := by
  cases known : s.rank? with
  | none => exact Or.inl rfl
  | some n => exact Or.inr (h.rank?_eq_some known).symm

theorem Refines.compatible (hs : s'.Refines s) (ht : t'.Refines t)
    (agree : s'.compatible t' = true) : s.compatible t = true := by
  cases hs with
  | unranked => rfl
  | ranked dims =>
    cases ht with
    | unranked => rfl
    | ranked dims' => exact dims.compatibleDims dims' agree

/-- What two shapes say together refines each of them when they agree. -/
theorem refine_refines_left (agree : s.compatible t = true) : (s.refine t).Refines s := by
  cases s with
  | unranked => exact .unranked _
  | ranked dims =>
    cases t with
    | unranked => exact .refl _
    | ranked dims' => exact .ranked (RefinesDims.refineDims_left agree)

theorem refine_refines_right (agree : s.compatible t = true) : (s.refine t).Refines t := by
  cases t with
  | unranked => exact .unranked _
  | ranked dims' =>
    cases s with
    | unranked => exact .refl _
    | ranked dims => exact .ranked (RefinesDims.refineDims_right agree)

/-- A shape that refines two others refines what they say together. -/
theorem Refines.refine_least {u : Shape} (hs : u.Refines s) (ht : u.Refines t) :
    u.Refines (s.refine t) := by
  cases hs with
  | unranked => exact ht
  | ranked dims =>
    cases ht with
    | unranked => exact .ranked dims
    | ranked dims' => exact .ranked (RefinesDims.refineDims_least dims dims')

theorem refines_refine_iff {u : Shape} (agree : s.compatible t = true) :
    u.Refines (s.refine t) ↔ u.Refines s ∧ u.Refines t := by
  constructor
  · intro both
    exact ⟨both.trans (refine_refines_left agree), both.trans (refine_refines_right agree)⟩
  · rintro ⟨hs, ht⟩
    exact hs.refine_least ht

theorem Refines.refine (hs : s'.Refines s) (ht : t'.Refines t)
    (agree : s'.compatible t' = true) : (s'.refine t').Refines (s.refine t) :=
  ((refine_refines_left agree).trans hs).refine_least ((refine_refines_right agree).trans ht)

end Shape

/-! ### Types -/

namespace Ty

/-- The first type is what is known of the second, or more: the structure is the same, every shape
    refines its counterpart, and the element types are related. -/
inductive RefinesUpTo (related : Ty → Ty → Prop) : Ty → Ty → Prop
  | element {fine coarse : Ty} : fine.isElement = true → coarse.isElement = true →
      related fine coarse → RefinesUpTo related fine coarse
  | tensor {fine coarse : Ty} {s s' : Shape} : related fine coarse → s.Refines s' →
      RefinesUpTo related (.tensor fine s) (.tensor coarse s')
  | tuple {fine coarse : List Ty} : List.Forall₂ (RefinesUpTo related) fine coarse →
      RefinesUpTo related (.tuple fine) (.tuple coarse)
  | token : RefinesUpTo related .token .token
  | missing : RefinesUpTo related .missing .missing

/-- The first type refines the second, and has the same element types. -/
abbrev Refines : Ty → Ty → Prop := RefinesUpTo fun a b => a.same b = true

/-- The lists have one length, and the types of the first refine those of the second. -/
abbrev RefinesAll (fine coarse : List Ty) : Prop := List.Forall₂ Refines fine coarse

theorem Refines.refl (t : Ty) : t.Refines t := by
  induction t using induct with
  | tensor element shape ih => exact .tensor (same_refl element) (.refl shape)
  | tuple items ih => exact .tuple (List.forall₂_same.mpr ih)
  | token => exact .token
  | missing => exact .missing
  | _ => exact .element rfl rfl (same_refl _)

theorem RefinesAll.refl (types : List Ty) : RefinesAll types types :=
  List.forall₂_same.mpr fun t _ => .refl t

/-- Refinements can be composed when the relations between their element types can. -/
theorem RefinesUpTo.trans {first second both : Ty → Ty → Prop}
    (compose : ∀ x y z, first x y → second y z → both x z) {a b c : Ty}
    (hab : a.RefinesUpTo first b) (hbc : b.RefinesUpTo second c) : a.RefinesUpTo both c := by
  induction a using induct generalizing b c with
  | tensor element shape ih =>
    cases hab with
    | element isElement => simp at isElement
    | tensor related refined =>
      cases hbc with
      | element isElement => simp at isElement
      | tensor related' refined' =>
        exact .tensor (compose _ _ _ related related') (refined.trans refined')
  | tuple items ih =>
    cases hab with
    | element isElement => simp at isElement
    | tuple all =>
      cases hbc with
      | element isElement => simp at isElement
      | tuple all' =>
        exact .tuple (forall₂_comp all all' fun item member _ _ _ _ => ih item member)
  | token =>
    cases hab with
    | element isElement => simp at isElement
    | token =>
      cases hbc with
      | element isElement => simp at isElement
      | token => exact .token
  | missing =>
    cases hab with
    | element isElement => simp at isElement
    | missing =>
      cases hbc with
      | element isElement => simp at isElement
      | missing => exact .missing
  | _ =>
    cases hab with
    | element fine coarse related =>
      cases hbc with
      | element _ coarse' related' => exact .element fine coarse' (compose _ _ _ related related')
      | _ => simp at coarse

theorem Refines.trans {a b c : Ty} (hab : a.Refines b) (hbc : b.Refines c) : a.Refines c := by
  refine RefinesUpTo.trans ?_ hab hbc
  intro x y z
  exact same_trans

/-- An element type is refined by the same type only. -/
theorem Refines.same_of_isElement {fine coarse : Ty} (h : fine.Refines coarse)
    (element : fine.isElement = true) : fine.same coarse = true := by
  cases h with
  | element _ _ same => exact same
  | _ => simp at element

theorem Refines.kind?_eq {fine coarse : Ty} (h : fine.Refines coarse) :
    fine.kind? = coarse.kind? := by
  cases h with
  | element _ _ same => exact kind?_of_same same
  | _ => rfl

theorem Refines.isElement {fine coarse : Ty} (h : fine.Refines coarse) :
    fine.isElement = coarse.isElement := by
  cases h with
  | element fine coarse _ => rw [fine, coarse]
  | _ => rfl

end Ty

namespace Tensor

variable {t t' : Tensor}

/-- The tensor is what is known of the other one, or more. -/
structure Refines (fine coarse : Tensor) : Prop where
  element : fine.element.same coarse.element = true
  shape : fine.shape.Refines coarse.shape

theorem Refines.ty (h : t'.Refines t) : t'.ty.Refines t.ty := .tensor h.element h.shape

theorem Refines.rank?_eq_or (h : t'.Refines t) : t.rank? = none ∨ t.rank? = t'.rank? :=
  h.shape.rank?_eq_or

theorem Refines.dim (h : t'.Refines t) (index : Int) :
    Check.Carries Extent.Refines (t'.dim index) (t.dim index) := by
  obtain ⟨element', shape'⟩ := t'
  obtain ⟨element, shape⟩ := t
  obtain ⟨-, shapes⟩ := h
  cases shapes with
  | unranked => exact .to_ok fun _ _ => .unknown _
  | ranked dims => exact .itemAt dims index

/-- A rank that the finer tensor may have is one that the coarser tensor may have. -/
theorem Refines.hasOtherRank (h : t'.Refines t) {n : Nat} (fits : (!t'.hasOtherRank n) = true) :
    (!t.hasOtherRank n) = true := by
  unfold Tensor.hasOtherRank Tensor.rank? at *
  cases known : t.shape.rank? with
  | none => rfl
  | some m => simpa [h.shape.rank?_eq_some known] using fits

/-- A tensor without a rank has none when less is known. -/
theorem Refines.hasRank (h : t'.Refines t) (unranked : (!t'.hasRank) = true) :
    (!t.hasRank) = true := by
  obtain ⟨element', shape'⟩ := t'
  obtain ⟨element, shape⟩ := t
  obtain ⟨-, shapes⟩ := h
  cases shapes with
  | unranked => rfl
  | ranked dims => simp [Tensor.hasRank, Shape.hasRank] at unranked

end Tensor

end TensorTyping
