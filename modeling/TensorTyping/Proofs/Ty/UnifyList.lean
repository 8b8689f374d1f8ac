import TensorTyping.Proofs.Ty.Unification

/-!
# Unification of a list of types

A list of types is unified from the left. The step of this fold replaces two compatible types by
their merge; it keeps the types that the whole list agrees with, and the types that refine the whole
list. Hence the order of the list does not matter.
-/

namespace TensorTyping

/-! ### Types that can be formed are merged into such types -/

theorem Shape.WellFormed.refine {s t : Shape} (hs : s.WellFormed) (ht : t.WellFormed) :
    (s.refine t).WellFormed := by
  cases s with
  | unranked => exact ht
  | ranked dims =>
    cases t with
    | unranked => exact hs
    | ranked dims' =>
      rintro _ ⟨⟩
      have first := hs dims rfl
      have second := ht dims' rfl
      clear hs ht
      induction dims generalizing dims' with
      | nil => simp [refineDims]
      | cons dim rest ih =>
        cases dims' with
        | nil => simp [refineDims]
        | cons dim' rest' =>
          simp only [List.forall_mem_cons] at first second
          refine List.forall_mem_cons.mpr ⟨?_, ih rest' first.2 second.2⟩
          cases dim with
          | none => exact second.1
          | some n => exact first.1

namespace Ty

variable {a b c : Ty} {relaxed : Bool} {what : String}

theorem WellFormed.merge (ha : a.WellFormed) (hb : b.WellFormed) : (merge a b).WellFormed := by
  induction a using induct generalizing b with
  | tensor element shape ih =>
    cases hb with
    | tensor _ _ shape' =>
      cases ha with
      | tensor isElement formed shape => exact .tensor isElement formed (shape.refine shape')
    | _ => exact ha
  | tuple items ih =>
    cases hb with
    | tuple formed' =>
      cases ha with
      | tuple formed =>
        refine .tuple ?_
        rename_i items'
        induction items generalizing items' with
        | nil => simp [merge.mergeAll]
        | cons item rest others =>
          cases items' with
          | nil => simp [merge.mergeAll]
          | cons item' rest' =>
            simp only [List.forall_mem_cons] at ih formed formed'
            exact List.forall_mem_cons.mpr
              ⟨ih.1 formed.1 formed'.1, others ih.2 formed'.2 formed.2⟩
    | _ => exact ha
  | token => cases b <;> exact ha
  | missing => cases ha
  | _ =>
    rw [merge_of_isElement rfl]
    exact ha

/-! ### The fold -/

/-- The fold decides whether all types are pairwise compatible. The accumulator stands for the types
    that were merged into it, which is what makes one comparison with it enough. -/
theorem foldlM_unify_eq_ok {first : Ty} {rest : List Ty} {u : Ty}
    (formed : ∀ t ∈ first :: rest, t.WellFormed) :
    rest.foldlM (unify what relaxed) first = .ok u ↔
      (first :: rest).Pairwise (fun x y => compatible relaxed x y = true) ∧
        rest.foldl merge first = u := by
  induction rest generalizing first with
  | nil => simp
  | cons next rest ih =>
    simp only [List.forall_mem_cons] at formed
    obtain ⟨hfirst, hnext, hrest⟩ := formed
    simp only [List.foldlM_cons, Check.bind_eq_ok, unify_eq_ok, List.foldl_cons]
    have step : ∀ agree : compatible relaxed first next = true,
        ((merge first next) :: rest).Pairwise (fun x y => compatible relaxed x y = true) ↔
          (first :: next :: rest).Pairwise (fun x y => compatible relaxed x y = true) := by
      intro agree
      simp only [List.pairwise_cons, List.forall_mem_cons, agree, true_and]
      constructor
      · rintro ⟨all, others⟩
        have both := fun t member =>
          (compatible_merge hfirst hnext (hrest t member) agree).mp (all t member)
        exact ⟨fun t member => (both t member).1, fun t member => (both t member).2, others⟩
      · rintro ⟨all, all', others⟩
        refine ⟨fun t member => ?_, others⟩
        exact (compatible_merge hfirst hnext (hrest t member) agree).mpr
          ⟨all t member, all' t member⟩
    have formed' : ∀ t ∈ merge first next :: rest, t.WellFormed :=
      List.forall_mem_cons.mpr ⟨hfirst.merge hnext, hrest⟩
    constructor
    · rintro ⟨_, ⟨agree, rfl⟩, folded⟩
      rw [ih formed', step agree] at folded
      exact folded
    · rintro ⟨all, result⟩
      have agree := (List.pairwise_cons.mp all).1 next List.mem_cons_self
      exact ⟨_, ⟨agree, rfl⟩, (ih formed').mpr ⟨(step agree).mpr all, result⟩⟩

/-- The result of the fold refines the accumulator and all other types. -/
theorem foldlM_unify_refines {first : Ty} {rest : List Ty} {u : Ty}
    (folded : rest.foldlM (unify what relaxed) first = .ok u) :
    u.Refines first ∧
      ∀ t ∈ rest, u.RefinesUpTo (fun x y => compatibleElements relaxed x y = true) t := by
  induction rest generalizing first with
  | nil =>
    simp only [List.foldlM_nil, Check.pure_eq, Except.ok.injEq] at folded
    subst folded
    exact ⟨.refl first, by simp⟩
  | cons next rest ih =>
    simp only [List.foldlM_cons, Check.bind_eq_ok, unify_eq_ok] at folded
    obtain ⟨_, ⟨agree, rfl⟩, folded⟩ := folded
    obtain ⟨refinesMerge, others⟩ := ih folded
    refine ⟨Refines.trans refinesMerge (merge_refines_left agree), ?_⟩
    refine List.forall_mem_cons.mpr ⟨?_, others⟩
    refine RefinesUpTo.trans (fun x y z same related => ?_) refinesMerge (merge_refines_right agree)
    rw [compatibleElements_congr same (same_refl z)]
    exact related

/-- A type that refines all types refines the result of the fold. -/
theorem foldlM_unify_least {first : Ty} {rest : List Ty} {u v : Ty} {related : Ty → Ty → Prop}
    (folded : rest.foldlM (unify what relaxed) first = .ok u)
    (bound : ∀ t ∈ first :: rest, v.RefinesUpTo related t) : v.RefinesUpTo related u := by
  induction rest generalizing first with
  | nil =>
    simp only [List.foldlM_nil, Check.pure_eq, Except.ok.injEq] at folded
    subst folded
    exact bound first List.mem_cons_self
  | cons next rest ih =>
    simp only [List.foldlM_cons, Check.bind_eq_ok, unify_eq_ok] at folded
    obtain ⟨_, ⟨-, rfl⟩, folded⟩ := folded
    simp only [List.forall_mem_cons] at bound
    refine ih folded (List.forall_mem_cons.mpr ⟨?_, bound.2.2⟩)
    exact bound.1.merge_least bound.2.1

/-! ### Shapes of the result -/

/-- The type with all its element types forgotten. -/
def outline : Ty → Ty
  | .tensor _ shape => .tensor .bool shape
  | .tuple items => .tuple (outlineAll items)
  | .token => .token
  | .missing => .missing
  | _ => .bool
where
  /-- The outlines of the items of a tuple. -/
  outlineAll : List Ty → List Ty
  | [] => []
  | item :: rest => item.outline :: outlineAll rest

/-- Types that refine each other differ in their element types only. -/
theorem outline_eq_of_refines {related related' : Ty → Ty → Prop}
    (hab : a.RefinesUpTo related b) (hba : b.RefinesUpTo related' a) : a.outline = b.outline := by
  induction a using induct generalizing b with
  | tensor element shape ih =>
    cases hab with
    | element isElement => simp at isElement
    | tensor _ shapes =>
      cases hba with
      | element isElement => simp at isElement
      | tensor _ shapes' => rw [outline, outline, shapes.antisymm shapes']
  | tuple items ih =>
    cases hab with
    | element isElement => simp at isElement
    | tuple all =>
      cases hba with
      | element isElement => simp at isElement
      | tuple all' =>
        rw [outline, outline]
        congr 1
        induction all with
        | nil => rfl
        | cons first _ rest =>
          cases all' with
          | cons first' others =>
            simp only [List.forall_mem_cons] at ih
            rw [outline.outlineAll, outline.outlineAll, ih.1 first first', rest ih.2 others]
  | token =>
    cases hab with
    | element isElement => simp at isElement
    | token => rfl
  | missing =>
    cases hab with
    | element isElement => simp at isElement
    | missing => rfl
  | _ =>
    cases hab with
    | element _ isElement _ => cases b <;> simp_all [outline]

/-! ### Least upper bounds -/

/-- Compatibility of all pairs in order is compatibility of any two members. -/
theorem pairwise_compatible_iff {types : List Ty} (formed : ∀ t ∈ types, t.WellFormed) :
    types.Pairwise (fun x y => compatible relaxed x y = true) ↔
      ∀ a ∈ types, ∀ b ∈ types, compatible relaxed a b = true := by
  constructor
  · intro all a ha b hb
    refine List.Pairwise.forall_of_forall_of_flip
      (fun t member => compatible_refl (formed t member)) all ?_ ha hb
    refine all.imp_of_mem fun {x y} hx hy agree => ?_
    exact compatible_symm (formed x hx) (formed y hy) agree
  · exact List.pairwise_of_forall_mem_list

theorem exists_unifyList_iff {types : List Ty} (nonempty : types ≠ [])
    (formed : ∀ t ∈ types, t.WellFormed) :
    (∃ u, unifyList types what relaxed = .ok u) ↔
      ∀ a ∈ types, ∀ b ∈ types, compatible relaxed a b = true := by
  rw [← pairwise_compatible_iff formed]
  cases types with
  | nil => exact absurd rfl nonempty
  | cons first rest => simp [unifyList, foldlM_unify_eq_ok formed]

theorem WellFormed.refinesUpTo_self (h : a.WellFormed) (relaxed : Bool) :
    a.RefinesUpTo (fun x y => compatibleElements relaxed x y = true) a := by
  induction a using induct with
  | tensor element shape ih =>
    cases h with
    | tensor _ formed _ => exact .tensor (compatibleElements_refl formed) (.refl shape)
  | tuple items ih =>
    cases h with
    | tuple formed =>
      exact .tuple (List.forall₂_same.mpr fun item member => ih item member (formed item member))
  | token => exact .token
  | missing => cases h
  | _ => exact .element rfl rfl (compatibleElements_refl h)

theorem unifyList_refines {types : List Ty} {u : Ty} (formed : ∀ t ∈ types, t.WellFormed)
    (unified : unifyList types what relaxed = .ok u) :
    ∀ t ∈ types, u.RefinesUpTo (fun x y => compatibleElements relaxed x y = true) t := by
  cases types with
  | nil => simp [unifyList] at unified
  | cons first rest =>
    obtain ⟨refinesFirst, others⟩ := foldlM_unify_refines unified
    refine List.forall_mem_cons.mpr ⟨?_, others⟩
    refine RefinesUpTo.trans (fun x y z same related => ?_) refinesFirst
      ((formed first List.mem_cons_self).refinesUpTo_self relaxed)
    rw [compatibleElements_congr same (same_refl z)]
    exact related

theorem unifyList_least {types : List Ty} {u v : Ty} {related : Ty → Ty → Prop}
    (unified : unifyList types what relaxed = .ok u)
    (bound : ∀ t ∈ types, v.RefinesUpTo related t) : v.RefinesUpTo related u := by
  cases types with
  | nil => simp [unifyList] at unified
  | cons first rest => exact foldlM_unify_least unified bound

/-- Least upper bounds of one set of types have the same shapes. -/
theorem outline_eq_of_perm {types types' : List Ty} {u u' : Ty}
    (formed : ∀ t ∈ types, t.WellFormed) (perm : types'.Perm types)
    (unified : unifyList types what relaxed = .ok u)
    (unified' : unifyList types' what relaxed = .ok u') : u'.outline = u.outline := by
  have formed' : ∀ t ∈ types', t.WellFormed := fun t member => formed t (perm.mem_iff.mp member)
  have refines := unifyList_refines formed unified
  have refines' := unifyList_refines formed' unified'
  apply outline_eq_of_refines
  · exact unifyList_least unified fun t member => refines' t (perm.mem_iff.mpr member)
  · exact unifyList_least unified' fun t member => refines t (perm.mem_iff.mp member)

/-- Unification of a list of types is the least upper bound in the refinement order. It exists when
    any two members are compatible; it refines every member up to compatible elements, and every
    type that refines all members, whatever its elements have to do with theirs, refines it. The
    order of the list changes neither whether it exists nor its shapes. -/
theorem unifyList_isLeastUpperBound (types : List Ty) (what : String) (relaxed : Bool)
    (nonempty : types ≠ []) (formed : ∀ t ∈ types, t.WellFormed) :
    ((∃ u, unifyList types what relaxed = .ok u) ↔
      ∀ a ∈ types, ∀ b ∈ types, checkCompatible a b relaxed = .ok true) ∧
    (∀ u, unifyList types what relaxed = .ok u →
      (∀ t ∈ types, u.RefinesUpTo (fun a b => compatibleElements relaxed a b = true) t) ∧
      (∀ (related : Ty → Ty → Prop) (v : Ty), (∀ t ∈ types, v.RefinesUpTo related t) →
        v.RefinesUpTo related u)) ∧
    (∀ types' : List Ty, types'.Perm types →
      ((∃ u', unifyList types' what relaxed = .ok u') ↔
        ∃ u, unifyList types what relaxed = .ok u) ∧
      ∀ u u', unifyList types what relaxed = .ok u → unifyList types' what relaxed = .ok u' →
        u'.outline = u.outline) := by
  refine ⟨?_, ?_, ?_⟩
  · simp only [exists_unifyList_iff nonempty formed, checkCompatible_eq_ok_true]
  · intro u unified
    exact ⟨unifyList_refines formed unified, fun related v => unifyList_least unified⟩
  · intro types' perm
    have nonempty' : types' ≠ [] := by
      rintro rfl
      exact nonempty perm.nil_eq.symm
    have formed' : ∀ t ∈ types', t.WellFormed := fun t member =>
      formed t (perm.mem_iff.mp member)
    refine ⟨?_, fun u u' => outline_eq_of_perm formed perm⟩
    simp only [exists_unifyList_iff nonempty formed, exists_unifyList_iff nonempty' formed',
      perm.mem_iff]

/-- Three pairs that know different extents, one of them only under the relaxed policy. -/
theorem unifyList_isLeastUpperBound_pairs :
    let types : List Ty :=
      [.tuple [.tensor (.float .f32) (.ranked [none, some 3]), .token],
        .tuple [.tensor (.float .f16) (.ranked [some 2, none]), .token],
        .tuple [.tensor (.float .f32) .unranked, .token]]
    unifyList types "types" true =
        .ok (.tuple [.tensor (.float .f32) (.ranked [some 2, some 3]), .token]) ∧
      (∀ a ∈ types, ∀ b ∈ types, checkCompatible a b true = .ok true) ∧
      ∀ u', unifyList types.reverse "types" true = .ok u' →
        u'.outline = .tuple [.tensor .bool (.ranked [some 2, some 3]), .token] := by
  intro types
  have unified : unifyList types "types" true =
      .ok (.tuple [.tensor (.float .f32) (.ranked [some 2, some 3]), .token]) := rfl
  have formed : ∀ t ∈ types, t.WellFormed := by decide
  obtain ⟨exists_iff, -, permuted⟩ :=
    unifyList_isLeastUpperBound types "types" true (by simp [types]) formed
  refine ⟨unified, exists_iff.mp ⟨_, unified⟩, fun u' unified' => ?_⟩
  exact (permuted types.reverse (List.reverse_perm types)).2 _ u' unified unified'

end Ty

end TensorTyping
