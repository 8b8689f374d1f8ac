import TensorTyping.Dimensions
import TensorTyping.Payload.Order
import TensorTyping.Proofs.Ty.Unification
import TensorTyping.Ty.Form

/-!
# Checks on types that are refined

The checks that all operations share succeed on coarse types whenever they succeed on finer ones,
and what they give for the finer types refines what they give for the coarse ones. Each lemma is a
`Check.Carries` from the run on the finer types to the run on the coarse ones.
-/

namespace TensorTyping

open Check (Carries)

variable {what what' : String} {relaxed : Bool}

/-! ### Tensors -/

theorem Ty.Refines.needTensor {t' t : Ty} (h : t'.Refines t) (what what' : String) :
    Carries Tensor.Refines (t'.needTensor what) (t.needTensor what') := by
  cases h with
  | tensor element shape => exact .pure ⟨element, shape⟩
  | element isElement =>
    rw [Ty.needTensor, Ty.tensor?_of_isElement isElement]
    exact .of_reject _ _ _
  | _ => exact .of_reject _ _ _

theorem Shape.Refines.wellFormed {s' s : Shape} (h : s'.Refines s) (formed : s'.WellFormed) :
    s.WellFormed := by
  cases h with
  | unranked => simp [Shape.WellFormed]
  | ranked dims =>
    rintro _ ⟨⟩
    have all := formed _ rfl
    clear formed
    induction dims with
    | nil => simp
    | cons first _ ih =>
      simp only [List.forall_mem_cons] at all ⊢
      refine ⟨?_, ih all.2⟩
      cases first with
      | unknown => simp [Extent.WellFormed]
      | refl => exact all.1

/-- A rank as an extent. -/
theorem Tensor.Refines.rankExtent {t' t : Tensor} (h : t'.Refines t) :
    Extent.Refines (t'.rank?.map Int.ofNat) (t.rank?.map Int.ofNat) := by
  rcases h.rank?_eq_or with unknown | equal
  · rw [unknown]
    exact .unknown _
  · rw [equal]
    exact .refl _

theorem Tensor.Refines.dimAt {t' t : Tensor} (h : t'.Refines t) (index : Payload) :
    Carries Extent.Refines (t'.dimAt index) (t.dimAt index) := by
  obtain ⟨element', shape'⟩ := t'
  obtain ⟨element, shape⟩ := t
  obtain ⟨-, shapes⟩ := h
  cases shapes with
  | unranked => exact .to_ok fun _ _ => .unknown _
  | ranked dims => exact .bind_same fun index _ => .itemAt dims index

theorem Tensor.form_carries {element' element : Ty} {s' s : Shape}
    (elements : element'.same element = true) (shapes : s'.Refines s) :
    Carries Tensor.Refines (Tensor.form element' s') (Tensor.form element s) := by
  intro t success
  obtain ⟨isElement, formed, rfl⟩ := Tensor.form_eq_ok.mp success
  refine ⟨⟨element, s⟩, Tensor.form_eq_ok.mpr ⟨?_, shapes.wellFormed formed, rfl⟩, elements, shapes⟩
  rw [← Ty.isElement_of_same elements]
  exact isElement

/-- The shape of a finer tensor does not matter to one without a rank. -/
theorem Tensor.form_carries_unranked {element' element : Ty} (s : Shape)
    (elements : element'.same element = true) :
    Carries Tensor.Refines (Tensor.form element' s) (.ok (.unranked element)) := by
  refine .to_ok ?_
  intro t success
  obtain ⟨-, -, rfl⟩ := Tensor.form_eq_ok.mp success
  exact ⟨elements, .unranked _⟩

/-! ### Compatibility -/

namespace Ty

theorem Refines.compatible {a' a b' b : Ty} (ha : a'.Refines a) (hb : b'.Refines b)
    (agree : compatible relaxed a' b' = true) : compatible relaxed a b = true := by
  induction a' using induct generalizing a b b' with
  | tensor element' shape' ih =>
    cases ha with
    | element isElement => simp at isElement
    | tensor element shape =>
      cases hb with
      | tensor otherElement otherShape =>
        simp only [Ty.compatible, Bool.and_eq_true] at agree ⊢
        rw [compatibleElements_congr element otherElement] at agree
        exact ⟨shape.compatible otherShape agree.1, agree.2⟩
      | element isElement => cases b' <;> simp_all [Ty.compatible]
      | _ => simp [Ty.compatible] at agree
  | tuple items' ih =>
    cases ha with
    | element isElement => simp at isElement
    | tuple items =>
      cases hb with
      | tuple others =>
        simp only [Ty.compatible, compatibleAll_iff] at agree ⊢
        -- From a coarse item to its finer one, across to the other tuple and to a coarse item.
        have across : List.Forall₂
            (fun coarse other => ∃ item ∈ items', item.Refines coarse ∧
              Ty.compatible relaxed item other = true) _ _ :=
          forall₂_comp items.flip agree fun _ _ item member _ _ refines agrees =>
            ⟨item, member, refines, agrees⟩
        refine forall₂_comp across others ?_
        rintro _ _ _ _ _ _ ⟨item, member, refines, agrees⟩ refines'
        exact ih item member refines refines' agrees
      | element isElement => cases b' <;> simp_all [Ty.compatible]
      | _ => simp [Ty.compatible] at agree
  | token =>
    cases ha with
    | element isElement => simp at isElement
    | token =>
      cases hb with
      | token => rfl
      | element isElement => cases b' <;> simp_all [Ty.compatible]
      | _ => simp [Ty.compatible] at agree
  | missing => cases b' <;> simp [Ty.compatible] at agree
  | _ =>
    have same := ha.same_of_isElement rfl
    have isElement := ha.isElement
    rw [compatible_of_isElement rfl, Bool.and_eq_true] at agree
    rw [compatible_of_isElement isElement.symm, ← hb.isElement,
      ← compatibleElements_congr same (hb.same_of_isElement agree.1), Bool.and_eq_true]
    exact agree

theorem Refines.merge {a' a b' b : Ty} (ha : a'.Refines a) (hb : b'.Refines b)
    (agree : Ty.compatible relaxed a' b' = true) : (merge a' b').Refines (merge a b) := by
  have right : (Ty.merge a' b').RefinesUpTo (fun _ _ => True) b :=
    RefinesUpTo.trans (fun _ _ _ _ _ => trivial) (merge_refines_right agree) hb
  exact RefinesUpTo.merge_least (Refines.trans (merge_refines_left agree) ha) right

/-! ### Unification -/

theorem unify_carries {a' a b' b : Ty} (ha : a'.Refines a) (hb : b'.Refines b) :
    Carries Refines (unify what relaxed a' b') (unify what' relaxed a b) := by
  intro c' success
  obtain ⟨agree, rfl⟩ := unify_eq_ok.mp success
  exact ⟨_, unify_eq_ok.mpr ⟨ha.compatible hb agree, rfl⟩, ha.merge hb agree⟩

theorem unifyList_carries {types' types : List Ty} (all : RefinesAll types' types) :
    Carries Refines (unifyList types' what relaxed) (unifyList types what' relaxed) := by
  cases all with
  | nil => exact .of_reject _ _ _
  | cons first rest => exact .foldlM rest first fun _ _ _ _ ha hb => unify_carries ha hb

theorem unifyTensors_carries {a' a b' b : Tensor} (ha : a'.Refines a) (hb : b'.Refines b) :
    Carries Tensor.Refines (unifyTensors what relaxed a' b') (unifyTensors what' relaxed a b) := by
  intro c' success
  obtain ⟨elements, shapes, rfl⟩ := unifyTensors_eq_ok.mp success
  rw [compatibleElements_congr ha.element hb.element] at elements
  refine ⟨_, unifyTensors_eq_ok.mpr ⟨elements, ha.shape.compatible hb.shape shapes, rfl⟩, ?_⟩
  exact ⟨ha.element, ha.shape.refine hb.shape shapes⟩

theorem unifyTensorList_carries {tensors' tensors : List Tensor}
    (all : List.Forall₂ Tensor.Refines tensors' tensors) :
    Carries Tensor.Refines (unifyTensorList tensors' what) (unifyTensorList tensors what') := by
  cases all with
  | nil => exact .of_reject _ _ _
  | cons first rest => exact .foldlM rest first fun _ _ _ _ ha hb => unifyTensors_carries ha hb

theorem unifyList_pair_eq_ok {a b t : Ty} :
    unifyList [a, b] what = .ok t ↔ compatible false a b = true ∧ merge a b = t := by
  rw [← @unify_eq_ok a b t false what]
  simp only [unifyList, List.foldlM_cons, List.foldlM_nil, Check.bind_eq_ok, Check.pure_eq,
    Except.ok.injEq, exists_eq_right]

theorem settle_eq_ok {inferred declared t : Ty} {operation : String} :
    settle inferred (some declared) operation = .ok t ↔
      compatible false inferred declared = true ∧ compatible false declared inferred = true ∧
        merge declared inferred = t := by
  simp only [settle, Check.bind_eq_ok, Check.ensure_eq_ok, unifyList_pair_eq_ok]
  constructor
  · rintro ⟨agree, success, -, rfl, both⟩
    exact ⟨checkCompatible_eq_ok_true.mp success, both⟩
  · rintro ⟨agree, both⟩
    exact ⟨true, checkCompatible_eq_ok_true.mpr agree, (), rfl, both⟩

theorem settle_carries {inferred' inferred : Ty} {declared' declared : Option Ty}
    {operation : String} (hinferred : inferred'.Refines inferred)
    (hdeclared : Option.Rel Refines declared' declared) :
    Carries Refines (settle inferred' declared' operation)
      (settle inferred declared operation) := by
  cases hdeclared with
  | none => exact .pure hinferred
  | some hdeclared =>
    intro t success
    obtain ⟨agree, agree', rfl⟩ := settle_eq_ok.mp success
    refine ⟨_, settle_eq_ok.mpr ⟨hinferred.compatible hdeclared agree,
      hdeclared.compatible hinferred agree', rfl⟩, ?_⟩
    exact hdeclared.merge hinferred agree'

/-- The single result of an operation whose result may be declared. -/
theorem settled_carries {inferred' inferred : Ty} {declared' declared : Option Ty}
    {operation : String} (hinferred : inferred'.Refines inferred)
    (hdeclared : Option.Rel Refines declared' declared) :
    Carries RefinesAll (do return [← settle inferred' declared' operation])
      (do return [← settle inferred declared operation]) := by
  refine (settle_carries hinferred hdeclared).bind ?_
  intro _ _ settled
  exact .pure (.cons settled .nil)

end Ty

/-! ### Positions -/

/-- A position below a known rank is a position when the rank is unknown. -/
theorem Payload.isPosition_carries (payload : Payload) {rank' rank : Option Nat}
    (h : rank = none ∨ rank = rank') :
    Carries (fun inRange' inRange => inRange' = true → inRange = true)
      (payload.isPosition rank') (payload.isPosition rank) := by
  rcases h with rfl | rfl
  · cases rank' with
    | none => exact (Carries.same _).mono fun _ _ h => h.1 ▸ id
    | some bound =>
      cases payload with
      | int n =>
        refine .pure fun inRange => ?_
        simp only [Bool.and_eq_true, decide_eq_true_eq] at inRange
        simpa using inRange.1
      | bool value =>
        refine .pure fun inRange => ?_
        simp only [Bool.and_eq_true, decide_eq_true_eq] at inRange
        simpa using inRange.1
      | real x =>
        refine .pure fun inRange => ?_
        simp only [Bool.not_or, Bool.and_eq_true] at inRange
        exact inRange.1.1
      | _ => exact .of_misuse _
  · exact (Carries.same _).mono fun _ _ h => h.1 ▸ id

/-- A number within bounds is not below the first of them. -/
theorem Payload.isBelow_of_isWithin (payload : Payload) (bound : Nat) :
    Carries (fun inRange negative => inRange = true → negative = false) (payload.isWithin 0 bound)
      (payload.isBelow 0) := by
  intro inRange within
  obtain ⟨outside, position, keeps⟩ :=
    payload.isPosition_carries (Or.inl rfl : none = none ∨ none = some bound) inRange within
  obtain ⟨negative, below, ⟨⟩⟩ := Check.bind_eq_ok.mp position
  exact ⟨negative, below, fun inside => by simpa using keeps inside⟩

/-- A position below a known rank is not negative. -/
theorem Dimensions.isPosition_of_refines {rank' rank : Option Nat} (h : rank = none ∨ rank = rank')
    {d : Int} (inRange : isPosition rank' d = true) : isPosition rank d = true := by
  rcases h with rfl | rfl
  · unfold isPosition at *
    simp only [Bool.and_eq_true] at inRange ⊢
    exact ⟨inRange.1, trivial⟩
  · exact inRange

theorem Dimensions.ensurePositions_carries (dims : List Int) (name : String)
    {rank' rank : Option Nat} (h : rank = none ∨ rank = rank') :
    Carries (fun _ _ => True) (ensurePositions dims rank' name)
      (ensurePositions dims rank name) := by
  refine (Carries.ensure id).bind ?_
  intro _ _ _
  refine .checkAll_same ?_
  intro d _
  exact (Carries.ensure (isPosition_of_refines h)).mono fun _ _ _ => trivial

end TensorTyping
