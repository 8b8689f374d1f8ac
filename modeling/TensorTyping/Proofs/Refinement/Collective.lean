import TensorTyping.Op.Collective
import TensorTyping.Proofs.Refinement.Reduction

/-!
# Refinement of collective operations

Groups of processes are given by attributes, so only the operand is refined. An exchange and a
scattered reduction divide an extent, which stays unknown when it was.
-/

namespace TensorTyping

open Check (Carries)

namespace Op

variable {operand' operand : Ty}

/-! ### Reductions over groups -/

theorem reduceScalar_carries {t' t : Tensor} (computation : Option Region) (operation : String)
    (ht : t'.Refines t) :
    Carries (fun a b => a = b) (reduceScalar t' computation operation)
      (reduceScalar t computation operation) := by
  have init : Tensor.Refines (Tensor.scalar t'.element) (Tensor.scalar t.element) :=
    ⟨ht.element, .ranked .nil⟩
  have context := Reducer.Context.ofTensors_refines (.cons ht .nil) (.cons init .nil) operation
    (Or.inr (RefinesDims.refl []))
  refine (Reducer.verify_carries computation context).bind ?_
  rintro accumulators _ rfl
  exact (Carries.same _).mono fun _ _ h => h.1

theorem AllReduce.infer_carries (groups : Payload) (computation : Option Region)
    (h : operand'.Refines operand) :
    Carries Ty.RefinesAll (infer ⟨operand', groups, computation⟩)
      (infer ⟨operand, groups, computation⟩) := by
  refine (h.needTensor _ _).bind ?_
  intro t' t ht
  apply Carries.bind_same
  intro _ _
  refine (reduceScalar_carries computation _ ht).bind ?_
  rintro accumulator _ rfl
  exact .pure (.cons (.tensor (Ty.same_refl _) ht.shape) .nil)

/-- An extent that is replaced where it is known stays unknown where it was. -/
theorem replaceKnown_carries {dims' dims : List Extent} (h : RefinesDims dims' dims) (index : Int)
    (replace : Int → Check Int) :
    Carries RefinesDims (replaceKnown dims' index replace) (replaceKnown dims index replace) := by
  refine (Carries.itemAt h index).with_success.bind ?_
  rintro dim' dim ⟨extent, -, found⟩
  cases extent with
  | refl =>
    cases dim' with
    | none => exact .pure h
    | some n =>
      apply Carries.bind_same
      intro part _
      exact Carries.setItem h (.refl _) index
  | unknown =>
    refine .to_ok ?_
    intro replaced success
    cases dim' with
    | none =>
      cases success
      exact h
    | some n =>
      obtain ⟨part, -, success⟩ := Check.bind_eq_ok.mp success
      obtain ⟨place, standsFor, rfl⟩ := setItem_eq_ok.mp success
      obtain ⟨_, standsFor', unknown⟩ := itemAt_eq_ok.mp found
      rw [h.length_eq, standsFor'] at standsFor
      cases standsFor
      exact h.set_of_unknown (by rw [unknown, Option.join_some]) _

theorem ReduceScatter.spread_carries {op' op : ReduceScatter}
    (hdimension : op'.scatterDimension = op.scatterDimension) (element : Ty) {s' s : Shape}
    (hs : s'.Refines s) (rows : List (List Int)) :
    Carries Tensor.Refines (op'.spread element s' rows) (op.spread element s rows) := by
  unfold spread
  rw [hdimension]
  cases hs with
  | unranked =>
    cases s' with
    | unranked => exact .pure ⟨Ty.same_refl element, .unranked _⟩
    | ranked dims =>
      -- The steps before the last one say whether there is a result, and nothing of its element.
      repeat
        refine .bind_left ?_
        intro _ _
      exact Tensor.form_carries_unranked _ (Ty.same_refl element)
  | ranked dims =>
    simp only [dims.length_eq]
    apply Carries.bind_same
    intro _ _
    apply Carries.bind_same
    intro inRange _
    apply Carries.bind_same
    intro _ _
    apply Carries.bind_same
    intro size _
    apply Carries.bind_same
    intro position _
    refine (replaceKnown_carries dims position _).bind ?_
    intro spread' spread hspread
    exact Tensor.form_carries (Ty.same_refl element) (.ranked hspread)

theorem ReduceScatter.infer_carries {result' result : Option Ty} (dimension groups : Payload)
    (computation : Option Region) (h : operand'.Refines operand)
    (hresult : Option.Rel Ty.Refines result' result) :
    Carries Ty.RefinesAll (infer ⟨operand', dimension, groups, computation, result'⟩)
      (infer ⟨operand, dimension, groups, computation, result⟩) := by
  refine (h.needTensor _ _).bind ?_
  intro t' t ht
  apply Carries.bind_same
  intro negative _
  apply Carries.bind_same
  intro _ _
  apply Carries.bind_same
  intro rows _
  refine (reduceScalar_carries computation _ ht).bind ?_
  rintro accumulator _ rfl
  refine (spread_carries rfl accumulator.element ht.shape rows).bind ?_
  intro inferred' inferred hinferred
  exact Ty.settled_carries hinferred.ty hresult

/-! ### Exchanges -/

/-- The payload of an extent: the second is missing, or both are one. -/
def PartRefines (fine coarse : Payload) : Prop := coarse = .null ∨ fine = coarse

theorem partRefines_ofExtent {dim' dim : Extent} (h : dim'.Refines dim) :
    PartRefines (.ofExtent dim') (.ofExtent dim) := by
  cases h with
  | unknown => exact Or.inl rfl
  | refl => exact Or.inr rfl

theorem partExtent_carries {dim' dim : Extent} (h : dim'.Refines dim) (count : Payload) :
    Carries PartRefines (partExtent dim' count) (partExtent dim count) := by
  cases h with
  | unknown => exact .to_ok fun _ _ => Or.inl rfl
  | refl => exact (Carries.same _).mono fun _ _ h => Or.inr h.1

theorem times_carries {part' part : Payload} (h : PartRefines part' part) (factor : Payload) :
    Carries PartRefines (part'.times factor) (part.times factor) := by
  rcases h with rfl | rfl
  · exact .to_ok fun _ _ => Or.inl rfl
  · exact (Carries.same _).mono fun _ _ h => Or.inr h.1

theorem readExtent_carries {part' part : Payload} (h : PartRefines part' part) :
    Carries Extent.Refines (Shape.readExtent part') (Shape.readExtent part) := by
  rcases h with rfl | rfl
  · exact .to_ok fun _ _ => .unknown _
  · exact (Carries.same _).mono fun _ _ h => h.1 ▸ .refl _

theorem read_carries {element' element : Ty} (helement : element'.same element = true)
    {parts' parts : List Payload} (all : List.Forall₂ PartRefines parts' parts) :
    Carries Tensor.Refines (Tensor.read element' (.list parts'))
      (Tensor.read element (.list parts)) := by
  have shapes : Carries Shape.Refines (Shape.read (.list parts')) (Shape.read (.list parts)) := by
    refine (Carries.collect all fun _ _ h => readExtent_carries h).bind ?_
    intro dims' dims hdims
    exact .pure (.ranked hdims)
  refine (Tensor.form_carries helement (.unranked _)).bind ?_
  intro t' t ht
  refine shapes.bind ?_
  intro s' s hs
  exact .pure ⟨ht.element, hs⟩

theorem exchangedDims_carries {dims' dims : List Extent} (h : RefinesDims dims' dims)
    (split concat count : Int) :
    Carries RefinesDims (exchangedDims dims' split concat count)
      (exchangedDims dims split concat count) :=
  (replaceKnown_carries h split _).bind fun _ _ divided => replaceKnown_carries divided concat _

theorem exchange_carries {t' t : Tensor} (ht : t'.Refines t) {dims' dims : List Extent}
    (h : RefinesDims dims' dims) (split concat : Int) (count : Payload) :
    Carries Tensor.Refines (exchange t' dims' split concat count)
      (exchange t dims split concat count) := by
  have counted : Carries Tensor.Refines
      (do
        let exchanged ← exchangedDims dims' split concat (← count.needInt)
        Tensor.form t'.element (.ranked exchanged))
      (do
        let exchanged ← exchangedDims dims split concat (← count.needInt)
        Tensor.form t.element (.ranked exchanged)) := by
    apply Carries.bind_same
    intro n _
    refine (exchangedDims_carries h split concat n).bind ?_
    intro _ _ exchanged
    exact Tensor.form_carries ht.element (.ranked exchanged)
  cases count with
  | real x =>
    have whole : List.Forall₂ PartRefines (dims'.map .ofExtent) (dims.map .ofExtent) :=
      List.forall₂_map_left_iff.mpr
        (List.forall₂_map_right_iff.mpr (h.imp fun _ _ => partRefines_ofExtent))
    refine (Carries.itemAt h split).bind ?_
    intro _ _ extent
    refine (partExtent_carries extent _).bind ?_
    intro _ _ divided
    refine (Carries.setItem whole divided split).bind ?_
    intro _ _ items
    refine (Carries.itemAt items concat).bind ?_
    intro _ _ part
    refine (times_carries part _).bind ?_
    intro _ _ multiplied
    refine (Carries.setItem items multiplied concat).bind ?_
    intro _ _ exchanged
    exact read_carries ht.element exchanged
  | _ => exact counted

theorem AllToAll.ensureMultiple_carries {extent' extent : Extent} (h : extent'.Refines extent)
    (count : Payload) :
    Carries (fun _ _ => True) (ensureMultiple extent' count) (ensureMultiple extent count) := by
  cases h with
  | unknown => exact .to_ok fun _ _ => trivial
  | refl => exact (Carries.same _).mono fun _ _ _ => trivial

theorem element_of_exchange {t inferred : Tensor} {dims : List Extent} {split concat : Int}
    {count : Payload} (success : exchange t dims split concat count = .ok inferred) :
    inferred.element = t.element := by
  unfold exchange at success
  split at success
  · simp only [Tensor.read, Check.bind_eq_ok, Tensor.form_eq_ok] at success
    obtain ⟨-, -, -, -, -, -, -, -, -, -, -, -, -, ⟨-, -, rfl⟩, -, -, ⟨⟩⟩ := success
    rfl
  · simp only [Check.bind_eq_ok, Tensor.form_eq_ok] at success
    obtain ⟨-, -, -, -, -, -, rfl⟩ := success
    rfl

theorem AllToAll.infer_carries (splitDimension concatDimension splitCount groups : Payload)
    (h : operand'.Refines operand) :
    Carries Ty.RefinesAll (infer ⟨operand', splitDimension, concatDimension, splitCount, groups⟩)
      (infer ⟨operand, splitDimension, concatDimension, splitCount, groups⟩) := by
  refine (h.needTensor _ _).bind ?_
  intro t' t ht
  apply Carries.bind_same
  intro tooSmall _
  apply Carries.bind_same
  intro _ _
  apply Carries.bind_same
  intro _ _
  obtain ⟨element', shape'⟩ := t'
  obtain ⟨element, shape⟩ := t
  cases ht.shape with
  | unranked =>
    refine .to_ok ?_
    intro types success
    cases shape' with
    | unranked =>
      cases success
      exact .cons ht.ty .nil
    | ranked dims =>
      simp only [Check.bind_eq_ok] at success
      obtain ⟨-, -, -, -, split, -, -, -, -, -, concat, -, exchanged, success, ⟨⟩⟩ := success
      refine .cons (.tensor ?_ (.unranked _)) .nil
      rw [element_of_exchange success]
      exact ht.element
  | ranked dims =>
    simp only [dims.length_eq]
    apply Carries.bind_same
    intro _ _
    apply Carries.bind_same
    intro _ _
    apply Carries.bind_same
    intro split _
    refine (Carries.itemAt dims split).bind ?_
    intro _ _ extent
    refine (ensureMultiple_carries extent splitCount).bind ?_
    intro _ _ _
    apply Carries.bind_same
    intro concat _
    refine (exchange_carries ht dims split concat splitCount).bind ?_
    intro exchanged' exchanged hexchanged
    exact .pure (.cons hexchanged.ty .nil)

theorem inferCollectivePermute_carries (pairs : Payload) (h : operand'.Refines operand) :
    Carries Ty.RefinesAll (inferCollectivePermute operand' pairs)
      (inferCollectivePermute operand pairs) := by
  refine (h.needTensor _ _).bind ?_
  intro t' t ht
  apply Carries.bind_same
  intro table _
  apply Carries.bind_same
  intro _ _
  exact .pure (.cons ht.ty .nil)

end Op

end TensorTyping
