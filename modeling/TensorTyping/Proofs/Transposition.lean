import TensorTyping.Op.Reshaping
import TensorTyping.Proofs.Dropping
import TensorTyping.Proofs.Payload.Vectors

/-!
# Transpositions

A transposition is accepted just when its vector is a permutation of the positions below its length
and the operand has that rank, or none. Two successive transpositions are one by the composed
permutation, and the inverse permutation leads back to a ranked operand. An operand without a rank
gets one from the permutation, and keeps it.
-/

namespace TensorTyping

/-! ### Permutations -/

namespace Dimensions

variable {p : List Int} {rank : Nat}

/-- The place of every position in a permutation, so that `p[inverse[i]] = i`. -/
def inverse (p : List Int) : List Int := (upTo p.length).map fun d => (p.idxOf d : Int)

theorem select_inverse (perm : p.Perm (upTo rank)) : select p (inverse p) = upTo rank := by
  rw [select, inverse, List.map_map, length_of_perm perm]
  refine (List.map_congr_left fun d member => ?_).trans (List.map_id _)
  have found := List.getElem?_idxOf (perm.mem_iff.mpr member)
  simp [List.getD_eq_getElem?_getD, found]

theorem inverse_perm (perm : p.Perm (upTo rank)) : (inverse p).Perm (upTo rank) := by
  have length := length_of_perm perm
  refine perm_upTo ?_ ?_ (by simp [inverse, length])
  · refine (nodup_upTo _).map_on fun d member e _ same => ?_
    rw [length] at member
    exact (List.idxOf_inj (perm.mem_iff.mpr member)).mp (Int.ofNat_inj.mp same)
  · intro i listed
    obtain ⟨d, member, rfl⟩ := List.mem_map.mp listed
    rw [length] at member
    have inside := List.idxOf_lt_length_of_mem (perm.mem_iff.mpr member)
    omega

/-- The positions below a rank are integers of one range just when all of them have a sign. -/
theorem exists_inRange_iff (perm : p.Perm (upTo rank)) :
    (∃ signed, ∀ d ∈ p, EntryFormat.inRange signed d = true) ↔ (rank : Int) ≤ signedLimit := by
  simp only [mem_of_perm perm]
  constructor
  · rintro ⟨signed, each⟩
    by_contra large
    have first := each 0 (by unfold signedLimit at large; omega)
    have last := each signedLimit ⟨by decide, by omega⟩
    cases signed
    · cases first
    · cases last
  · intro small
    refine ⟨true, fun d bounds => ?_⟩
    simp only [EntryFormat.inRange, if_true, fitsWord, Bool.and_eq_true, decide_eq_true_eq]
    unfold signedLimit at small ⊢
    omega

end Dimensions

/-! ### Permuted shapes -/

namespace Shape

/-- The shape with its extents in the given order; unknown ones when it has no rank. -/
def permuted (s : Shape) (p : List Int) : Shape :=
  match s with
  | .unranked => .unknown p.length
  | .ranked dims => .ranked (pick dims p)

variable {s : Shape} {p q : List Int}

theorem permuted_permuted (inRange : ∀ i ∈ q, 0 ≤ i ∧ i < p.length) :
    (s.permuted p).permuted q = s.permuted (Dimensions.select p q) := by
  cases s with
  | unranked =>
    simp only [permuted, Shape.unknown, pick_replicate_none, Dimensions.length_select]
  | ranked dims => exact congrArg Shape.ranked (pick_pick inRange)

theorem permuted_inverse {dims : List Extent} (perm : p.Perm (Dimensions.upTo dims.length)) :
    ((Shape.ranked dims).permuted p).permuted (Dimensions.inverse p) = .ranked dims := by
  rw [permuted_permuted, Dimensions.select_inverse perm]
  · exact congrArg Shape.ranked (pick_upTo dims)
  · rw [Dimensions.length_of_perm perm]
    intro i member
    exact (Dimensions.mem_of_perm (Dimensions.inverse_perm perm)).mp member

/-- A permuted shape has the length of the permutation as its rank. -/
theorem length_of_permuted {dims : List Extent} (ranked : s.permuted p = .ranked dims) :
    dims.length = p.length := by
  cases s with
  | unranked =>
    obtain rfl := Shape.ranked.inj ranked
    exact List.length_replicate
  | ranked dims' =>
    obtain rfl := Shape.ranked.inj ranked
    exact length_pick

end Shape

/-! ### Inference -/

namespace Op

open Check

variable {element : Ty} {shape : Shape} {p q : List Int} {rank : Nat} {types : List Ty}

theorem inferTranspose_eq_ok {permutation : Payload} :
    inferTranspose (.tensor element shape) permutation = .ok types ↔
      ∃ p, permutation.decodeInts "permutation" = .ok p ∧ p.Perm (Dimensions.upTo p.length) ∧
        (∀ dims, shape = .ranked dims → dims.length = p.length) ∧
        types = [.tensor element (shape.permuted p)] := by
  have tensor : (Ty.tensor element shape).needTensor "operand" = .ok ⟨element, shape⟩ := rfl
  simp only [inferTranspose, tensor, ok_bind, bind_eq_ok, ensure_eq_ok, exists_const,
    Dimensions.isPermutation_iff]
  refine exists_congr fun p => and_congr_right fun _ => and_congr_right fun perm => ?_
  cases shape with
  | unranked => simp [Shape.permuted, @eq_comm _ types]
  | ranked dims =>
    simp only [bind_eq_ok, ensure_eq_ok, exists_const, pure_eq, Except.ok.injEq,
      Shape.ranked.injEq, forall_eq', @eq_comm _ dims.length, @eq_comm _ types]
    refine and_congr_right fun rank => ?_
    have read : collect (itemAt dims) p = .ok (Shape.pick dims p) := by
      refine Shape.collect_itemAt_eq_ok fun d member => ?_
      rw [← rank]
      exact (Dimensions.mem_of_perm perm).mp member
    simp [read, Shape.permuted]

/-- All permutations of one rank transpose the same operands. -/
theorem inferTranspose_of_perm (perm : p.Perm (Dimensions.upTo rank)) :
    inferTranspose (.tensor element shape) (.ofInts p) = .ok types ↔
      ((rank : Int) ≤ signedLimit ∧ ∀ dims, shape = .ranked dims → dims.length = rank) ∧
        types = [.tensor element (shape.permuted p)] := by
  have length := Dimensions.length_of_perm perm
  simp only [inferTranspose_eq_ok, Payload.decodeInts_ofInts_eq_ok,
    Dimensions.exists_inRange_iff perm]
  constructor
  · rintro ⟨_, ⟨small, rfl⟩, -, fits, rfl⟩
    exact ⟨⟨small, length ▸ fits⟩, rfl⟩
  · rintro ⟨⟨small, fits⟩, rfl⟩
    exact ⟨p, ⟨small, rfl⟩, length ▸ perm, length ▸ fits, rfl⟩

/-- What is no permutation is refused, unless it is no vector in the first place. -/
theorem inferTranspose_rejects {values : List Int}
    (unlike : ¬ values.Perm (Dimensions.upTo values.length)) :
    Rejects .invalidDimensionMapping (inferTranspose (.tensor element shape) (.ofInts values)) ∨
      Rejects .malformedAttribute (inferTranspose (.tensor element shape) (.ofInts values)) := by
  have tensor : (Ty.tensor element shape).needTensor "operand" = .ok ⟨element, shape⟩ := rfl
  have given : Payload.ofInts values ≠ .null := by simp [Payload.ofInts]
  simp only [inferTranspose, tensor, ok_bind]
  have plain : ∀ grid, .array grid ∉ (Payload.ofInts values).leaves := by
    simp [Payload.leaves_ofInts]
  have outcome := Payload.decodeInts_cases given plain "permutation" .null
  rcases outcome with ⟨decoded, success, -⟩ | ⟨-, failed⟩
  · obtain rfl := Payload.decodeInts_ofInts success
    rw [success, ok_bind]
    exact Or.inl ((rejects_ensure.mpr ⟨mt Dimensions.isPermutation_iff.mp unlike, rfl⟩).bind _)
  · exact Or.inr (failed.bind _)

/-- Transpositions compose, and the inverse permutation leads back. A permutation of `n` positions
    is accepted for operands of rank `n` or of no rank. After it every other permutation of as many
    positions is accepted, with the result that the composed permutation has at once; and after it
    its inverse gives a ranked operand back. A vector that is no permutation is refused. -/
theorem inferTranspose_comp_and_inverse (element : Ty) (shape : Shape) {n : Nat} {p q : List Int}
    (first : p.Perm (Dimensions.upTo n)) (second : q.Perm (Dimensions.upTo n)) :
    ((∃ types, inferTranspose (.tensor element shape) (.ofInts p) = .ok types) ↔
      (n : Int) ≤ signedLimit ∧ ∀ dims, shape = .ranked dims → dims.length = n) ∧
    (∀ types, inferTranspose (.tensor element shape) (.ofInts p) = .ok types →
      ∃ once twice, types = [once] ∧
        inferTranspose once (.ofInts q) = .ok [twice] ∧
        inferTranspose (.tensor element shape) (.ofInts (Dimensions.select p q)) = .ok [twice] ∧
        (shape.hasRank = true →
          inferTranspose once (.ofInts (Dimensions.inverse p)) = .ok [.tensor element shape])) ∧
    ∀ values : List Int, ¬ values.Perm (Dimensions.upTo values.length) →
      Rejects .invalidDimensionMapping (inferTranspose (.tensor element shape) (.ofInts values)) ∨
        Rejects .malformedAttribute (inferTranspose (.tensor element shape) (.ofInts values)) := by
  refine ⟨?_, ?_, fun values unlike => inferTranspose_rejects unlike⟩
  · simp only [inferTranspose_of_perm first, exists_and_left, exists_eq, and_true]
  · intro types accepted
    obtain ⟨⟨small, fits⟩, rfl⟩ := (inferTranspose_of_perm first).mp accepted
    have length := Dimensions.length_of_perm first
    have turned : ∀ dims, shape.permuted p = .ranked dims → dims.length = n := by
      intro dims ranked
      rw [Shape.length_of_permuted ranked, length]
    have inRange : ∀ i ∈ q, 0 ≤ i ∧ i < p.length := by
      intro i member
      rw [length]
      exact (Dimensions.mem_of_perm second).mp member
    refine ⟨_, .tensor element ((shape.permuted p).permuted q), rfl, ?_, ?_, fun ranked => ?_⟩
    · exact (inferTranspose_of_perm second).mpr ⟨⟨small, turned⟩, rfl⟩
    · rw [Shape.permuted_permuted inRange]
      exact (inferTranspose_of_perm (Dimensions.select_perm first second)).mpr ⟨⟨small, fits⟩, rfl⟩
    · cases shape with
      | unranked => cases ranked
      | ranked dims =>
        have rank := fits dims rfl
        rw [inferTranspose_of_perm (Dimensions.inverse_perm first),
          Shape.permuted_inverse (rank ▸ first)]
        exact ⟨⟨small, turned⟩, rfl⟩

/-- Three dimensions are rotated and then the first two are swapped; the opposite rotation undoes
    the first step. -/
theorem inferTranspose_comp_and_inverse_rotated :
    let tensor (dims : List Extent) : Ty := .tensor (.float .f32) (.ranked dims)
    inferTranspose (tensor [some 2, none, some 5]) (.ofInts [2, 0, 1]) =
        .ok [tensor [some 5, some 2, none]] ∧
      inferTranspose (tensor [some 5, some 2, none]) (.ofInts [1, 0, 2]) =
        .ok [tensor [some 2, some 5, none]] ∧
      inferTranspose (tensor [some 2, none, some 5]) (.ofInts [0, 2, 1]) =
        .ok [tensor [some 2, some 5, none]] ∧
      inferTranspose (tensor [some 5, some 2, none]) (.ofInts [1, 2, 0]) =
        .ok [tensor [some 2, none, some 5]] := by
  intro tensor
  have rotation : [2, 0, 1].Perm (Dimensions.upTo 3) := by decide
  have swap : [1, 0, 2].Perm (Dimensions.upTo 3) := by decide
  have accepted : inferTranspose (tensor [some 2, none, some 5]) (.ofInts [2, 0, 1]) =
      .ok [tensor [some 5, some 2, none]] := rfl
  obtain ⟨-, composes, -⟩ := inferTranspose_comp_and_inverse (.float .f32)
    (.ranked [some 2, none, some 5]) rotation swap
  obtain ⟨_, twice, ⟨⟩, second, both, back⟩ := composes _ accepted
  obtain rfl : tensor [some 2, some 5, none] = twice :=
    (List.cons.inj (Except.ok.inj (Eq.trans rfl second))).1
  exact ⟨accepted, second, both, back rfl⟩

end Op

end TensorTyping
