import TensorTyping.Proofs.Check

/-!
# Checks that end alike

Two checks match when both succeed, with related values, or both fail for the same cause. The cause
of a failure is what is left of it without its words: the class of a diagnostic, or the question
that has no answer. Matching is closed under sequencing, so it can be followed through two runs that
are made of corresponding steps.
-/

namespace TensorTyping

/-- The question without the words that go with it. -/
def Misuse.silent : Misuse → Misuse
  | .malformedType _ => .malformedType ""
  | .notAnOperation _ => .notAnOperation ""
  | .dispatch _ => .dispatch ""
  | .wrongSide _ => .wrongSide ""
  | other => other

/-- What is left of a failure without its words. -/
def Fault.cause : Fault → Diagnostic.Kind ⊕ Misuse
  | .diagnostic d => .inl d.kind
  | .misuse m => .inr m.silent

namespace Check

variable {α β γ δ : Type}

/-- Both checks succeed with related values, or both fail for one cause. -/
def Matches (related : α → β → Prop) : Check α → Check β → Prop
  | .ok a, .ok b => related a b
  | .error fault, .error fault' => fault.cause = fault'.cause
  | _, _ => False

namespace Matches

variable {related : α → β → Prop} {related' : γ → δ → Prop} {x : Check α} {y : Check β}

/-- A check matches itself, with its success at hand. -/
theorem same (x : Check α) : Matches (fun a b => a = b ∧ x = .ok a) x x := by
  cases x with
  | ok a => exact ⟨rfl, rfl⟩
  | error fault => exact rfl

theorem mono {wider : α → β → Prop} (h : Matches related x y)
    (imp : ∀ a b, related a b → wider a b) : Matches wider x y := by
  cases x with
  | ok a =>
    cases y with
    | ok b => exact imp a b h
    | error fault => exact h
  | error fault =>
    cases y with
    | ok b => exact h
    | error fault' => exact h

/-- What matches a success succeeds. -/
theorem exists_of_ok {a : α} (h : Matches related (.ok a) y) : ∃ b, y = .ok b ∧ related a b := by
  cases y with
  | ok b => exact ⟨b, rfl, h⟩
  | error fault => exact h.elim

theorem bind {f : α → Check γ} {g : β → Check δ} (h : Matches related x y)
    (next : ∀ a b, related a b → Matches related' (f a) (g b)) :
    Matches related' (x >>= f) (y >>= g) := by
  cases x with
  | ok a =>
    cases y with
    | ok b => exact next a b h
    | error fault => exact h.elim
  | error fault =>
    cases y with
    | ok b => exact h.elim
    | error fault' => exact h

/-- A step that both checks make in the same way. -/
theorem bind_same {z : Check γ} {f : γ → Check α} {g : γ → Check β}
    (next : ∀ c, z = .ok c → Matches related (f c) (g c)) :
    Matches related (z >>= f) (z >>= g) := by
  apply (same z).bind
  rintro c _ ⟨rfl, success⟩
  exact next c success

/-- A step that only the second check makes, and that succeeds. -/
theorem bind_right {g : γ → Check β} {z : Check γ} {c : γ} (success : z = .ok c)
    (next : Matches related x (g c)) : Matches related x (z >>= g) := by
  rw [success]
  exact next

theorem ensure {p q : Prop} [Decidable p] [Decidable q] {kind : Diagnostic.Kind}
    {message message' : String} (same : p ↔ q) :
    Matches (fun _ _ => p) (ensure p kind message) (ensure q kind message') := by
  by_cases holds : p
  · simp only [TensorTyping.ensure, holds, same.mp holds, if_true]
    trivial
  · simp only [TensorTyping.ensure, holds, mt same.mpr holds, if_false]
    exact rfl

theorem checkAll {check : α → Check Unit} {check' : β → Check Unit} {items : List α}
    {items' : List β} (all : List.Forall₂ related items items')
    (each : ∀ a b, related a b → Matches (fun _ _ => True) (check a) (check' b)) :
    Matches (fun _ _ => True) (checkAll check items) (checkAll check' items') := by
  induction all with
  | nil => trivial
  | cons first _ ih =>
    have here := each _ _ first
    rw [TensorTyping.checkAll, TensorTyping.checkAll]
    generalize check _ = verdict, check' _ = verdict' at here
    cases verdict with
    | ok _ =>
      cases verdict' with
      | ok _ => exact ih
      | error fault => exact here.elim
    | error fault =>
      cases verdict' with
      | ok _ => exact here.elim
      | error fault' => exact here

theorem checkEach {check : Nat → α → Check Unit} {check' : Nat → β → Check Unit}
    {items : List α} {items' : List β} (all : List.Forall₂ related items items')
    (each : ∀ i a b, related a b → Matches (fun _ _ => True) (check i a) (check' i b)) :
    Matches (fun _ _ => True) (checkEach check items) (checkEach check' items') := by
  apply checkAll (forall₂_zipIdx all 0)
  rintro ⟨a, i⟩ ⟨b, j⟩ ⟨relation, rfl⟩
  exact each i a b relation

end Matches

end Check

end TensorTyping
