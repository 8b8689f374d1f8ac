import Mathlib.Data.List.Forall2
import TensorTyping.Fault

/-!
# Successful checks

When the building blocks of a check succeed, and how a success is passed on. `Check.Carries` says
that every success of one check is matched by a success of another one, with related values; it is
closed under sequencing, so it can be followed through two runs of one rule. `Check.Meets` says
which misuses a check can run into at most, and what its value is like when it succeeds.
-/

namespace TensorTyping

namespace Check

variable {α β γ δ : Type}

/-! ### Success of the building blocks -/

theorem bind_eq_ok {x : Check α} {f : α → Check β} {b : β} :
    (x >>= f) = .ok b ↔ ∃ a, x = .ok a ∧ f a = .ok b := by
  cases x with
  | ok a => simp [bind, Except.bind]
  | error fault => simp [bind, Except.bind]

/-- A failure comes from the first step, or from the second after a success of the first. -/
theorem bind_eq_error {x : Check α} {f : α → Check β} {fault : Fault} :
    (x >>= f) = .error fault ↔ x = .error fault ∨ ∃ a, x = .ok a ∧ f a = .error fault := by
  cases x with
  | ok a => simp [bind, Except.bind]
  | error fault => simp [bind, Except.bind]

theorem bind_eq_misuse {x : Check α} {f : α → Check β} {m : Misuse} :
    (x >>= f) = misuse m ↔ x = misuse m ∨ ∃ a, x = .ok a ∧ f a = misuse m :=
  bind_eq_error

@[simp] theorem ok_bind (a : α) (f : α → Check β) : (Except.ok a >>= f : Check β) = f a := rfl

@[simp] theorem pure_eq (a : α) : (pure a : Check α) = .ok a := rfl

theorem map_eq_misuse {f : α → β} {x : Check α} {m : Misuse} :
    Except.map f x = misuse m ↔ x = misuse m := by
  cases x <;> simp [Except.map, misuse]

theorem map_eq_ok {f : α → β} {x : Check α} {b : β} :
    Except.map f x = .ok b ↔ ∃ a, x = .ok a ∧ f a = b := by
  cases x with
  | ok a => simp [Except.map]
  | error fault => simp [Except.map]

@[simp] theorem reject_ne_ok (kind : Diagnostic.Kind) (message : String) (notes : List String)
    (a : α) : reject kind message notes ≠ .ok a := by
  simp [reject]

@[simp] theorem misuse_ne_ok (m : Misuse) (a : α) : misuse m ≠ .ok a := by
  simp [misuse]

@[simp] theorem ensure_eq_ok {condition : Prop} [Decidable condition] {kind : Diagnostic.Kind}
    {message : String} {u : Unit} : ensure condition kind message = .ok u ↔ condition := by
  unfold ensure
  split <;> simp_all

theorem ensure_eq_error {condition : Prop} [Decidable condition] {kind : Diagnostic.Kind}
    {message : String} {fault : Fault} :
    ensure condition kind message = .error fault ↔
      ¬ condition ∧ fault = .diagnostic { kind, message } := by
  unfold ensure reject
  split <;> simp_all [eq_comm]

theorem ensure_of {condition : Prop} [Decidable condition] (holds : condition)
    (kind : Diagnostic.Kind) (message : String) : ensure condition kind message = .ok () :=
  ensure_eq_ok.mpr holds

theorem floorDiv_of_pos {divisor : Int} (positive : 0 < divisor) (n : Int) :
    floorDiv n divisor = .ok (n / divisor) := by
  rw [floorDiv, if_neg (Int.ne_of_gt positive),
    Int.fdiv_eq_ediv_of_nonneg n (Int.le_of_lt positive)]

theorem floorMod_of_pos {divisor : Int} (positive : 0 < divisor) (n : Int) :
    floorMod n divisor = .ok (n % divisor) := by
  rw [floorMod, if_neg (Int.ne_of_gt positive),
    Int.fmod_eq_emod_of_nonneg n (Int.le_of_lt positive)]

@[simp] theorem needPart_eq_ok {part : Option α} {a : α} :
    needPart part = .ok a ↔ part = some a := by
  cases part <;> simp [needPart]

@[simp] theorem needItems_eq_ok {items : Option (List α)} {a : List α} :
    needItems items = .ok a ↔ items = some a := by
  cases items <;> simp [needItems]

theorem checkAll_eq_ok {check : α → Check Unit} {items : List α} {u : Unit} :
    checkAll check items = .ok u ↔ ∀ item ∈ items, check item = .ok () := by
  induction items with
  | nil => simp [checkAll]
  | cons item rest ih =>
    rw [checkAll, List.forall_mem_cons, ← ih]
    cases check item <;> simp

theorem checkAll_singleton (check : α → Check Unit) (item : α) :
    checkAll check [item] = check item := by
  rw [checkAll]
  cases check item <;> rfl

theorem checkEach_eq_ok {check : Nat → α → Check Unit} {items : List α} {u : Unit} :
    checkEach check items = .ok u ↔
      ∀ i item, items[i]? = some item → check i item = .ok () := by
  rw [checkEach, checkAll_eq_ok]
  constructor
  · intro all i item found
    exact all (item, i) (List.mk_mem_zipIdx_iff_getElem?.mpr found)
  · rintro all ⟨item, i⟩ member
    exact all i item (List.mk_mem_zipIdx_iff_getElem?.mp member)

/-- A run over all items fails with the first item that fails. -/
theorem exists_of_checkAll_eq_error {check : α → Check Unit} {items : List α} {fault : Fault}
    (failed : checkAll check items = .error fault) :
    ∃ (i : Nat) (item : α), items[i]? = some item ∧ check item = .error fault ∧
      ∀ j < i, ∀ earlier, items[j]? = some earlier → check earlier = .ok () := by
  induction items with
  | nil => cases failed
  | cons item rest ih =>
    rw [checkAll] at failed
    cases first : check item with
    | error fault' =>
      rw [first] at failed
      exact ⟨0, item, rfl, first.trans failed, fun j before => absurd before (Nat.not_lt_zero j)⟩
    | ok _ =>
      rw [first] at failed
      obtain ⟨i, failing, found, failed, passed⟩ := ih failed
      refine ⟨i + 1, failing, found, failed, fun j before earlier found => ?_⟩
      cases j with
      | zero =>
        cases found
        exact first
      | succ j => exact passed j (Nat.lt_of_succ_lt_succ before) earlier found

theorem exists_of_checkEach_eq_error {check : Nat → α → Check Unit} {items : List α}
    {fault : Fault} (failed : checkEach check items = .error fault) :
    ∃ i item, items[i]? = some item ∧ check i item = .error fault ∧
      ∀ j < i, ∀ earlier, items[j]? = some earlier → check j earlier = .ok () := by
  obtain ⟨i, ⟨item, k⟩, found, failed, passed⟩ := exists_of_checkAll_eq_error failed
  simp only [List.getElem?_zipIdx, Option.map_eq_some_iff, Prod.mk.injEq, Nat.zero_add] at found
  obtain ⟨_, found, rfl, rfl⟩ := found
  refine ⟨i, _, found, failed, fun j before earlier found => ?_⟩
  exact passed j before (earlier, j) (by simp [List.getElem?_zipIdx, found])

theorem collect_cons (check : α → Check β) (item : α) (rest : List α) :
    collect check (item :: rest) = (do
      let value ← check item
      let values ← collect check rest
      return value :: values) := by
  rw [collect]
  cases check item <;> cases collect check rest <;> rfl

theorem collect_eq_ok {check : α → Check β} {items : List α} {values : List β} :
    collect check items = .ok values ↔
      List.Forall₂ (fun item value => check item = .ok value) items values := by
  induction items generalizing values with
  | nil => cases values <;> simp [collect]
  | cons item rest ih =>
    simp only [collect_cons, bind_eq_ok, ih, pure_eq, Except.ok.injEq, List.forall₂_cons_left_iff]
    constructor
    · rintro ⟨value, first, tail, others, rfl⟩
      exact ⟨value, tail, first, others, rfl⟩
    · rintro ⟨value, tail, first, others, rfl⟩
      exact ⟨value, first, tail, others, rfl⟩

/-- When all checks succeed, so does their collection. -/
theorem collect_eq_map {check : α → Check β} {value : α → β} {items : List α}
    (each : ∀ item ∈ items, check item = .ok (value item)) :
    collect check items = .ok (items.map value) :=
  collect_eq_ok.mpr (List.forall₂_map_right_iff.mpr (List.forall₂_same.mpr each))

/-- A check that undoes a view collects the items whose views are given. -/
theorem collect_eq_ok_iff_map {check : α → Check β} {view : β → α}
    (each : ∀ item value, check item = .ok value ↔ item = view value) {items : List α}
    {values : List β} : collect check items = .ok values ↔ items = values.map view := by
  simp only [collect_eq_ok, each, ← List.forall₂_eq_eq_eq, List.forall₂_map_right_iff]

/-- A collection over the numbers below a bound holds the value of each number at its place. -/
theorem collect_range_eq_ok {check : Nat → Check β} {count : Nat} {values : List β} :
    collect check (List.range count) = .ok values ↔
      values.length = count ∧ ∀ i value, values[i]? = some value → check i = .ok value := by
  rw [collect_eq_ok, List.forall₂_iff_get]
  simp only [List.length_range, List.get_eq_getElem, List.getElem_range, @eq_comm Nat count]
  refine and_congr_right fun length => ⟨fun each i value found => ?_, fun each i _ inside => ?_⟩
  · obtain ⟨inside, rfl⟩ := List.getElem?_eq_some_iff.mp found
    exact each i (length ▸ inside) inside
  · exact each i _ (List.getElem?_eq_getElem inside)

theorem length_of_collect {check : α → Check β} {items : List α} {values : List β}
    (collected : collect check items = .ok values) : values.length = items.length :=
  (collect_eq_ok.mp collected).length_eq.symm

/-- Values are collected up to the first item that fails. -/
theorem exists_first_of_collect_eq_error {check : α → Check β} {items : List α} {fault : Fault}
    (failed : collect check items = .error fault) :
    ∃ (i : Nat) (item : α), items[i]? = some item ∧ check item = .error fault ∧
      ∀ j < i, ∀ earlier, items[j]? = some earlier → ∃ value, check earlier = .ok value := by
  induction items with
  | nil => cases failed
  | cons item rest ih =>
    rw [collect_cons] at failed
    rcases bind_eq_error.mp failed with cause | ⟨value, first, failed⟩
    · exact ⟨0, item, rfl, cause, fun j before => absurd before (Nat.not_lt_zero j)⟩
    rcases bind_eq_error.mp failed with others | ⟨values, -, failed⟩
    · obtain ⟨i, failing, found, cause, passed⟩ := ih others
      refine ⟨i + 1, failing, found, cause, fun j before earlier found => ?_⟩
      cases j with
      | zero =>
        cases found
        exact ⟨value, first⟩
      | succ j => exact passed j (Nat.lt_of_succ_lt_succ before) earlier found
    · cases failed

theorem exists_of_collect_eq_error {check : α → Check β} {items : List α} {fault : Fault}
    (failed : collect check items = .error fault) : ∃ item ∈ items, check item = .error fault := by
  obtain ⟨i, item, found, cause, -⟩ := exists_first_of_collect_eq_error failed
  exact ⟨item, List.mem_of_getElem? found, cause⟩

theorem exists_first_of_collect_zipIdx_eq_error {check : Nat → α → Check β} {items : List α}
    {fault : Fault}
    (failed : collect (fun item => check item.2 item.1) items.zipIdx = .error fault) :
    ∃ i item, items[i]? = some item ∧ check i item = .error fault ∧
      ∀ j < i, ∀ earlier, items[j]? = some earlier → ∃ value, check j earlier = .ok value := by
  obtain ⟨i, ⟨item, k⟩, found, cause, passed⟩ := exists_first_of_collect_eq_error failed
  simp only [List.getElem?_zipIdx, Option.map_eq_some_iff, Prod.mk.injEq, Nat.zero_add] at found
  obtain ⟨_, found, rfl, rfl⟩ := found
  refine ⟨i, _, found, cause, fun j before earlier found => ?_⟩
  exact passed j before (earlier, j) (by simp [List.getElem?_zipIdx, found])

/-! ### Rejections -/

/-- The check fails with a diagnostic of the kind. -/
def Rejects (kind : Diagnostic.Kind) (x : Check α) : Prop :=
  ∃ d, x = .error (.diagnostic d) ∧ d.kind = kind

@[simp] theorem rejects_reject {kind kind' : Diagnostic.Kind} {message : String}
    {notes : List String} :
    Rejects kind (reject kind' message notes : Check α) ↔ kind' = kind := by
  simp [Rejects, reject]

@[simp] theorem not_rejects_ok {kind : Diagnostic.Kind} {a : α} : ¬ Rejects kind (.ok a) := by
  simp [Rejects]

theorem Rejects.ne_ok {kind : Diagnostic.Kind} {x : Check α} (rejected : Rejects kind x) (a : α) :
    x ≠ .ok a := by
  rintro rfl
  exact not_rejects_ok rejected

/-- A check is rejected for one cause. -/
theorem Rejects.unique {kind kind' : Diagnostic.Kind} {x : Check α} (rejected : Rejects kind x)
    (rejected' : Rejects kind' x) : kind = kind' := by
  obtain ⟨d, rfl, rfl⟩ := rejected
  obtain ⟨_, ⟨⟩, rfl⟩ := rejected'
  rfl

theorem Rejects.bind {kind : Diagnostic.Kind} {x : Check α} (rejected : Rejects kind x)
    (f : α → Check β) : Rejects kind (x >>= f) := by
  obtain ⟨d, failed, same⟩ := rejected
  exact ⟨d, bind_eq_error.mpr (Or.inl failed), same⟩

theorem rejects_ensure {condition : Prop} [Decidable condition] {kind kind' : Diagnostic.Kind}
    {message : String} :
    Rejects kind (ensure condition kind' message) ↔ ¬ condition ∧ kind' = kind := by
  unfold ensure
  by_cases holds : condition <;> simp [holds]

/-- Three conditions of which one always holds are exact once each of them decides how the check
    ends. -/
theorem outcome_iff {x : Check α} {kind kind' : Diagnostic.Kind} {accepts : α → Prop}
    {refuses refuses' : Prop} (apart : kind ≠ kind')
    (cover : (∃ a, accepts a) ∨ refuses ∨ refuses') (accepted : ∀ a, accepts a → x = .ok a)
    (refused : refuses → Rejects kind x) (refused' : refuses' → Rejects kind' x) :
    (∀ a, x = .ok a ↔ accepts a) ∧ (Rejects kind x ↔ refuses) ∧ (Rejects kind' x ↔ refuses') := by
  refine ⟨fun a => ⟨fun success => ?_, accepted a⟩, ⟨fun rejected => ?_, refused⟩,
    ⟨fun rejected => ?_, refused'⟩⟩
  · rcases cover with ⟨a', holds⟩ | holds | holds
    · obtain rfl := Except.ok.inj (success.symm.trans (accepted a' holds))
      exact holds
    · exact absurd success ((refused holds).ne_ok a)
    · exact absurd success ((refused' holds).ne_ok a)
  · rcases cover with ⟨a, holds⟩ | holds | holds
    · exact absurd (accepted a holds) (rejected.ne_ok a)
    · exact holds
    · exact absurd (rejected.unique (refused' holds)) apart
  · rcases cover with ⟨a, holds⟩ | holds | holds
    · exact absurd (accepted a holds) (rejected.ne_ok a)
    · exact absurd ((refused holds).unique rejected) apart
    · exact holds

/-! ### Carrying a success over to another check -/

theorem forall₂_zipIdx {related : α → β → Prop} {items : List α} {items' : List β}
    (all : List.Forall₂ related items items') (start : Nat) :
    List.Forall₂ (fun a b => related a.1 b.1 ∧ a.2 = b.2) (items.zipIdx start)
      (items'.zipIdx start) := by
  induction all generalizing start with
  | nil => exact .nil
  | cons first _ ih => exact .cons ⟨first, rfl⟩ (ih (start + 1))

theorem forall₂_getElem? {related : α → β → Prop} {items : List α} {items' : List β}
    (all : List.Forall₂ related items items') (i : Nat) :
    Option.Rel related items[i]? items'[i]? := by
  induction all generalizing i with
  | nil => exact .none
  | cons first _ ih =>
    cases i with
    | zero => exact .some first
    | succ i => exact ih i

theorem exists_left_of_forall₂ {related : α → β → Prop} {items : List α} {items' : List β}
    (all : List.Forall₂ related items items') {b : β} (member : b ∈ items') :
    ∃ a ∈ items, related a b := by
  induction all with
  | nil => simp at member
  | cons first _ ih =>
    rcases List.mem_cons.mp member with rfl | member
    · exact ⟨_, List.mem_cons_self, first⟩
    · obtain ⟨a, member', relation⟩ := ih member
      exact ⟨a, List.mem_cons_of_mem _ member', relation⟩

theorem forall_mem_iff_of_forall₂ {related : α → β → Prop} {items : List α} {items' : List β}
    {property : α → Prop} {property' : β → Prop} (all : List.Forall₂ related items items')
    (each : ∀ a b, related a b → (property' b ↔ property a)) :
    (∀ b ∈ items', property' b) ↔ ∀ a ∈ items, property a := by
  induction all with
  | nil => simp
  | cons head _ ih => rw [List.forall_mem_cons, List.forall_mem_cons, each _ _ head, ih]

theorem forall₂_zip_zip {related : α → β → Prop} {related' : γ → δ → Prop} {as : List α}
    {bs : List β} {cs : List γ} {ds : List δ} (first : List.Forall₂ related as bs)
    (second : List.Forall₂ related' cs ds) :
    List.Forall₂ (fun x y => related x.1 y.1 ∧ related' x.2 y.2) (as.zip cs) (bs.zip ds) := by
  induction first generalizing cs ds with
  | nil => exact .nil
  | cons head _ ih =>
    cases second with
    | nil => exact .nil
    | cons head' rest => exact .cons ⟨head, head'⟩ (ih rest)

/-- Every success of the first check is matched by a success of the second, and their values are
    related. -/
def Carries (related : α → β → Prop) (x : Check α) (y : Check β) : Prop :=
  ∀ a, x = .ok a → ∃ b, y = .ok b ∧ related a b

namespace Carries

variable {related : α → β → Prop} {related' : γ → δ → Prop} {x : Check α} {y : Check β}

theorem pure {a : α} {b : β} (h : related a b) :
    Carries related (Pure.pure a : Check α) (Pure.pure b) := by
  rintro _ ⟨⟩
  exact ⟨b, rfl, h⟩

theorem to_ok {b : β} (h : ∀ a, x = .ok a → related a b) : Carries related x (.ok b) := by
  intro a success
  exact ⟨b, rfl, h a success⟩

/-- The same check, with its success at hand. -/
theorem same (x : Check α) : Carries (fun a b => a = b ∧ x = .ok a) x x := by
  intro a success
  exact ⟨a, success, rfl, success⟩

theorem of_reject (kind : Diagnostic.Kind) (message : String) (notes : List String) :
    Carries related (reject kind message notes) y := by
  intro a success
  simp at success

theorem of_misuse (m : Misuse) : Carries related (misuse m) y := by
  intro a success
  simp at success

theorem mono {wider : α → β → Prop} (h : Carries related x y)
    (imp : ∀ a b, related a b → wider a b) : Carries wider x y := by
  intro a success
  obtain ⟨b, success', relation⟩ := h a success
  exact ⟨b, success', imp a b relation⟩

theorem with_success (h : Carries related x y) :
    Carries (fun a b => related a b ∧ x = .ok a ∧ y = .ok b) x y := by
  intro a success
  obtain ⟨b, success', relation⟩ := h a success
  exact ⟨b, success', relation, success, success'⟩

theorem bind {f : α → Check γ} {g : β → Check δ} (h : Carries related x y)
    (next : ∀ a b, related a b → Carries related' (f a) (g b)) :
    Carries related' (x >>= f) (y >>= g) := by
  intro c success
  obtain ⟨a, first, second⟩ := bind_eq_ok.mp success
  obtain ⟨b, first', relation⟩ := h a first
  obtain ⟨d, second', relation'⟩ := next a b relation c second
  exact ⟨d, bind_eq_ok.mpr ⟨b, first', second'⟩, relation'⟩

/-- A step that both checks make in the same way. -/
theorem bind_same {z : Check γ} {f : γ → Check α} {g : γ → Check β}
    (next : ∀ c, z = .ok c → Carries related (f c) (g c)) :
    Carries related (z >>= f) (z >>= g) := by
  intro a success
  obtain ⟨c, first, second⟩ := bind_eq_ok.mp success
  obtain ⟨b, second', relation⟩ := next c first a second
  exact ⟨b, bind_eq_ok.mpr ⟨c, first, second'⟩, relation⟩

/-- A step that only the first check makes. -/
theorem bind_left {f : γ → Check α} {z : Check γ}
    (next : ∀ c, z = .ok c → Carries related (f c) y) : Carries related (z >>= f) y := by
  intro a success
  obtain ⟨c, first, second⟩ := bind_eq_ok.mp success
  exact next c first a second

/-- Last steps that only the first check makes. -/
theorem bind_discard {f : α → Check γ} {wider : γ → β → Prop} (h : Carries related x y)
    (keep : ∀ a b c, related a b → f a = .ok c → wider c b) : Carries wider (x >>= f) y := by
  intro c success
  obtain ⟨a, first, second⟩ := bind_eq_ok.mp success
  obtain ⟨b, first', relation⟩ := h a first
  exact ⟨b, first', keep a b c relation second⟩

/-- A step that only the second check makes, and that succeeds. -/
theorem bind_right {g : γ → Check β} {z : Check γ} {c : γ} (first : z = .ok c)
    (next : Carries related x (g c)) : Carries related x (z >>= g) := by
  rw [first]
  exact next

theorem map {f : α → γ} {g : β → δ} (h : Carries related x y)
    (image : ∀ a b, related a b → related' (f a) (g b)) :
    Carries related' (Except.map f x) (Except.map g y) := by
  intro c success
  obtain ⟨a, first, rfl⟩ := map_eq_ok.mp success
  obtain ⟨b, first', relation⟩ := h a first
  exact ⟨g b, map_eq_ok.mpr ⟨b, first', rfl⟩, image a b relation⟩

theorem ensure {p q : Prop} [Decidable p] [Decidable q] {kind kind' : Diagnostic.Kind}
    {message message' : String} (imp : p → q) :
    Carries (fun _ _ => p) (ensure p kind message) (ensure q kind' message') := by
  intro _ success
  rw [ensure_eq_ok] at success
  exact ⟨(), ensure_eq_ok.mpr (imp success), success⟩

theorem needPart {part : Option α} {part' : Option β} (h : Option.Rel related part part') :
    Carries related (needPart part) (needPart part') := by
  cases h with
  | some h => exact .pure h
  | none => exact of_misuse _

theorem needItems {items : Option (List α)} {items' : Option (List β)}
    (h : Option.Rel (List.Forall₂ related) items items') :
    Carries (List.Forall₂ related) (needItems items) (needItems items') := by
  cases h with
  | some h => exact .pure h
  | none => exact of_misuse _

theorem collect {check : α → Check γ} {check' : β → Check δ} {items : List α} {items' : List β}
    (all : List.Forall₂ related items items')
    (each : ∀ a b, related a b → Carries related' (check a) (check' b)) :
    Carries (List.Forall₂ related') (collect check items) (collect check' items') := by
  induction all with
  | nil => exact .pure .nil
  | cons first _ ih =>
    intro values collected
    obtain ⟨value, rest, success, others, rfl⟩ :=
      List.forall₂_cons_left_iff.mp (collect_eq_ok.mp collected)
    obtain ⟨value', success', relation⟩ := each _ _ first value success
    obtain ⟨rest', others', relations⟩ := ih rest (collect_eq_ok.mpr others)
    exact ⟨value' :: rest', collect_eq_ok.mpr (.cons success' (collect_eq_ok.mp others')),
      .cons relation relations⟩

theorem checkAll {check : α → Check Unit} {check' : β → Check Unit} {items : List α}
    {items' : List β} (all : List.Forall₂ related items items')
    (each : ∀ a b, related a b → Carries (fun _ _ => True) (check a) (check' b)) :
    Carries (fun _ _ => True) (checkAll check items) (checkAll check' items') := by
  intro _ success
  refine ⟨(), ?_, trivial⟩
  rw [checkAll_eq_ok] at success ⊢
  induction all with
  | nil => simp
  | cons first _ ih =>
    simp only [List.forall_mem_cons] at success ⊢
    obtain ⟨_, success', -⟩ := each _ _ first () success.1
    exact ⟨success', ih success.2⟩

/-- Two checks of the same items. -/
theorem collect_same {check : α → Check γ} {check' : α → Check δ} {items : List α}
    (each : ∀ a ∈ items, Carries related' (check a) (check' a)) :
    Carries (List.Forall₂ related') (TensorTyping.collect check items)
      (TensorTyping.collect check' items) := by
  have self : List.Forall₂ (fun a b => a = b ∧ a ∈ items) items items :=
    List.forall₂_same.mpr fun a member => ⟨rfl, member⟩
  refine collect self ?_
  rintro a _ ⟨rfl, member⟩
  exact each a member

theorem checkAll_same {check check' : α → Check Unit} {items : List α}
    (each : ∀ a ∈ items, Carries (fun _ _ => True) (check a) (check' a)) :
    Carries (fun _ _ => True) (TensorTyping.checkAll check items)
      (TensorTyping.checkAll check' items) := by
  have self : List.Forall₂ (fun a b => a = b ∧ a ∈ items) items items :=
    List.forall₂_same.mpr fun a member => ⟨rfl, member⟩
  refine checkAll self ?_
  rintro a _ ⟨rfl, member⟩
  exact each a member

theorem checkEach {check : Nat → α → Check Unit} {check' : Nat → β → Check Unit}
    {items : List α} {items' : List β} (all : List.Forall₂ related items items')
    (each : ∀ i a b, related a b → Carries (fun _ _ => True) (check i a) (check' i b)) :
    Carries (fun _ _ => True) (checkEach check items) (checkEach check' items') := by
  refine checkAll (forall₂_zipIdx all 0) ?_
  rintro ⟨a, i⟩ ⟨b, j⟩ ⟨relation, rfl⟩
  exact each i a b relation

theorem foldlM {step : γ → α → Check γ} {step' : δ → β → Check δ} {items : List α}
    {items' : List β} {start : γ} {start' : δ} (all : List.Forall₂ related items items')
    (first : related' start start')
    (each : ∀ c d a b, related' c d → related a b → Carries related' (step c a) (step' d b)) :
    Carries related' (items.foldlM step start) (items'.foldlM step' start') := by
  induction all generalizing start start' with
  | nil => exact .pure first
  | cons head _ ih =>
    rw [List.foldlM_cons, List.foldlM_cons]
    exact (each _ _ _ _ first head).bind fun _ _ next => ih next

end Carries

/-! ### Checks without misuse -/

/-- The check yields a value with the property, a diagnostic, or a misuse that is excused. -/
def Meets (excused : Misuse → Prop) (property : α → Prop) : Check α → Prop
  | .ok a => property a
  | .error (.diagnostic _) => True
  | .error (.misuse m) => excused m

namespace Meets

variable {excused : Misuse → Prop} {property wider : α → Prop} {property' : β → Prop}
  {x : Check α} {f : α → Check β}

theorem of_ok {a : α} (success : x = .ok a) (h : property a) : Meets excused property x := by
  rw [success]
  exact h

theorem excused_of_misuse {m : Misuse} (h : Meets excused property x) (failed : x = misuse m) :
    excused m := by
  rw [failed] at h
  exact h

/-- The three ways in which a check may end. -/
theorem outcome (h : Meets excused property x) :
    (∃ a, x = .ok a ∧ property a) ∨ (∃ d, x = .error (.diagnostic d)) ∨
      ∃ m, excused m ∧ x = misuse m := by
  cases x with
  | ok a => exact .inl ⟨a, rfl, h⟩
  | error fault =>
    cases fault with
    | diagnostic d => exact .inr (.inl ⟨d, rfl⟩)
    | misuse m => exact .inr (.inr ⟨m, h, rfl⟩)

theorem of_outcomes (holds : ∀ a, x = .ok a → property a)
    (excuse : ∀ m, x = TensorTyping.misuse m → excused m) : Meets excused property x := by
  cases x with
  | ok a => exact holds a rfl
  | error fault =>
    cases fault with
    | diagnostic d => trivial
    | misuse m => exact excuse m rfl

theorem ne_misuse (h : Meets (fun _ => False) property x) (m : Misuse) : x ≠ misuse m :=
  h.excused_of_misuse

theorem misuse {m : Misuse} (h : excused m) : Meets excused property (misuse m) := h

theorem reject (kind : Diagnostic.Kind) (message : String) (notes : List String) :
    Meets excused property (reject kind message notes) := trivial

theorem mono (h : Meets excused property x) (imp : ∀ a, x = .ok a → property a → wider a) :
    Meets excused wider x := by
  cases x with
  | ok a => exact imp a rfl h
  | error fault =>
    cases fault with
    | diagnostic d => trivial
    | misuse m => exact h

theorem weaken (h : Meets excused property x) : Meets excused (fun _ => True) x :=
  h.mono fun _ _ _ => trivial

theorem bind (h : Meets excused property x)
    (next : ∀ a, x = .ok a → property a → Meets excused property' (f a)) :
    Meets excused property' (x >>= f) := by
  cases x with
  | ok a => exact next a rfl h
  | error fault =>
    cases fault with
    | diagnostic d => trivial
    | misuse m => exact h

/-- A step whose value is not used. -/
theorem andThen {y : Check β} (h : Meets excused property x) (next : Meets excused property' y) :
    Meets excused property' (x >>= fun _ => y) :=
  h.bind fun _ _ _ => next

/-- A step whose success is known. -/
theorem bind_ok {a : α} (success : x = .ok a) (next : Meets excused property' (f a)) :
    Meets excused property' (x >>= f) := by
  rw [success]
  exact next

theorem map {g : α → β} (h : Meets excused property x)
    (image : ∀ a, x = .ok a → property a → property' (g a)) :
    Meets excused property' (Except.map g x) := by
  cases x with
  | ok a => exact image a rfl h
  | error fault =>
    cases fault with
    | diagnostic d => trivial
    | misuse m => exact h

theorem ensure {condition : Prop} [Decidable condition] {kind : Diagnostic.Kind}
    {message : String} : Meets excused (fun _ => condition) (ensure condition kind message) := by
  unfold TensorTyping.ensure
  split
  · assumption
  · trivial

theorem ensure_bind {condition : Prop} [Decidable condition] {kind : Diagnostic.Kind}
    {message : String} {g : Unit → Check β} (next : condition → Meets excused property' (g ())) :
    Meets excused property' (TensorTyping.ensure condition kind message >>= g) :=
  ensure.bind fun _ _ holds => next holds

theorem collect {check : α → Check β} {items : List α}
    (each : ∀ item ∈ items, Meets excused property' (check item)) :
    Meets excused (fun values => ∀ value ∈ values, property' value)
      (TensorTyping.collect check items) := by
  induction items with
  | nil => simp [TensorTyping.collect, Meets]
  | cons item rest ih =>
    rw [collect_cons]
    apply (each item List.mem_cons_self).bind
    intro value _ first
    apply (ih fun item member => each item (List.mem_cons_of_mem _ member)).bind
    intro values _ others
    exact List.forall_mem_cons.mpr ⟨first, others⟩

/-- A collection ends in a diagnostic when the check of one item does and no earlier item runs into
    a misuse. -/
theorem collect_of_stop {check : α → Check β} {items : List α} {i : Nat} {item : α}
    (found : items[i]? = some item) (stop : Meets excused (fun _ => False) (check item))
    (before : ∀ j < i, ∀ earlier, items[j]? = some earlier →
      Meets excused property' (check earlier)) :
    Meets excused (fun _ => False) (TensorTyping.collect check items) := by
  induction items generalizing i with
  | nil => cases found
  | cons first rest ih =>
    rw [collect_cons]
    cases i with
    | zero =>
      cases found
      exact stop.bind fun _ _ absurd => absurd.elim
    | succ i =>
      apply (before 0 (Nat.zero_lt_succ i) first rfl).bind
      intro value _ _
      have stopped := ih found fun j less => before (j + 1) (Nat.succ_lt_succ less)
      exact stopped.bind fun _ _ absurd => absurd.elim

/-- What the check of each item shows holds of all items. -/
theorem checkAll_forall {check : α → Check Unit} {items : List α}
    (each : ∀ item ∈ items, Meets excused (fun _ => property item) (check item)) :
    Meets excused (fun _ => ∀ item ∈ items, property item) (TensorTyping.checkAll check items) := by
  induction items with
  | nil => exact List.forall_mem_nil _
  | cons item rest ih =>
    have same : TensorTyping.checkAll check (item :: rest) =
        (check item >>= fun _ => TensorTyping.checkAll check rest) := by
      rw [TensorTyping.checkAll]
      cases check item <;> rfl
    rw [same]
    apply (each item List.mem_cons_self).bind
    intro _ _ first
    apply (ih fun item member => each item (List.mem_cons_of_mem _ member)).mono
    intro _ _ others
    exact List.forall_mem_cons.mpr ⟨first, others⟩

theorem checkAll {check : α → Check Unit} {items : List α}
    (each : ∀ item ∈ items, Meets excused (fun _ => True) (check item)) :
    Meets excused (fun _ => True) (TensorTyping.checkAll check items) :=
  (checkAll_forall each).weaken

theorem checkEach_forall {check : Nat → α → Check Unit} {items : List α}
    (each : ∀ i item, items[i]? = some item →
      Meets excused (fun _ => property item) (check i item)) :
    Meets excused (fun _ => ∀ item ∈ items, property item)
      (TensorTyping.checkEach check items) := by
  have pairs : ∀ item ∈ items.zipIdx,
      Meets excused (fun _ => property item.1) (check item.2 item.1) :=
    fun item member => each item.2 item.1 (List.mem_zipIdx_iff_getElem?.mp member)
  apply (checkAll_forall pairs).mono
  intro _ _ all
  rw [← List.zipIdx_map_fst 0 items]
  exact List.forall_mem_map.mpr all

theorem checkEach {check : Nat → α → Check Unit} {items : List α}
    (each : ∀ i item, items[i]? = some item → Meets excused (fun _ => True) (check i item)) :
    Meets excused (fun _ => True) (TensorTyping.checkEach check items) :=
  (checkEach_forall each).weaken

theorem foldlM {step : β → α → Check β} {items : List α} {start : β} (first : property' start)
    (each : ∀ b, property' b → ∀ item ∈ items, Meets excused property' (step b item)) :
    Meets excused property' (items.foldlM step start) := by
  induction items generalizing start with
  | nil => exact first
  | cons item rest ih =>
    rw [List.foldlM_cons]
    exact (each start first item List.mem_cons_self).bind fun b _ next =>
      ih next fun b holds item member => each b holds item (List.mem_cons_of_mem _ member)

end Meets

end Check

end TensorTyping
