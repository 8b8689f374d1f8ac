import TensorTyping.Proofs.Check
import TensorTyping.Ty.Basic

/-!
# Items of lists and extents of tensors

When a number stands for an item of a list, and what is read or put there. `Tensor.extent` is what
is known about a dimension, whether or not there is one; `Tensor.dim` answers with it for the
dimensions that a tensor has.
-/

namespace TensorTyping

variable {α β γ δ : Type}

/-! ### Places -/

theorem place?_eq_some {length place : Nat} {index : Int} :
    place? length index = some place ↔
      place < length ∧ (index = place ∨ index + length = place) := by
  simp only [place?, Option.ite_none_right_eq_some, Option.some.injEq]
  split <;> omega

theorem place?_natCast {length i : Nat} (inside : i < length) : place? length i = some i :=
  place?_eq_some.mpr ⟨inside, .inl rfl⟩

/-! ### Lengths -/

theorem fitsWord_of_nonneg {n : Int} (nonneg : 0 ≤ n) (below : n < signedLimit) :
    fitsWord n = true := by
  simp only [fitsWord, Bool.and_eq_true, decide_eq_true_eq]
  exact ⟨Int.le_trans (by decide) nonneg, below⟩

theorem ensureListLength_of_lt {count : Int} (nonneg : 0 ≤ count) (short : count < signedLimit) :
    ensureListLength count = .ok () :=
  if_pos (fitsWord_of_nonneg nonneg short)

theorem ensureListLength_of_le {count : Int} (long : signedLimit ≤ count) :
    ensureListLength count = misuse .overflow := by
  refine if_neg ?_
  simp only [fitsWord, Bool.and_eq_true, decide_eq_true_eq]
  omega

/-! ### Reading -/

theorem itemAt_eq_ok {items : List α} {index : Int} {item : α} :
    itemAt items index = .ok item ↔
      ∃ place, place? items.length index = some place ∧ items[place]? = some item := by
  unfold itemAt
  cases place? items.length index with
  | none => simp
  | some place => cases found : items[place]? <;> simp [found]

@[simp] theorem itemAt_natCast_eq_ok {items : List α} {i : Nat} {item : α} :
    itemAt items i = .ok item ↔ items[i]? = some item := by
  simp only [itemAt_eq_ok, place?_eq_some]
  constructor
  · rintro ⟨place, ⟨inside, same | same⟩, found⟩
    · rwa [Int.ofNat_inj.mp same]
    · omega
  · intro found
    exact ⟨i, ⟨(List.getElem?_eq_some_iff.mp found).1, .inl rfl⟩, found⟩

@[simp] theorem itemAt_zero_eq_ok {items : List α} {item : α} :
    itemAt items 0 = .ok item ↔ items.head? = some item := by
  rw [List.head?_eq_getElem?]
  exact itemAt_natCast_eq_ok

theorem itemAt_eq_ok_of_nonneg {items : List α} {index : Int} {item : α} (nonneg : 0 ≤ index) :
    itemAt items index = .ok item ↔ items[index.toNat]? = some item := by
  obtain ⟨i, rfl⟩ := Int.eq_ofNat_of_zero_le nonneg
  exact itemAt_natCast_eq_ok

/-- There is an item at every number from zero up to the length. -/
theorem exists_itemAt {items : List α} {index : Int} (nonneg : 0 ≤ index)
    (inside : index < items.length) :
    ∃ item, itemAt items index = .ok item ∧ items[index.toNat]? = some item := by
  obtain ⟨i, rfl⟩ := Int.eq_ofNat_of_zero_le nonneg
  have found := List.getElem?_eq_getElem (Int.ofNat_lt.mp inside)
  exact ⟨_, itemAt_natCast_eq_ok.mpr found, found⟩

theorem itemAt_eq_join {items : List (Option α)} {index : Int} (nonneg : 0 ≤ index)
    (inside : index < items.length) : itemAt items index = .ok items[index.toNat]?.join := by
  obtain ⟨item, success, found⟩ := exists_itemAt nonneg inside
  rw [success, found, Option.join_some]

theorem itemAt_map_of_ok {items : List α} {index : Int} {item : α} (f : α → β)
    (found : itemAt items index = .ok item) : itemAt (items.map f) index = .ok (f item) := by
  obtain ⟨place, standsFor, found⟩ := itemAt_eq_ok.mp found
  refine itemAt_eq_ok.mpr ⟨place, by rwa [List.length_map], ?_⟩
  rw [List.getElem?_map, found, Option.map_some]

theorem itemAt_last_eq_ok {items : List α} {item : α} :
    itemAt items (-1) = .ok item ↔ items.getLast? = some item := by
  simp only [itemAt_eq_ok, place?_eq_some, List.getLast?_eq_getElem?]
  constructor
  · rintro ⟨place, ⟨-, same⟩, found⟩
    obtain rfl : place = items.length - 1 := by omega
    exact found
  · intro found
    have inside := (List.getElem?_eq_some_iff.mp found).1
    exact ⟨items.length - 1, ⟨inside, by omega⟩, found⟩

/-- The items of three lists of one length, read place by place. -/
theorem collect_itemAt_range {as : List α} {bs : List β} {cs : List γ} {count : Nat}
    (f : α → β → γ → δ) (ha : as.length = count) (hb : bs.length = count)
    (hc : cs.length = count) :
    collect (fun i : Nat => do return f (← itemAt as i) (← itemAt bs i) (← itemAt cs i))
        (List.range count) =
      .ok ((as.zip (bs.zip cs)).map fun item => f item.1 item.2.1 item.2.2) := by
  refine Check.collect_range_eq_ok.mpr ⟨by simp [ha, hb, hc], fun i value found => ?_⟩
  simp only [List.getElem?_map, Option.map_eq_some_iff, Prod.exists,
    List.getElem?_zip_eq_some] at found
  obtain ⟨a, b, c, ⟨first, second, third⟩, rfl⟩ := found
  simp [Check.bind_eq_ok, first, second, third]

/-! ### Writing -/

theorem setItem_eq_ok {items result : List α} {index : Int} {item : α} :
    setItem items index item = .ok result ↔
      ∃ place, place? items.length index = some place ∧ items.set place item = result := by
  unfold setItem
  cases place? items.length index <;> simp

theorem setItem_of_inside {items : List α} {index : Int} {item : α} (nonneg : 0 ≤ index)
    (inside : index < items.length) :
    setItem items index item = .ok (items.set index.toNat item) := by
  obtain ⟨i, rfl⟩ := Int.eq_ofNat_of_zero_le nonneg
  exact setItem_eq_ok.mpr ⟨i, place?_natCast (Int.ofNat_lt.mp inside), rfl⟩

theorem length_of_setItem {items result : List α} {index : Int} {item : α}
    (success : setItem items index item = .ok result) : result.length = items.length := by
  obtain ⟨place, -, rfl⟩ := setItem_eq_ok.mp success
  exact List.length_set

/-! ### Two lists side by side -/

namespace Check.Carries

variable {related : α → β → Prop} {items : List α} {items' : List β}

theorem itemAt (all : List.Forall₂ related items items') (index : Int) :
    Carries related (itemAt items index) (itemAt items' index) := by
  intro item success
  obtain ⟨place, standsFor, found⟩ := itemAt_eq_ok.mp success
  have both := forall₂_getElem? all place
  rw [found] at both
  cases found' : items'[place]? with
  | none =>
    rw [found'] at both
    cases both
  | some item' =>
    rw [found'] at both
    cases both with
    | some relation =>
      rw [all.length_eq] at standsFor
      exact ⟨item', itemAt_eq_ok.mpr ⟨place, standsFor, found'⟩, relation⟩

theorem setItem (all : List.Forall₂ related items items') {a : α} {b : β} (h : related a b)
    (index : Int) :
    Carries (List.Forall₂ related) (setItem items index a) (setItem items' index b) := by
  intro result success
  obtain ⟨place, standsFor, rfl⟩ := setItem_eq_ok.mp success
  rw [all.length_eq] at standsFor
  refine ⟨_, setItem_eq_ok.mpr ⟨place, standsFor, rfl⟩, ?_⟩
  clear standsFor success
  induction all generalizing place with
  | nil => exact .nil
  | cons first rest ih =>
    cases place with
    | zero => exact .cons h rest
    | succ place => exact .cons first (ih place)

theorem setItems (all : List.Forall₂ related items items') {values : List (Int × α)}
    {values' : List (Int × β)}
    (each : List.Forall₂ (fun a b => a.1 = b.1 ∧ related a.2 b.2) values values') :
    Carries (List.Forall₂ related) (setItems items values) (setItems items' values') := by
  induction each generalizing items items' with
  | nil => exact .pure all
  | cons first _ ih =>
    obtain ⟨same, relation⟩ := first
    rw [TensorTyping.setItems, TensorTyping.setItems, same]
    exact (setItem all relation _).bind fun _ _ next => ih next

end Check.Carries

/-! ### Checks without misuse -/

namespace Check.Meets

variable {excused : Misuse → Prop} {property : α → Prop} {items : List α} {index : Int}

theorem itemAt (all : ∀ item ∈ items, property item) (nonneg : 0 ≤ index)
    (inside : index < items.length) : Meets excused property (itemAt items index) := by
  obtain ⟨item, success, found⟩ := exists_itemAt nonneg inside
  exact .of_ok success (all item (List.mem_of_getElem? found))

theorem setItem (all : ∀ item ∈ items, property item) {item : α} (h : property item)
    (nonneg : 0 ≤ index) (inside : index < items.length) :
    Meets excused (fun result => ∀ item ∈ result, property item) (setItem items index item) := by
  refine .of_ok (setItem_of_inside nonneg inside) fun value member => ?_
  rcases List.mem_or_eq_of_mem_set member with member | rfl
  · exact all value member
  · exact h

theorem setItems (all : ∀ item ∈ items, property item) {values : List (Int × α)}
    (each : ∀ value ∈ values, 0 ≤ value.1 ∧ value.1 < items.length ∧ property value.2) :
    Meets excused (fun result => ∀ item ∈ result, property item) (setItems items values) := by
  induction values generalizing items with
  | nil => exact all
  | cons value rest ih =>
    obtain ⟨⟨nonneg, inside, holds⟩, others⟩ := List.forall_mem_cons.mp each
    rw [TensorTyping.setItems]
    apply (setItem all holds nonneg inside).bind
    intro result success formed
    exact ih formed (by rwa [length_of_setItem success])

end Check.Meets

/-! ### The extents of a tensor -/

/-- What is known about the extent at a position: nothing in an unranked shape, and nothing beyond
    the last dimension. -/
def Shape.extent (s : Shape) (i : Nat) : Extent :=
  match s with
  | .unranked => none
  | .ranked dims => dims[i]?.join

namespace Tensor

variable {t : Tensor} {dim : Extent}

/-- What is known about the extent at a position. -/
def extent (t : Tensor) (i : Nat) : Extent := t.shape.extent i

/-- The number is that of a dimension of the tensor, if its rank is known. -/
def HasDim (t : Tensor) (d : Int) : Prop := ∀ rank, t.rank? = some rank → 0 ≤ d ∧ d < rank

theorem hasDim_of_rank {rank : Nat} {d : Int} (known : t.rank? = some rank) (nonneg : 0 ≤ d)
    (inside : d < rank) : t.HasDim d := by
  intro n found
  rw [known] at found
  cases found
  exact ⟨nonneg, inside⟩

theorem hasDim_of_not_hasOtherRank {rank : Nat} {d : Int} (same : (!t.hasOtherRank rank) = true)
    (nonneg : 0 ≤ d) (inside : d < rank) : t.HasDim d := by
  intro n found
  have equal : n = rank := by simpa [hasOtherRank, found] using same
  rw [equal]
  exact ⟨nonneg, inside⟩

theorem HasDim.inside {dims : List Extent} {d : Int} (has : t.HasDim d)
    (shape : t.shape = .ranked dims) : 0 ≤ d ∧ d < dims.length :=
  has _ (by rw [rank?, shape, Shape.rank?])

/-- A dimension that the tensor has is answered with what is known about it. -/
theorem HasDim.dim_eq {d : Int} (has : t.HasDim d) : t.dim d = .ok (t.extent d.toNat) := by
  unfold dim Tensor.extent Shape.extent
  cases shape : t.shape with
  | unranked => rfl
  | ranked dims =>
    obtain ⟨nonneg, inside⟩ := has.inside shape
    exact itemAt_eq_join nonneg inside

/-- The answer is what is known about a dimension that the tensor has. -/
theorem dim_eq_ok_of_nonneg {d : Int} (nonneg : 0 ≤ d) :
    t.dim d = .ok dim ↔ t.HasDim d ∧ t.extent d.toNat = dim := by
  constructor
  · intro success
    have has : t.HasDim d := by
      intro rank known
      cases shape : t.shape with
      | unranked =>
        rw [rank?, shape] at known
        cases known
      | ranked dims =>
        rw [rank?, shape] at known
        obtain rfl := Option.some.inj known
        rw [Tensor.dim, shape] at success
        have found := (itemAt_eq_ok_of_nonneg nonneg).mp success
        have inside := (List.getElem?_eq_some_iff.mp found).1
        omega
    exact ⟨has, Except.ok.inj (has.dim_eq.symm.trans success)⟩
  · rintro ⟨has, rfl⟩
    exact has.dim_eq

end Tensor

end TensorTyping
