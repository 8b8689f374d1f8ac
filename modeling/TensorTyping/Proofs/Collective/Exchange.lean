import Mathlib.Tactic.Ring
import TensorTyping.Proofs.Size
import TensorTyping.Proofs.Totality.Collective

/-!
# Exchanges and their way back

An exchange divides one dimension by the number of parts and multiplies another by it. The exchange
with the two dimensions swapped takes every result back to the operand, whether the dimensions
differ or not and whatever is known of them. No elements are lost or made on the way.
-/

namespace TensorTyping

/-! ### Extents listed by payloads -/

theorem Shape.readExtent_eq_ok {item : Payload} {dim : Extent} :
    readExtent item = .ok dim ↔ item = .ofExtent dim ∧ dim.WellFormed := by
  cases item with
  | null => cases dim <;> simp [readExtent, Payload.ofExtent, Extent.WellFormed]
  | int n =>
    by_cases negative : n < 0
    · cases dim with
      | none => simp [readExtent, Payload.ofExtent, negative]
      | some m =>
        simp only [readExtent, if_pos negative, Check.misuse_ne_ok, Payload.ofExtent,
          Payload.int.injEq, Extent.wellFormed_some, false_iff]
        omega
    · cases dim with
      | none => simp [readExtent, Payload.ofExtent, negative]
      | some m =>
        simp only [readExtent, if_neg negative, Payload.ofExtent, Payload.int.injEq,
          Extent.wellFormed_some, Except.ok.injEq, Option.some.injEq]
        omega
  | _ => cases dim <;> simp [readExtent, Payload.ofExtent]

/-- A list is read as extents when it lists extents that are not negative. -/
theorem Tensor.read_list_eq_ok {element : Ty} {items : List Payload} {t : Tensor} :
    Tensor.read element (.list items) = .ok t ↔
      element.isElement = true ∧ ∃ dims : List Extent, items = dims.map .ofExtent ∧
        (∀ dim ∈ dims, dim.WellFormed) ∧ t = ⟨element, .ranked dims⟩ := by
  have collected (dims : List Extent) : collect Shape.readExtent items = .ok dims ↔
      items = dims.map .ofExtent ∧ ∀ dim ∈ dims, dim.WellFormed := by
    rw [Check.collect_eq_ok]
    constructor
    · intro each
      have listed : List.Forall₂ (fun item dim => item = .ofExtent dim) items dims :=
        each.imp fun _ _ accepted => (Shape.readExtent_eq_ok.mp accepted).1
      rw [← List.forall₂_map_right_iff, List.forall₂_eq_eq_eq] at listed
      refine ⟨listed, fun dim member => ?_⟩
      obtain ⟨item, -, accepted⟩ := Check.exists_left_of_forall₂ each member
      exact (Shape.readExtent_eq_ok.mp accepted).2
    · rintro ⟨rfl, formed⟩
      rw [List.forall₂_map_left_iff, List.forall₂_same]
      intro dim member
      exact Shape.readExtent_eq_ok.mpr ⟨rfl, formed dim member⟩
  simp only [Tensor.read, Shape.read, Payload.items?, Check.bind_eq_ok, Tensor.form_eq_ok,
    collected, Check.pure_eq, Except.ok.injEq]
  constructor
  · rintro ⟨_, ⟨isElement, -, rfl⟩, _, ⟨dims, ⟨listed, formed⟩, rfl⟩, rfl⟩
    exact ⟨isElement, dims, listed, formed, rfl⟩
  · rintro ⟨isElement, dims, listed, formed, rfl⟩
    exact ⟨_, ⟨isElement, Shape.badExtent?_eq_none.mp rfl, rfl⟩, _, ⟨dims, ⟨listed, formed⟩, rfl⟩,
      rfl⟩

namespace Op

/-! ### Extents before and after -/

variable {dims dims' : List Extent} {split concat : Nat}

theorem modify_cancel {α : Type} {f g : α → α} {items : List α} {i : Nat}
    (cancel : ∀ item, items[i]? = some item → g (f item) = item) :
    (items.modify i f).modify i g = items := by
  rw [List.modify_modify_eq]
  apply List.ext_getElem?
  intro j
  rw [List.getElem?_modify]
  by_cases here : i = j
  · subst here
    cases found : items[i]? with
    | none => rfl
    | some item => simp [cancel item found]
  · simp [here]

/-- The extents after one dimension is divided and another multiplied, as far as they are known. -/
def movedDims (dims : List Extent) (split concat : Nat) (n : Int) : List Extent :=
  (dims.modify split (Option.map (· / n))).modify concat (Option.map (· * n))

theorem itemAt_join {i : Nat} (inside : i < dims.length) : itemAt dims i = .ok dims[i]?.join :=
  itemAt_eq_join (Int.natCast_nonneg i) (Int.ofNat_lt.mpr inside)

theorem replaceKnown_eq_ok {i : Nat} (inside : i < dims.length) (f : Int → Int) :
    replaceKnown dims i (fun n => .ok (f n)) = .ok (dims.modify i (Option.map f)) := by
  have found := List.getElem?_eq_getElem inside
  have same : dims.set i dims[i] = dims := List.set_getElem_self inside
  rw [replaceKnown, itemAt_natCast_eq_ok.mpr found, Check.ok_bind, List.modify_eq_set_getElem?,
    found]
  generalize dims[i] = dim at same
  cases dim with
  | none => exact congrArg _ same.symm
  | some n => exact setItem_of_inside (Int.natCast_nonneg i) (Int.ofNat_lt.mpr inside)

theorem exchangedDims_eq_ok {n : Int} (splitInside : split < dims.length)
    (concatInside : concat < dims.length) (positive : 0 < n) :
    exchangedDims dims split concat n = .ok (movedDims dims split concat n) := by
  have divided : (floorDiv · n) = fun m => .ok (m / n) :=
    funext (Check.floorDiv_of_pos positive)
  rw [exchangedDims, divided, replaceKnown_eq_ok splitInside, Check.ok_bind]
  exact replaceKnown_eq_ok (by rwa [List.length_modify]) _

section Counted

variable {n : Int} (positive : 0 < n)

/-- Joining as many parts as a dimension was split into gives the dimension. -/
theorem join_parts (multiple : ∀ m, dims[split]?.join = some m → n ∣ m) :
    (dims.modify split (Option.map (· / n))).modify split (Option.map (· * n)) = dims := by
  apply modify_cancel
  intro dim found
  cases dim with
  | none => rfl
  | some m => simp [Int.ediv_mul_cancel (multiple m (by simp [found]))]

include positive in
theorem movedDims_back (multiple : ∀ m, dims[split]?.join = some m → n ∣ m) :
    movedDims (movedDims dims split concat n) concat split n = dims := by
  have whole (dim : Extent) : (dim.map (· * n)).map (· / n) = dim := by
    cases dim with
    | none => rfl
    | some m => simp [Int.mul_ediv_cancel m (Int.ne_of_gt positive)]
  calc movedDims (movedDims dims split concat n) concat split n
    _ = (dims.modify split (Option.map (· / n))).modify split (Option.map (· * n)) :=
      congrArg (List.modify · split _) (modify_cancel fun dim _ => whole dim)
    _ = dims := join_parts multiple

theorem size?_modify {i : Nat} (inside : i < dims.length) (n : Int) :
    Shape.size? (.ranked (dims.modify i (Option.map (· * n)))) =
      (Shape.size? (.ranked dims)).map (· * n) := by
  obtain ⟨before, dim, after, rfl, rfl, modified⟩ :=
    List.exists_of_modify (Option.map (· * n)) inside
  rw [modified, List.append_cons, List.append_cons before dim]
  apply Option.ext
  intro total
  simp only [Shape.size?_append_eq_some, Shape.size?_singleton, Option.map_eq_some_iff]
  constructor
  · rintro ⟨_, m, ⟨k, _, hbefore, ⟨extent, rfl, rfl⟩, rfl⟩, hafter, rfl⟩
    exact ⟨_, ⟨_, m, ⟨k, extent, hbefore, rfl, rfl⟩, hafter, rfl⟩, by ring⟩
  · rintro ⟨_, ⟨_, m, ⟨k, extent, hbefore, rfl, rfl⟩, hafter, rfl⟩, rfl⟩
    exact ⟨_, m, ⟨k, _, hbefore, ⟨extent, rfl, rfl⟩, rfl⟩, hafter, by ring⟩

/-- An exchange keeps the number of elements: both sides are made of the same parts, joined along
    one dimension or the other. -/
theorem size?_movedDims (multiple : ∀ m, dims[split]?.join = some m → n ∣ m)
    (splitInside : split < dims.length) (concatInside : concat < dims.length) :
    Shape.size? (.ranked (movedDims dims split concat n)) = Shape.size? (.ranked dims) := by
  let parts := dims.modify split (Option.map (· / n))
  have length : parts.length = dims.length := List.length_modify ..
  calc Shape.size? (.ranked (movedDims dims split concat n))
    _ = (Shape.size? (.ranked parts)).map (· * n) := size?_modify (length ▸ concatInside) n
    _ = Shape.size? (.ranked (parts.modify split (Option.map (· * n)))) :=
      (size?_modify (length ▸ splitInside) n).symm
    _ = Shape.size? (.ranked dims) := by rw [join_parts multiple]

end Counted

/-! ### Parts counted by a real number -/

theorem ofExtent_injective : Function.Injective Payload.ofExtent := by
  intro a b same
  cases a <;> cases b <;> simp_all [Payload.ofExtent]

theorem getD_extents_eq_null {i : Nat} :
    (dims.map .ofExtent).getD i .null = Payload.null ↔ dims[i]?.join = none := by
  rw [List.getD_eq_getElem?_getD, List.getElem?_map]
  cases dims[i]? with
  | none => simp
  | some dim => cases dim <;> simp [Payload.ofExtent]

theorem set_null_of_unknown {i : Nat} (unknown : dims[i]?.join = none) :
    (dims.map .ofExtent).set i Payload.null = dims.map .ofExtent := by
  apply List.ext_getElem?
  intro j
  rw [List.getElem?_set, List.length_map, List.getElem?_map]
  by_cases here : i = j
  · subst here
    cases found : dims[i]? with
    | none => simp [List.getElem?_eq_none_iff.mp found]
    | some dim =>
      obtain rfl : dim = none := by simpa [found] using unknown
      simp [(List.getElem?_eq_some_iff.mp found).1, Payload.ofExtent]
  · simp [here]

theorem getElem?_extents_ne_real (dims : List Extent) (i : Nat) (x : Binary64) :
    (dims.map .ofExtent)[i]? ≠ some (Payload.real x) := by
  rw [List.getElem?_map]
  intro found
  obtain ⟨dim, -, real⟩ := Option.map_eq_some_iff.mp found
  cases dim <;> cases real

theorem share_real {x : Binary64} {n : Int} {part : Payload}
    (shared : (Payload.real x).share n = .ok part) : ∃ y, part = .real y := by
  obtain ⟨y, -, divided⟩ := Check.bind_eq_ok.mp shared
  exact ⟨_, (Except.ok.inj divided).symm⟩

theorem times_real {x : Binary64} {item product : Payload}
    (multiplied : item.times (.real x) = .ok product) : item = .null ∨ ∃ y, product = .real y := by
  cases item with
  | null => exact Or.inl rfl
  | _ =>
    obtain ⟨y, -, multiplied⟩ := Check.bind_eq_ok.mp multiplied
    exact Or.inr ⟨_, (Except.ok.inj multiplied).symm⟩

theorem exchange_real {t : Tensor} {x : Binary64} (splitInside : split < dims.length)
    (concatInside : concat < dims.length) :
    exchange t dims split concat (.real x) = (do
      let divided ← partExtent dims[split]?.join (.real x)
      let items := (dims.map Payload.ofExtent).set split divided
      let multiplied ← (items.getD concat .null).times (.real x)
      Tensor.read t.element (.list (items.set concat multiplied))) := by
  have splitSet (item : Payload) : setItem (dims.map Payload.ofExtent) split item =
      .ok ((dims.map Payload.ofExtent).set split item) :=
    setItem_of_inside (Int.natCast_nonneg split) (by simpa using splitInside)
  have concatAt (items : List Payload) (inside : concat < items.length) :
      itemAt items concat = .ok (items.getD concat .null) := by
    rw [itemAt_natCast_eq_ok, List.getD_eq_getElem?_getD, List.getElem?_eq_getElem inside,
      Option.getD_some]
  have concatSet (items : List Payload) (inside : concat < items.length) (item : Payload) :
      setItem items concat item = .ok (items.set concat item) :=
    setItem_of_inside (Int.natCast_nonneg concat) (Int.ofNat_lt.mpr inside)
  simp only [exchange, itemAt_join splitInside, splitSet, Check.ok_bind]
  refine congrArg _ (funext fun divided => ?_)
  have inside : concat < ((dims.map Payload.ofExtent).set split divided).length := by
    simpa using concatInside
  rw [concatAt _ inside, Check.ok_bind]
  refine congrArg _ (funext fun multiplied => ?_)
  rw [concatSet _ inside, Check.ok_bind]

/-- A known extent would turn into a real number, which is no extent, so both dimensions are unknown
    and nothing changes. -/
theorem exchange_real_eq_ok {t r : Tensor} {x : Binary64} (splitInside : split < dims.length)
    (concatInside : concat < dims.length) :
    exchange t dims split concat (.real x) = .ok r ↔
      t.element.isElement = true ∧ dims[split]?.join = none ∧ dims[concat]?.join = none ∧
        (∀ dim ∈ dims, dim.WellFormed) ∧ r = ⟨t.element, .ranked dims⟩ := by
  rw [exchange_real splitInside concatInside]
  simp only [Check.bind_eq_ok, Tensor.read_list_eq_ok]
  constructor
  · rintro ⟨divided, hdivided, multiplied, hmultiplied, isElement, dims', listed, formed, rfl⟩
    have plain := getElem?_extents_ne_real dims'
    rw [← listed] at plain
    have joined : ((dims.map .ofExtent).set split divided).getD concat .null = .null := by
      rcases times_real hmultiplied with unknown | ⟨y, rfl⟩
      · exact unknown
      · exact absurd (by simp [concatInside]) (plain concat y)
    have splitUnknown : dims[split]?.join = none := by
      cases known : dims[split]?.join with
      | none => rfl
      | some n =>
        rw [known] at hdivided
        obtain ⟨y, rfl⟩ := share_real hdivided
        by_cases same : concat = split
        · subst same
          simp [splitInside] at joined
        · exact absurd (by simp [same, splitInside]) (plain split y)
    rw [splitUnknown] at hdivided
    obtain rfl := Except.ok.inj hdivided
    rw [set_null_of_unknown splitUnknown] at joined hmultiplied listed
    have concatUnknown := getD_extents_eq_null.mp joined
    rw [joined] at hmultiplied
    obtain rfl := Except.ok.inj hmultiplied
    rw [set_null_of_unknown concatUnknown] at listed
    obtain rfl := List.map_injective_iff.mpr ofExtent_injective listed
    exact ⟨isElement, splitUnknown, concatUnknown, formed, rfl⟩
  · rintro ⟨isElement, splitUnknown, concatUnknown, formed, rfl⟩
    refine ⟨.null, by rw [splitUnknown]; rfl, .null, ?_, isElement, dims, ?_, formed, rfl⟩
    · rw [set_null_of_unknown splitUnknown, getD_extents_eq_null.mpr concatUnknown]
      rfl
    · rw [set_null_of_unknown splitUnknown, set_null_of_unknown concatUnknown]

/-! ### The exchange of a tensor -/

/-- The extents before and after an exchange. An integer counts the parts of a dimension that it
    divides. A real number counts the parts of unknown extents only. -/
inductive Exchanged (count : Payload) (split concat : Nat) (dims : List Extent) :
    List Extent → Prop
  | counted {n : Int} (value : count.needInt = .ok n) (positive : 0 < n)
      (multiple : ∀ m, dims[split]?.join = some m → n ∣ m) :
      Exchanged count split concat dims (movedDims dims split concat n)
  | unknown {x : Binary64} (real : count = .real x) (splitUnknown : dims[split]?.join = none)
      (concatUnknown : dims[concat]?.join = none) : Exchanged count split concat dims dims

namespace Exchanged

variable {count : Payload}

theorem back (exchanged : Exchanged count split concat dims dims') :
    Exchanged count concat split dims' dims := by
  cases exchanged with
  | @counted n value positive multiple =>
    have joined : ∀ m, (movedDims dims split concat n)[concat]?.join = some m → n ∣ m := by
      intro m known
      rw [movedDims, List.getElem?_modify] at known
      obtain ⟨dim, -, known⟩ := Option.map_eq_some_iff.mp (Option.join_eq_some_iff.mp known)
      rw [if_pos rfl] at known
      obtain ⟨k, -, rfl⟩ := Option.map_eq_some_iff.mp known
      exact Int.dvd_mul_left k n
    have returned : Exchanged count concat split (movedDims dims split concat n)
        (movedDims (movedDims dims split concat n) concat split n) :=
      .counted value positive joined
    rwa [movedDims_back positive multiple] at returned
  | unknown real splitUnknown concatUnknown => exact .unknown real concatUnknown splitUnknown

theorem length_eq (exchanged : Exchanged count split concat dims dims') :
    dims'.length = dims.length := by
  cases exchanged with
  | counted => simp [movedDims]
  | unknown => rfl

theorem size?_eq (exchanged : Exchanged count split concat dims dims')
    (splitInside : split < dims.length) (concatInside : concat < dims.length) :
    Shape.size? (.ranked dims') = Shape.size? (.ranked dims) := by
  cases exchanged with
  | counted _ _ multiple => exact size?_movedDims multiple splitInside concatInside
  | unknown => rfl

theorem wellFormed (exchanged : Exchanged count split concat dims dims')
    (splitInside : split < dims.length) (concatInside : concat < dims.length)
    (formed : ∀ dim ∈ dims, dim.WellFormed) : ∀ dim ∈ dims', dim.WellFormed := by
  cases exchanged with
  | @counted n _ positive _ =>
    have met : Check.Meets (fun _ => False) (fun result => ∀ dim ∈ result, Extent.WellFormed dim)
        (exchangedDims dims split concat n) :=
      exchangedDims_meets formed (by omega) (by omega) positive
    rwa [exchangedDims_eq_ok splitInside concatInside positive] at met
  | unknown => exact formed

end Exchanged

namespace AllToAll

variable {op : AllToAll} {count : Payload}

theorem ensureMultiple_of_needInt {n : Int} (value : count.needInt = .ok n) (positive : 0 < n)
    {extent : Extent} :
    ensureMultiple extent count = .ok () ↔ ∀ m, extent = some m → n ∣ m := by
  cases extent with
  | none => simp [ensureMultiple]
  | some m =>
    have divides := Payload.divides_of_needInt value positive m
    simp only [ensureMultiple, divides, Check.ok_bind, Check.ensure_eq_ok, beq_iff_eq,
      Option.some.injEq, forall_eq']
    exact (Int.dvd_iff_emod_eq_zero ..).symm

theorem exchange_of_needInt {n : Int} (value : count.needInt = .ok n) (positive : 0 < n)
    (t : Tensor) (splitInside : split < dims.length) (concatInside : concat < dims.length) :
    exchange t dims split concat count =
      Tensor.form t.element (.ranked (movedDims dims split concat n)) := by
  have moved := exchangedDims_eq_ok splitInside concatInside positive
  cases count <;> simp_all [Payload.needInt, exchange]

/-- A positive number of parts is an integer or a real number, and either counts the parts. -/
theorem exchange_eq_ok (positive : count.isAtMost 0 = .ok false) {t r : Tensor}
    (splitInside : split < dims.length) (concatInside : concat < dims.length) :
    ensureMultiple dims[split]?.join count = .ok () ∧ exchange t dims split concat count = .ok r ↔
      t.element.isElement = true ∧ ∃ dims', Exchanged count split concat dims dims' ∧
        (∀ dim ∈ dims', dim.WellFormed) ∧ r = ⟨t.element, .ranked dims'⟩ := by
  have number : count.Numeric := by
    cases count <;> simp_all [Payload.isAtMost, Payload.test, Payload.Numeric, Payload.Integral,
      Payload.needInt]
  rcases number with ⟨n, value⟩ | ⟨x, rfl⟩
  · have sign : count.isAtMost 0 = .ok (decide (n ≤ 0)) := Payload.test_of_needInt value _ _
    rw [sign, Except.ok.injEq, decide_eq_false_iff_not, Int.not_le] at positive
    rw [ensureMultiple_of_needInt value positive,
      exchange_of_needInt value positive t splitInside concatInside, Tensor.form_eq_ok,
      Shape.wellFormed_ranked]
    constructor
    · rintro ⟨multiple, isElement, formed, rfl⟩
      exact ⟨isElement, _, .counted value positive multiple, formed, rfl⟩
    · rintro ⟨isElement, _, exchanged, formed, rfl⟩
      cases exchanged with
      | counted value' _ multiple =>
        obtain rfl := Except.ok.inj (value.symm.trans value')
        exact ⟨multiple, isElement, formed, rfl⟩
      | unknown real =>
        rw [real] at value
        cases value
  · rw [exchange_real_eq_ok splitInside concatInside]
    constructor
    · rintro ⟨-, isElement, splitUnknown, concatUnknown, formed, rfl⟩
      exact ⟨isElement, dims, .unknown rfl splitUnknown concatUnknown, formed, rfl⟩
    · rintro ⟨isElement, _, exchanged, formed, rfl⟩
      cases exchanged with
      | counted value => cases value
      | unknown _ splitUnknown concatUnknown =>
        refine ⟨?_, isElement, splitUnknown, concatUnknown, formed, rfl⟩
        rw [splitUnknown]
        rfl

theorem ensureDimension_of_needInt {dimension : Payload} {k : Int}
    (value : dimension.needInt = .ok k) {rank : Nat} {name : String} :
    ensureDimension rank name dimension = .ok () ↔ 0 ≤ k ∧ k < rank := by
  have within : dimension.isWithin 0 rank = .ok (0 ≤ k && k < rank) :=
    Payload.test_of_needInt value _ _
  simp only [ensureDimension, within, Check.ok_bind, Check.ensure_eq_ok, Bool.and_eq_true,
    decide_eq_true_eq]

theorem ensureDimension_eq_ok {dimension : Payload} {rank : Nat} {name : String} {k : Int} :
    ensureDimension rank name dimension = .ok () ∧ dimension.needInt = .ok k ↔
      ∃ i : Nat, k = i ∧ dimension.needInt = .ok (i : Int) ∧ i < rank := by
  constructor
  · rintro ⟨ensured, value⟩
    obtain ⟨nonneg, inside⟩ := (ensureDimension_of_needInt value).mp ensured
    obtain ⟨i, rfl⟩ := Int.eq_ofNat_of_zero_le nonneg
    exact ⟨i, rfl, value, Int.ofNat_lt.mp inside⟩
  · rintro ⟨i, rfl, value, inside⟩
    refine ⟨(ensureDimension_of_needInt value).mpr ?_, value⟩
    exact ⟨Int.natCast_nonneg i, Int.ofNat_lt.mpr inside⟩

/-- What an exchange makes of a tensor. Both dimensions are positions of the tensor; without a rank
    there is nothing to exchange. -/
inductive Moves (op : AllToAll) : Tensor → Tensor → Prop
  | unranked (element : Ty) : Moves op (.unranked element) (.unranked element)
  | ranked {element : Ty} {dims dims' : List Extent} {split concat : Nat}
      (isElement : element.isElement = true)
      (splitAt : op.splitDimension.needInt = .ok (split : Int)) (splitInside : split < dims.length)
      (concatAt : op.concatDimension.needInt = .ok (concat : Int))
      (concatInside : concat < dims.length)
      (exchanged : Exchanged op.splitCount split concat dims dims')
      (formed : ∀ dim ∈ dims', dim.WellFormed) :
      Moves op ⟨element, .ranked dims⟩ ⟨element, .ranked dims'⟩

/-- An exchange is accepted with a positive number of parts, groups of as many processes, and
    dimensions along which the operand can be exchanged. -/
theorem infer_eq_ok {types : List Ty} :
    op.infer = .ok types ↔
      ∃ t r : Tensor, op.operand = t.ty ∧ op.splitCount.isAtMost 0 = .ok false ∧
        (∃ rows, ReplicaGroups.verify op.groups true op.splitCount = .ok rows) ∧ op.Moves t r ∧
        types = [r.ty] := by
  simp only [infer, Check.bind_eq_ok, Ty.needTensor_eq_ok, Check.ensure_eq_ok]
  constructor
  · rintro ⟨⟨element, shape⟩, operand, tooSmall, sign, -, positive, rows, verified, exchanged⟩
    obtain rfl : tooSmall = false := by simpa using positive
    cases shape with
    | unranked =>
      exact ⟨_, _, operand, sign, ⟨rows, verified⟩, .unranked element,
        (Except.ok.inj exchanged).symm⟩
    | ranked dims =>
      simp only [Check.bind_eq_ok] at exchanged
      obtain ⟨_, splitEnsured, _, concatEnsured, _, splitValue, _, splitRead, _, multiple, _,
        concatValue, r, success, ⟨⟩⟩ := exchanged
      obtain ⟨split, rfl, splitAt, splitInside⟩ :=
        ensureDimension_eq_ok.mp ⟨splitEnsured, splitValue⟩
      obtain ⟨concat, rfl, concatAt, concatInside⟩ :=
        ensureDimension_eq_ok.mp ⟨concatEnsured, concatValue⟩
      obtain rfl := Except.ok.inj ((itemAt_join splitInside).symm.trans splitRead)
      obtain ⟨isElement, dims', exchanged, formed, rfl⟩ :=
        (exchange_eq_ok sign splitInside concatInside).mp ⟨multiple, success⟩
      exact ⟨_, _, operand, sign, ⟨rows, verified⟩,
        .ranked isElement splitAt splitInside concatAt concatInside exchanged formed, rfl⟩
  · rintro ⟨t, r, operand, sign, ⟨rows, verified⟩, moves, rfl⟩
    refine ⟨t, operand, false, sign, (), rfl, rows, verified, ?_⟩
    cases moves with
    | unranked => rfl
    | @ranked element dims _ split concat isElement splitAt splitInside concatAt concatInside
        exchanged formed =>
      obtain ⟨multiple, success⟩ :=
        (@exchange_eq_ok _ _ _ _ sign ⟨element, .ranked dims⟩ _ splitInside concatInside).mpr
          ⟨isElement, _, exchanged, formed, rfl⟩
      simp only [Check.bind_eq_ok]
      refine ⟨(), ?_, (), ?_, split, splitAt, _, itemAt_join splitInside, (), multiple, concat,
        concatAt, _, success, rfl⟩
      · exact (ensureDimension_eq_ok.mpr ⟨split, rfl, splitAt, splitInside⟩).1
      · exact (ensureDimension_eq_ok.mpr ⟨concat, rfl, concatAt, concatInside⟩).1

/-- The exchange back: of another tensor, with the two dimensions swapped. -/
def back (op : AllToAll) (operand : Ty) : AllToAll :=
  { op with
    operand := operand
    splitDimension := op.concatDimension
    concatDimension := op.splitDimension }

theorem Moves.back {t r : Tensor} (moves : op.Moves t r) (operand : Ty) :
    (op.back operand).Moves r t := by
  cases moves with
  | unranked element => exact .unranked element
  | ranked isElement splitAt splitInside concatAt concatInside exchanged formed =>
    have length := exchanged.length_eq
    exact .ranked isElement concatAt (length ▸ concatInside) splitAt (length ▸ splitInside)
      exchanged.back
      (exchanged.back.wellFormed (length ▸ concatInside) (length ▸ splitInside) formed)

theorem Moves.size?_eq {t r : Tensor} (moves : op.Moves t r) : r.shape.size? = t.shape.size? := by
  cases moves with
  | unranked => rfl
  | ranked _ _ splitInside _ concatInside exchanged _ =>
    exact exchanged.size?_eq splitInside concatInside

/-- An exchange is undone by the exchange with the dimensions swapped. Whatever the operand, the
    number of parts and the groups are, the result of an accepted exchange is accepted for the
    exchange back, which gives the operand. A static operand has as many elements as the result. -/
theorem infer_back {types : List Ty} (accepted : op.infer = .ok types) :
    ∃ t r : Tensor, op.operand = t.ty ∧ types = [r.ty] ∧ (op.back r.ty).infer = .ok [t.ty] ∧
      (t.shape.isStatic = true → ∃ n, t.shape.size? = some n ∧ r.shape.size? = some n) := by
  obtain ⟨t, r, operand, positive, verified, moves, rfl⟩ := infer_eq_ok.mp accepted
  refine ⟨t, r, operand, rfl, ?_, ?_⟩
  · exact infer_eq_ok.mpr ⟨r, t, rfl, positive, verified, moves.back r.ty, rfl⟩
  · intro static
    obtain ⟨n, size⟩ := Shape.exists_size_of_isStatic static
    exact ⟨n, size, moves.size?_eq.trans size⟩

/-- Eight rows are split into four parts, which are joined along the columns. -/
theorem infer_back_quarters :
    let op : AllToAll :=
      { operand := .tensor (.float .f32) (.ranked [some 8, some 3])
        splitDimension := .int 0, concatDimension := .int 1, splitCount := .int 4
        groups := .list [.ofInts [0, 1, 2, 3]] }
    let result : Shape := .ranked [some 2, some 12]
    op.infer = .ok [.tensor (.float .f32) result] ∧
      (op.back (.tensor (.float .f32) result)).infer = .ok [op.operand] ∧
      result.size? = some 24 := by
  intro op result
  have accepted : op.infer = .ok [.tensor (.float .f32) result] := rfl
  obtain ⟨t, r, operand, types, returned, size⟩ := infer_back accepted
  obtain rfl : t = ⟨.float .f32, .ranked [some 8, some 3]⟩ := Tensor.ty_injective operand.symm
  obtain rfl : r = ⟨.float .f32, result⟩ := Tensor.ty_injective (List.singleton_inj.mp types).symm
  obtain ⟨n, whole, same⟩ := size rfl
  obtain rfl : 24 = n := Option.some.inj whole
  exact ⟨accepted, returned, same⟩

end AllToAll

end Op

end TensorTyping
