import TensorTyping.Proofs.Broadcast
import TensorTyping.Proofs.Ty.Refinement

/-!
# Broadcasts of shapes that are partly known

A shape with unknown extents stands for all shapes that it may turn out to be. The broadcast of two
such shapes is the best that can be said in advance: it stands for exactly the broadcasts of the
shapes that the two stand for, and fails only when there are none.

All of this is settled position by position, counted from the last dimension. A list of extents is
taken to go on with ones before its first position, so that shapes of different ranks need no
filling up.
-/

namespace TensorTyping

/-! ### Lists read from their end -/

section FromEnd

variable {α β : Type} {as : List α} {bs : List β} {a : α} {b : β}

/-- The item that stands `k` places before the last one, and `before` when there is none. -/
def fromEnd (before : α) (items : List α) (k : Nat) : α := items.reverse.getD k before

/-- The list of the given length with the given items, counted from the end. -/
def ofEnd (length : Nat) (item : Nat → α) : List α := ((List.range length).map item).reverse

theorem fromEnd_of_length_le {k : Nat} (beyond : as.length ≤ k) : fromEnd a as k = a := by
  simp [fromEnd, beyond]

theorem fromEnd_map (f : α → β) (a : α) (as : List α) (k : Nat) :
    fromEnd (f a) (as.map f) k = f (fromEnd a as k) := by
  simp only [fromEnd, ← List.map_reverse, List.getD_eq_getElem?_getD, List.getElem?_map,
    Option.getD_map]

theorem fromEnd_zip (lengths : as.length = bs.length) (k : Nat) :
    fromEnd (a, b) (as.zip bs) k = (fromEnd a as k, fromEnd b bs k) := by
  simp only [fromEnd, List.zip, List.reverse_zipWith lengths, List.getD_eq_getElem?_getD,
    List.getElem?_zipWith]
  by_cases inside : k < as.length
  · simp [inside, lengths ▸ inside]
  · simp [not_lt.mp inside, lengths ▸ not_lt.mp inside]

@[simp] theorem length_ofEnd (length : Nat) (item : Nat → α) :
    (ofEnd length item).length = length := by
  simp [ofEnd]

theorem fromEnd_ofEnd {length : Nat} {item : Nat → α} (beyond : ∀ k, length ≤ k → item k = a)
    (k : Nat) : fromEnd a (ofEnd length item) k = item k := by
  by_cases inside : k < length
  · simp [fromEnd, ofEnd, inside]
  · rw [fromEnd_of_length_le (by simpa using inside), beyond k (not_lt.mp inside)]

/-- Lists are related item by item when they are so counted from the end, past their first items
    included. -/
theorem forall₂_iff_fromEnd {related : α → β → Prop} (before : related a b) :
    List.Forall₂ related as bs ↔
      as.length = bs.length ∧ ∀ k, related (fromEnd a as k) (fromEnd b bs k) := by
  rw [← List.forall₂_reverse_iff, List.forall₂_iff_get]
  simp only [List.length_reverse]
  refine and_congr_right fun lengths => ⟨fun each k => ?_, fun each k hk hk' => ?_⟩
  · by_cases inside : k < as.length
    · have inside' : k < bs.length := lengths ▸ inside
      simpa [fromEnd, inside, inside'] using each k (by simpa using inside) (by simpa using inside')
    · rw [fromEnd_of_length_le (not_lt.mp inside),
        fromEnd_of_length_le (lengths ▸ not_lt.mp inside)]
      exact before
  · simpa [fromEnd, hk, hk'] using each k

end FromEnd

namespace Extent

/-- The extent may turn out to be the number, which is not negative when the extent is unknown. -/
def Admits : Extent → Int → Prop
  | some m, n => n = m
  | none, n => 0 ≤ n

variable {dim : Extent} {m n : Int}

@[simp] theorem admits_some : Admits (some m) n ↔ n = m := Iff.rfl

@[simp] theorem admits_none : Admits none n ↔ 0 ≤ n := Iff.rfl

theorem eq_none_of_admits (admits : dim.Admits n) (differ : dim ≠ some n) : dim = none := by
  cases dim with
  | none => rfl
  | some m => exact absurd (congrArg some (admits_some.mp admits).symm) differ

theorem Admits.refines (admits : dim.Admits n) : Refines (some n) dim := by
  cases dim with
  | none => exact .unknown _
  | some m =>
    rw [admits_some.mp admits]
    exact .refl _

/-- Unknown extents may turn out to be any one number that is not negative. -/
theorem forall₂_admits_getD (dims : List Extent) (nonneg : 0 ≤ n) :
    List.Forall₂ Admits dims (dims.map (·.getD n)) := by
  refine List.forall₂_map_right_iff.mpr (List.forall₂_same.mpr fun dim _ => ?_)
  cases dim with
  | none => exact nonneg
  | some m => rfl

end Extent

/-- The shape with the given extents, all of which are known. -/
def Shape.known (values : List Int) : Shape := .ranked (values.map some)

namespace Broadcast

open Extent (Admits)

/-! ### Broadcasts of known shapes -/

/-- Known extents have a broadcast when they are equal or one of them is one. -/
@[mk_iff] inductive Meet : Int → Int → Int → Prop
  | same (n : Int) : Meet n n n
  | left (n : Int) : Meet 1 n n
  | right (n : Int) : Meet n 1 n

/-- Known shapes have a broadcast when their extents have, counted from the last dimension. Where
    one of them has no dimension left, its extent counts as one. -/
def MeetAll (a b c : List Int) : Prop :=
  c.length = max a.length b.length ∧ ∀ k, Meet (fromEnd 1 a k) (fromEnd 1 b k) (fromEnd 1 c k)

/-- The numbers are the broadcast of two known shapes that the given shapes may turn out to be. -/
def Yields (l r : List Extent) (c : List Int) : Prop :=
  ∃ a b, List.Forall₂ Admits l a ∧ List.Forall₂ Admits r b ∧ MeetAll a b c

/-! ### At one position -/

section Position

variable {x y dim : Extent} {p q n : Int}

theorem meet_one_left : Meet 1 q n ↔ n = q := by
  rw [meet_iff]
  omega

theorem meet_one_right : Meet p 1 n ↔ n = p := by
  rw [meet_iff]
  omega

/-- Extents have no broadcast when they are known and differ, and none of them is one. -/
theorem extent?_eq_none :
    extent? x y = none ↔ ∃ p q, x = some p ∧ y = some q ∧ p ≠ 1 ∧ q ≠ 1 ∧ p ≠ q := by
  unfold extent?
  cases x <;> cases y <;> grind

theorem extent?_ne_none_of_meet (hx : x.Admits p) (hy : y.Admits q) (meet : Meet p q n) :
    extent? x y ≠ none := by
  rw [Ne, extent?_eq_none]
  rintro ⟨p', q', rfl, rfl, left, right, differ⟩
  rw [Extent.admits_some] at hx hy
  rw [meet_iff] at meet
  omega

/-- What the two sides may meet in, their broadcast may turn out to be. -/
theorem admits_of_meet (found : extent? x y = some dim) (hx : x.Admits p) (hy : y.Admits q)
    (meet : Meet p q n) : dim.Admits n := by
  unfold extent? at found
  split_ifs at found with left right unknown agree <;> obtain rfl := Option.some.inj found
  · rw [left, Extent.admits_some] at hx
    rw [hx, meet_one_left] at meet
    rwa [meet]
  · rw [right, Extent.admits_some] at hy
    rw [hy, meet_one_right] at meet
    rwa [meet]
  · cases meet with
    | same => exact hy
    | left => exact hy
    | right =>
      rw [Extent.eq_none_of_admits hy right]
      rwa [unknown] at hx
  · cases meet with
    | same => exact hx
    | left => exact absurd (Extent.eq_none_of_admits hx left) unknown
    | right => exact hx

/-- What a broadcast may turn out to be, the two sides may meet in. -/
theorem exists_meet_of_admits (found : extent? x y = some dim) (admits : dim.Admits n) :
    ∃ p q, x.Admits p ∧ y.Admits q ∧ Meet p q n := by
  unfold extent? at found
  split_ifs at found with left right unknown agree <;> obtain rfl := Option.some.inj found
  · exact ⟨1, n, left ▸ rfl, admits, .left n⟩
  · exact ⟨n, 1, admits, right ▸ rfl, .right n⟩
  · -- An unknown extent may be one.
    exact ⟨1, n, unknown ▸ Int.one_nonneg, admits, .left n⟩
  · rcases agree with unknown | rfl
    · exact ⟨n, 1, admits, unknown ▸ Int.one_nonneg, .right n⟩
    · exact ⟨n, n, admits, admits, .same n⟩

theorem extent?_known : extent? (some p) (some q) = some (some n) ↔ Meet p q n := by
  unfold extent?
  rw [meet_iff]
  grind

end Position

/-! ### At all positions -/

variable {l r result : List Extent} {a b c : List Int}

theorem fromEnd_align {rank : Nat} (dims : List Extent) (k : Nat) :
    fromEnd (some 1) (align rank dims) k = fromEnd (some 1) dims k := by
  simp only [fromEnd, align, List.reverse_append, List.reverse_replicate,
    List.getD_eq_getElem?_getD]
  grind

/-- The broadcast of two lists of extents is taken position by position, from the last one on. -/
theorem dims_eq_ok_iff_fromEnd :
    dims l r = .ok result ↔ result.length = max l.length r.length ∧
      ∀ k, extent? (fromEnd (some 1) l k) (fromEnd (some 1) r k) =
        some (fromEnd (some 1) result k) := by
  have left := length_align (Nat.le_max_left l.length r.length)
  have right := length_align (Nat.le_max_right l.length r.length)
  have ones : extent? (some 1) (some 1) = some (some 1) := rfl
  rw [dims_eq_ok, @forall₂_iff_fromEnd _ _ _ _ (some 1, some 1) (some 1) _ ones, List.length_zip,
    left, right, Nat.min_self, eq_comm]
  simp only [fromEnd_zip (left.trans right.symm), fromEnd_align]

theorem forall₂_admits_iff :
    List.Forall₂ Admits l a ↔
      l.length = a.length ∧ ∀ k, Admits (fromEnd (some 1) l k) (fromEnd 1 a k) :=
  forall₂_iff_fromEnd rfl

/-- Numbers chosen position by position, past the first one included, make a list of numbers. -/
theorem forall₂_admits_ofEnd {number : Nat → Int}
    (admits : ∀ k, Admits (fromEnd (some 1) l k) (number k)) :
    List.Forall₂ Admits l (ofEnd l.length number) ∧
      ∀ k, fromEnd 1 (ofEnd l.length number) k = number k := by
  have beyond (k : Nat) (past : l.length ≤ k) : number k = 1 := by
    have here := admits k
    rwa [fromEnd_of_length_le past, Extent.admits_some] at here
  refine ⟨forall₂_admits_iff.mpr ⟨(length_ofEnd ..).symm, fun k => ?_⟩, fromEnd_ofEnd beyond⟩
  rw [fromEnd_ofEnd beyond]
  exact admits k

/-- The broadcast stands for exactly the broadcasts of the shapes that the two sides stand for. -/
theorem yields_iff_admits (found : dims l r = .ok result) :
    Yields l r c ↔ List.Forall₂ Admits result c := by
  obtain ⟨rank, each⟩ := dims_eq_ok_iff_fromEnd.mp found
  rw [forall₂_admits_iff]
  constructor
  · rintro ⟨a, b, hl, hr, length, meet⟩
    rw [forall₂_admits_iff] at hl hr
    refine ⟨?_, fun k => admits_of_meet (each k) (hl.2 k) (hr.2 k) (meet k)⟩
    rw [rank, length, hl.1, hr.1]
  · rintro ⟨length, admits⟩
    choose p q hp hq meet using fun k => exists_meet_of_admits (each k) (admits k)
    obtain ⟨hl, atL⟩ := forall₂_admits_ofEnd hp
    obtain ⟨hr, atR⟩ := forall₂_admits_ofEnd hq
    refine ⟨_, _, hl, hr, by rw [← length, rank, length_ofEnd, length_ofEnd], fun k => ?_⟩
    rw [atL, atR]
    exact meet k

/-- Extents that have a broadcast position by position, past the first one included, have one as
    lists. -/
theorem dims_eq_ok_ofEnd {dim : Nat → Extent}
    (found : ∀ k, extent? (fromEnd (some 1) l k) (fromEnd (some 1) r k) = some (dim k)) :
    dims l r = .ok (ofEnd (max l.length r.length) dim) ∧
      ∀ k, fromEnd (some 1) (ofEnd (max l.length r.length) dim) k = dim k := by
  have beyond (k : Nat) (past : max l.length r.length ≤ k) : dim k = some 1 := by
    have here := found k
    rw [fromEnd_of_length_le (Nat.max_le.mp past).1, fromEnd_of_length_le (Nat.max_le.mp past).2]
      at here
    exact (Option.some.inj here).symm
  refine ⟨dims_eq_ok_iff_fromEnd.mpr ⟨length_ofEnd .., fun k => ?_⟩, fromEnd_ofEnd beyond⟩
  rw [found k, fromEnd_ofEnd beyond]

/-- Shapes that may turn out to have a broadcast have one. -/
theorem exists_dims_of_yields (yields : Yields l r c) : ∃ result, dims l r = .ok result := by
  obtain ⟨a, b, hl, hr, -, meet⟩ := yields
  rw [forall₂_admits_iff] at hl hr
  choose dim found using fun k =>
    Option.ne_none_iff_exists'.mp (extent?_ne_none_of_meet (hl.2 k) (hr.2 k) (meet k))
  exact ⟨_, (dims_eq_ok_ofEnd found).1⟩

/-! ### Best abstraction -/

theorem shapes_ranked_eq_ok {s : Shape} :
    shapes (.ranked l) (.ranked r) = .ok s ↔
      ∃ dims, Broadcast.dims l r = .ok dims ∧ .ranked dims = s := by
  rw [shapes, Check.bind_eq_ok]
  simp

/-- On known shapes the broadcast is what their extents meet in. -/
theorem shapes_known_eq_ok :
    shapes (.known a) (.known b) = .ok (.known c) ↔ MeetAll a b c := by
  simp only [Shape.known, shapes_ranked_eq_ok, Shape.ranked.injEq, exists_eq_right,
    dims_eq_ok_iff_fromEnd, List.length_map, fromEnd_map, extent?_known, MeetAll]

/-- Shapes without a broadcast are rejected for their extents. -/
theorem shapes_ranked_eq_ok_or_reject (l r : List Extent) :
    (∃ dims, Broadcast.dims l r = .ok dims ∧ shapes (.ranked l) (.ranked r) = .ok (.ranked dims)) ∨
      ∃ message, shapes (.ranked l) (.ranked r) = reject .incompatibleShape message := by
  cases found : dims l r with
  | ok result => exact .inl ⟨result, rfl, shapes_ranked_eq_ok.mpr ⟨result, found, rfl⟩⟩
  | error fault =>
    have failed : shapes (.ranked l) (.ranked r) = .error fault := by
      rw [shapes, found]
      rfl
    obtain ⟨⟨⟨x, y⟩, i⟩, -, cause⟩ := Check.exists_of_collect_eq_error found
    dsimp only at cause
    split at cause
    · cases cause
    · cases cause
      exact .inr ⟨_, failed⟩

/-- A position of the broadcast is known when it can turn out in one way only. -/
theorem isSome_iff_of_admits {i : Nat} {dim : Extent} (found : result[i]? = some dim) :
    dim.isSome = true ↔
      ∀ out out', List.Forall₂ Admits result out → List.Forall₂ Admits result out' →
        out[i]? = out'[i]? := by
  have entry {out : List Int} (admits : List.Forall₂ Admits result out) :
      ∃ n, out[i]? = some n ∧ dim.Admits n := by
    have here := Check.forall₂_getElem? admits i
    rw [found] at here
    generalize out[i]? = n? at here
    cases here with
    | some admits => exact ⟨_, rfl, admits⟩
  constructor
  · intro known out out' admits admits'
    obtain ⟨m, rfl⟩ := Option.isSome_iff_exists.mp known
    obtain ⟨n, here, rfl⟩ := entry admits
    obtain ⟨n, here', rfl⟩ := entry admits'
    rw [here, here']
  · intro unique
    -- An unknown extent may turn out to be zero as well as one.
    have both := unique _ _ (Extent.forall₂_admits_getD result (Int.le_refl 0))
      (Extent.forall₂_admits_getD result Int.one_nonneg)
    cases dim with
    | none => simp [found] at both
    | some m => rfl

/-- The broadcast of partly known shapes is the best abstraction of the broadcast of known ones,
    where extents that are equal or one meet, counted from the last dimension. Shapes are rejected
    just when no two known shapes that they may turn out to be have a broadcast. Otherwise all such
    broadcasts refine the one of the partly known shapes, and where that leaves an extent unknown,
    they differ. -/
theorem shapes_isBestAbstraction (l r : List Extent) :
    (∀ a b out, List.Forall₂ Admits l a → List.Forall₂ Admits r b →
      (shapes (.known a) (.known b) = .ok (.known out) ↔ MeetAll a b out)) ∧
    ((∃ message, shapes (.ranked l) (.ranked r) = reject .incompatibleShape message) ↔
      ∀ out, ¬ Yields l r out) ∧
    ((∃ out, Yields l r out) → ∃ dims, shapes (.ranked l) (.ranked r) = .ok (.ranked dims) ∧
      (∀ out, Yields l r out → (Shape.known out).Refines (.ranked dims)) ∧
      ∀ (i : Nat) (dim : Extent), dims[i]? = some dim →
        (dim.isSome = true ↔
          ∀ out out', Yields l r out → Yields l r out' → out[i]? = out'[i]?)) := by
  refine ⟨fun _ _ _ _ _ => shapes_known_eq_ok, ⟨?_, ?_⟩, ?_⟩
  · rintro ⟨message, rejected⟩ out yields
    obtain ⟨dims, found⟩ := exists_dims_of_yields yields
    cases rejected.symm.trans (shapes_ranked_eq_ok.mpr ⟨dims, found, rfl⟩)
  · intro nothing
    rcases shapes_ranked_eq_ok_or_reject l r with ⟨dims, found, -⟩ | rejected
    · have yields := (yields_iff_admits found).mpr (Extent.forall₂_admits_getD dims (Int.le_refl 0))
      exact absurd yields (nothing _)
    · exact rejected
  · rintro ⟨out, yields⟩
    obtain ⟨dims, found⟩ := exists_dims_of_yields yields
    simp only [yields_iff_admits found]
    refine ⟨dims, shapes_ranked_eq_ok.mpr ⟨dims, found, rfl⟩, fun out admits => .ranked ?_,
      fun i dim => isSome_iff_of_admits⟩
    exact List.forall₂_map_left_iff.mpr (admits.flip.imp fun _ _ h => Admits.refines h)

/-- An unknown number of rows of seven numbers, against four single rows of unknown length. Vectors
    of two and of three numbers have no broadcast. -/
theorem shapes_isBestAbstraction_rows :
    shapes (.ranked [none, some 7]) (.ranked [some 4, some 1, none]) =
        .ok (.ranked [some 4, none, some 7]) ∧
      (∃ out out', Yields [none, some 7] [some 4, some 1, none] out ∧
        Yields [none, some 7] [some 4, some 1, none] out' ∧ out[1]? ≠ out'[1]?) ∧
      ∀ out, ¬ Yields [some 2] [some 3] out := by
  have success : shapes (.ranked [none, some 7]) (.ranked [some 4, some 1, none]) =
      .ok (.ranked [some 4, none, some 7]) := rfl
  have yields : Yields [none, some 7] [some 4, some 1, none] [4, 0, 7] :=
    ⟨[0, 7], [4, 1, 7], by simp, by simp, shapes_known_eq_ok.mp rfl⟩
  obtain ⟨-, -, best⟩ := shapes_isBestAbstraction [none, some 7] [some 4, some 1, none]
  obtain ⟨dims, found, -, known⟩ := best ⟨_, yields⟩
  obtain rfl : [some 4, none, some 7] = dims :=
    Shape.ranked.inj (Except.ok.inj (success.symm.trans found))
  have several := (known 1 none rfl).not.mp (by simp)
  simp only [not_forall, exists_prop] at several
  obtain ⟨out, out', given, given', differ⟩ := several
  obtain ⟨-, rejected, -⟩ := shapes_isBestAbstraction [some 2] [some 3]
  exact ⟨success, ⟨out, out', given, given', differ⟩, rejected.mp ⟨_, rfl⟩⟩

end Broadcast

end TensorTyping
