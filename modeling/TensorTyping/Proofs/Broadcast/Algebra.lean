import TensorTyping.Proofs.Broadcast.Concrete
import TensorTyping.Proofs.Matching

/-!
# Laws of the broadcast

At one position the broadcast takes the later of two extents, where ones come first, unknown extents
next and all others last, and fails when both are of the last sort and differ. So it is commutative,
associative and idempotent, and an extent of one is neutral. Shapes of different ranks go on with
ones before their first dimensions, and the laws carry over to shapes position by position. In
whatever order and grouping shapes are broadcast, they end in the same shape or are rejected.
-/

namespace TensorTyping

namespace Broadcast

/-! ### At one position -/

section Position

variable {x y z dim : Extent}

/-- The second extent is the same as the first or comes later, where ones come first, unknown
    extents next and all others last. -/
def Precedes (x y : Extent) : Prop := x = some 1 ∨ (x = none ∧ y ≠ some 1) ∨ x = y

theorem Precedes.trans (first : Precedes x y) (second : Precedes y z) : Precedes x z := by
  unfold Precedes at *
  grind

theorem Precedes.antisymm (first : Precedes x y) (second : Precedes y x) : x = y := by
  unfold Precedes at *
  grind

/-- The broadcast of two extents is the later one. -/
theorem extent?_eq_some_iff :
    extent? x y = some dim ↔ Precedes x dim ∧ Precedes y dim ∧ (dim = x ∨ dim = y) := by
  unfold extent? Precedes
  split_ifs <;> grind

/-- Two extents that come before a third one have a broadcast, which comes before it as well. -/
theorem exists_extent?_of_precedes (hx : Precedes x dim) (hy : Precedes y dim) :
    ∃ met, extent? x y = some met ∧ Precedes met dim := by
  unfold extent?
  unfold Precedes at *
  split_ifs <;> grind

/-- The broadcast of three extents is the last of them. -/
theorem extent?_bind_eq_some_iff :
    (extent? x y).bind (extent? · z) = some dim ↔
      Precedes x dim ∧ Precedes y dim ∧ Precedes z dim ∧ (dim = x ∨ dim = y ∨ dim = z) := by
  rw [Option.bind_eq_some_iff]
  constructor
  · rintro ⟨met, first, second⟩
    obtain ⟨hx, hy, side⟩ := extent?_eq_some_iff.mp first
    obtain ⟨hmet, hz, last⟩ := extent?_eq_some_iff.mp second
    refine ⟨hx.trans hmet, hy.trans hmet, hz, ?_⟩
    rcases last with rfl | rfl
    · exact side.imp_right .inl
    · exact .inr (.inr rfl)
  · rintro ⟨hx, hy, hz, last⟩
    obtain ⟨met, found, hmet⟩ := exists_extent?_of_precedes hx hy
    obtain ⟨hx, hy, -⟩ := extent?_eq_some_iff.mp found
    refine ⟨met, found, extent?_eq_some_iff.mpr ⟨hmet, hz, ?_⟩⟩
    rcases last with rfl | rfl | rfl
    · exact .inl (hx.antisymm hmet)
    · exact .inl (hy.antisymm hmet)
    · exact .inr rfl

theorem extent?_one_left (x : Extent) : extent? (some 1) x = some x := rfl

theorem extent?_self (x : Extent) : extent? x x = some x := by
  simp [extent?_eq_some_iff, Precedes]

theorem extent?_comm (x y : Extent) : extent? x y = extent? y x := by
  ext dim
  rw [extent?_eq_some_iff, extent?_eq_some_iff]
  tauto

/-- Three extents in a circle may be broadcast beginning with any of them. -/
theorem extent?_rotate (x y z : Extent) :
    (extent? x y).bind (extent? · z) = (extent? y z).bind (extent? · x) := by
  ext dim
  rw [extent?_bind_eq_some_iff, extent?_bind_eq_some_iff]
  tauto

end Position

/-! ### At all positions -/

variable {a b c result : List Extent}

theorem dims_nil_left (a : List Extent) : dims [] a = .ok a := by
  refine dims_eq_ok_iff_fromEnd.mpr ⟨by simp, fun k => ?_⟩
  rw [fromEnd_of_length_le (Nat.zero_le k), extent?_one_left]

theorem dims_self (a : List Extent) : dims a a = .ok a :=
  dims_eq_ok_iff_fromEnd.mpr ⟨(Nat.max_self _).symm, fun _ => extent?_self _⟩

theorem dims_eq_ok_comm : dims a b = .ok result ↔ dims b a = .ok result := by
  simp only [dims_eq_ok_iff_fromEnd, Nat.max_comm a.length, extent?_comm (fromEnd (some 1) a _)]

/-- Three lists of extents are broadcast one after the other position by position. -/
theorem exists_dims_dims_iff :
    (∃ ab, dims a b = .ok ab ∧ dims ab c = .ok result) ↔
      result.length = max (max a.length b.length) c.length ∧
        ∀ k, (extent? (fromEnd (some 1) a k) (fromEnd (some 1) b k)).bind
          (extent? · (fromEnd (some 1) c k)) = some (fromEnd (some 1) result k) := by
  constructor
  · rintro ⟨ab, first, second⟩
    obtain ⟨length, each⟩ := dims_eq_ok_iff_fromEnd.mp first
    obtain ⟨length', each'⟩ := dims_eq_ok_iff_fromEnd.mp second
    refine ⟨by rw [length', length], fun k => ?_⟩
    rw [each k, Option.bind_some, each' k]
  · rintro ⟨length, each⟩
    choose dim found rest using fun k => Option.bind_eq_some_iff.mp (each k)
    obtain ⟨success, entry⟩ := dims_eq_ok_ofEnd found
    refine ⟨_, success, dims_eq_ok_iff_fromEnd.mpr ⟨by rw [length, length_ofEnd], fun k => ?_⟩⟩
    rw [entry k, rest k]

theorem exists_dims_assoc :
    (∃ ab, dims a b = .ok ab ∧ dims ab c = .ok result) ↔
      ∃ bc, dims b c = .ok bc ∧ dims a bc = .ok result := by
  have lengths : max (max a.length b.length) c.length = max (max b.length c.length) a.length := by
    omega
  calc (∃ ab, dims a b = .ok ab ∧ dims ab c = .ok result)
    _ ↔ ∃ bc, dims b c = .ok bc ∧ dims bc a = .ok result := by
      simp only [exists_dims_dims_iff, lengths, extent?_rotate (fromEnd (some 1) a _)]
    _ ↔ ∃ bc, dims b c = .ok bc ∧ dims a bc = .ok result :=
      exists_congr fun _ => and_congr_right fun _ => dims_eq_ok_comm

/-! ### Shapes and their failures -/

/-- The check yields a shape whose rank is known, or is rejected for the extents. -/
def Settled (x : Check Shape) : Prop :=
  (∃ dims, x = .ok (.ranked dims)) ∨ ∃ message, x = reject .incompatibleShape message

theorem settled_shapes (a b : List Extent) : Settled (shapes (.ranked a) (.ranked b)) := by
  rcases shapes_ranked_eq_ok_or_reject a b with ⟨dims, -, success⟩ | rejected
  · exact .inl ⟨dims, success⟩
  · exact .inr rejected

theorem Settled.bind {x : Check Shape} {f : Shape → Check Shape} (first : Settled x)
    (next : ∀ dims, Settled (f (.ranked dims))) : Settled (x >>= f) := by
  rcases first with ⟨dims, rfl⟩ | ⟨message, rfl⟩
  · exact next dims
  · exact .inr ⟨message, rfl⟩

/-- Settled checks that yield the same shapes end alike. -/
theorem Settled.matches {x y : Check Shape} (hx : Settled x) (hy : Settled y)
    (same : ∀ s, x = .ok s ↔ y = .ok s) : Check.Matches Eq x y := by
  rcases hx with ⟨dims, rfl⟩ | ⟨message, rfl⟩
  · rw [(same _).mp rfl]
    exact rfl
  · rcases hy with ⟨dims, rfl⟩ | ⟨message', rfl⟩
    · cases (same _).mpr rfl
    · exact rfl

theorem shapes_comm (a b : List Extent) :
    Check.Matches Eq (shapes (.ranked a) (.ranked b)) (shapes (.ranked b) (.ranked a)) := by
  refine (settled_shapes a b).matches (settled_shapes b a) fun s => ?_
  simp only [shapes_ranked_eq_ok, dims_eq_ok_comm (a := a)]

theorem shapes_bind_eq_ok {f : Shape → Check Shape} {s : Shape} :
    (shapes (.ranked a) (.ranked b) >>= f) = .ok s ↔
      ∃ ab, dims a b = .ok ab ∧ f (.ranked ab) = .ok s := by
  simp [Check.bind_eq_ok, shapes_ranked_eq_ok]

theorem shapes_assoc (a b c : List Extent) :
    Check.Matches Eq (shapes (.ranked a) (.ranked b) >>= fun s => shapes s (.ranked c))
      (shapes (.ranked b) (.ranked c) >>= fun s => shapes (.ranked a) s) := by
  have left : Settled (shapes (.ranked a) (.ranked b) >>= fun s => shapes s (.ranked c)) :=
    (settled_shapes a b).bind fun ab => settled_shapes ab c
  have right : Settled (shapes (.ranked b) (.ranked c) >>= fun s => shapes (.ranked a) s) :=
    (settled_shapes b c).bind fun bc => settled_shapes a bc
  refine left.matches right fun s => ?_
  cases s with
  | unranked => simp [shapes_bind_eq_ok, shapes_ranked_eq_ok]
  | ranked result =>
    simp only [shapes_bind_eq_ok, shapes_ranked_eq_ok, Shape.ranked.injEq, exists_eq_right]
    exact exists_dims_assoc

/-- On shapes whose rank is known, the broadcast is a partial operation with the laws of a
    semilattice: the shape without dimensions is neutral, a shape is its own broadcast, and neither
    the order of the sides nor the grouping of three shapes changes the result or the failure. -/
theorem shapes_isPartialSemilattice (a b c : List Extent) :
    (shapes .scalar (.ranked a) = .ok (.ranked a) ∧ shapes (.ranked a) .scalar = .ok (.ranked a)) ∧
    shapes (.ranked a) (.ranked a) = .ok (.ranked a) ∧
    Check.Matches Eq (shapes (.ranked a) (.ranked b)) (shapes (.ranked b) (.ranked a)) ∧
    Check.Matches Eq (shapes (.ranked a) (.ranked b) >>= fun s => shapes s (.ranked c))
      (shapes (.ranked b) (.ranked c) >>= fun s => shapes (.ranked a) s) := by
  refine ⟨⟨?_, ?_⟩, ?_, shapes_comm a b, shapes_assoc a b c⟩
  · exact shapes_ranked_eq_ok.mpr ⟨a, dims_nil_left a, rfl⟩
  · exact shapes_ranked_eq_ok.mpr ⟨a, dims_eq_ok_comm.mp (dims_nil_left a), rfl⟩
  · exact shapes_ranked_eq_ok.mpr ⟨a, dims_self a, rfl⟩

end Broadcast

end TensorTyping
