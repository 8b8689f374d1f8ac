import TensorTyping.Payload.Basic

/-!
# Reading a payload as a rectangular array

Nested lists of equal lengths form a `Grid`; everything that is not a list is a leaf. A payload
whose nesting is uneven or too deep has no grid. An array inside a list adds its own dimensions and
entries. The format of the entries follows from the leaves: `formatOf` joins the formats of the
leaves from the left, and a join is the narrowest format that holds the values of both.
-/

namespace TensorTyping

namespace EntryFormat

/-- The integer needs the unsigned 64-bit format. -/
def needsUnsigned (n : Int) : Bool := signedLimit ≤ n && n < unsignedLimit

/-- The narrowest format that holds a leaf. An array has its own. -/
def ofLeaf : Payload → EntryFormat
  | .bool _ => .bool
  | .int n =>
      if fitsWord n then .signed 64
      else if needsUnsigned n then .unsigned 64
      else .object
  | .real _ => .float 64
  | .text value => .text (max 1 value.length)
  | .array grid => grid.format
  | _ => .object

/-- The greatest length that a value of the format has when it is stored as a text. -/
def textLength : EntryFormat → Nat
  | .bool => 5
  | .signed 8 => 4
  | .signed 16 => 6
  | .signed 32 => 11
  | .signed _ => 21
  | .unsigned 8 => 3
  | .unsigned 16 => 5
  | .unsigned 32 => 10
  | .unsigned _ => 20
  | .float _ => 32
  | .complex _ => 64
  | .text length => length
  | _ => 0

/-- The bits of the narrowest real format for the values of a number format, or for the parts of
    complex ones. -/
def realBits : EntryFormat → Nat
  | .signed 8 | .unsigned 8 => 16
  | .signed 16 | .unsigned 16 => 32
  | .float bits => bits
  | .complex bits => bits / 2
  | _ => 64

/-- The format for integers of `m` bits with a sign and of `n` bits without. Those of 64 bits meet
    in the reals. -/
def joinSigns (m n : Nat) : EntryFormat :=
  if n < m then .signed m else if n < 64 then .signed (2 * n) else .float 64

/-- The format holds plain integers. -/
def isWhole : EntryFormat → Bool
  | .bool | .signed _ | .unsigned _ => true
  | _ => false

/-- The narrowest format that holds the values of both. Integers are counted as durations beside
    durations; values that have nothing in common are kept as they are. -/
def join (a b : EntryFormat) : EntryFormat :=
  match a, b with
  | .object, _ | _, .object => .object
  | .named .., _ | _, .named .. => if a = b then a else .object
  | .duration _, _ => if a = b ∨ b.isWhole then a else .object
  | _, .duration _ => if a.isWhole then b else .object
  | .text _, _ | _, .text _ => .text (max a.textLength b.textLength)
  | .bool, other | other, .bool => other
  | .signed m, .signed n => .signed (max m n)
  | .unsigned m, .unsigned n => .unsigned (max m n)
  | .signed m, .unsigned n | .unsigned n, .signed m => joinSigns m n
  | .complex _, _ | _, .complex _ => .complex (2 * max a.realBits b.realBits)
  | _, _ => .float (max a.realBits b.realBits)

/-- The format of the leaves of an array, joined from the left: once a text has been met, the
    formats of integers no longer meet each other. Without leaves it is `float64`. -/
def formatOf : List Payload → EntryFormat
  | [] => .float 64
  | leaf :: rest => rest.foldl (fun format item => format.join (ofLeaf item)) (ofLeaf leaf)

end EntryFormat

namespace Payload

/-- The greatest number of dimensions of an array. -/
def maxRank : Nat := 64

/-- The extents of the nesting, unless it is uneven. -/
def nesting? : Payload → Option (List Nat)
  | .list [] => some [0]
  | .list items => (commonNesting? items).map (items.length :: ·)
  | .array grid => some grid.dims
  | _ => some []
where
  /-- The extents that all items share. -/
  commonNesting? : List Payload → Option (List Nat)
  | [] => none
  | [item] => item.nesting?
  | item :: next :: rest =>
      match item.nesting?, commonNesting? (next :: rest) with
      | some dims, some others => if dims = others then some dims else none
      | _, _ => none

/-- The extents of the array that the nesting forms, unless it is uneven or too deep. -/
def dims? (payload : Payload) : Option (List Nat) :=
  payload.nesting?.filter fun dims => dims.length ≤ maxRank

/-- The leaves of the nesting from left to right. -/
def leaves : Payload → List Payload
  | .list items => leavesOf items
  | other => [other]
where
  /-- The leaves of all items. -/
  leavesOf : List Payload → List Payload
  | [] => []
  | item :: rest => item.leaves ++ leavesOf rest

/-- The scalars that a leaf contributes: itself, or the entries of an array. -/
def ownScalars : Payload → List Payload
  | .array grid => grid.entries.map .int
  | leaf => [leaf]

/-- The scalars of the nesting from left to right. -/
def scalars (payload : Payload) : List Payload := payload.leaves.flatMap ownScalars

theorem gridSize_cons (n : Nat) (dims : List Nat) : gridSize (n :: dims) = n * gridSize dims := by
  have start : ∀ m, dims.foldl (· * ·) m = m * gridSize dims := by
    induction dims with
    | nil => simp [gridSize]
    | cons k rest ih =>
      intro m
      rw [gridSize, List.foldl_cons, List.foldl_cons, ih, ih, Nat.one_mul, Nat.mul_assoc]
  rw [gridSize, List.foldl_cons, Nat.one_mul, start]

/-- An even nesting has as many scalars as its extents say. The statement about lists of items is
    the one that the recursion of `nesting?` goes through. -/
theorem length_scalars (payload : Payload) :
    ∀ dims, payload.nesting? = some dims → payload.scalars.length = gridSize dims := by
  refine @Payload.rec
    (fun payload => ∀ dims, payload.nesting? = some dims →
      payload.scalars.length = gridSize dims)
    (fun items => ∀ dims, nesting?.commonNesting? items = some dims →
      ((leaves.leavesOf items).flatMap ownScalars).length = items.length * gridSize dims)
    ?null ?bool ?int ?real ?text ?list ?array ?nil ?cons payload
  case list =>
    intro items ih dims nested
    cases items with
    | nil =>
      obtain rfl : [0] = dims := Option.some.inj nested
      rfl
    | cons item rest =>
      obtain ⟨inner, common, rfl⟩ := Option.map_eq_some_iff.mp nested
      rw [gridSize_cons]
      exact ih inner common
  case array =>
    intro grid dims nested
    obtain rfl : grid.dims = dims := Option.some.inj nested
    simp [scalars, leaves, ownScalars, grid.filled]
  case nil =>
    intro dims common
    simp [nesting?.commonNesting?] at common
  case cons =>
    intro item rest first others dims common
    have split : leaves.leavesOf (item :: rest) = item.leaves ++ leaves.leavesOf rest := rfl
    have own : (item.leaves.flatMap ownScalars).length = item.scalars.length := rfl
    rw [split, List.flatMap_append, List.length_append, own, List.length_cons, Nat.succ_mul]
    cases rest with
    | nil =>
      rw [first dims common]
      simp [leaves.leavesOf]
    | cons next more =>
      rw [nesting?.commonNesting?] at common
      cases own : item.nesting? with
      | none => simp [own] at common
      | some inner =>
        cases shared : nesting?.commonNesting? (next :: more) with
        | none => simp [own, shared] at common
        | some inner' =>
          simp only [own, shared, Option.ite_none_right_eq_some, Option.some.injEq] at common
          obtain ⟨rfl, rfl⟩ := common
          rw [first _ own, others _ shared, Nat.add_comm]
  all_goals
    intros
    simp_all [nesting?, scalars, leaves, ownScalars, gridSize]

/-- The entry that a scalar contributes to an integral array. -/
def entry : Payload → Int
  | .int n => n
  | .bool true => 1
  | _ => 0

theorem nesting?_of_dims? {payload : Payload} {dims : List Nat}
    (found : payload.dims? = some dims) :
    payload.nesting? = some dims :=
  (Option.filter_eq_some_iff.mp found).1

/-- The payload as a rectangular array, unless its nesting is uneven or too deep. -/
def grid? : Payload → Option Grid
  | .array grid => some grid
  | payload =>
      match found : payload.dims? with
      | none => none
      | some dims => some
          { dims := dims
            format := EntryFormat.formatOf payload.leaves
            entries := payload.scalars.map entry
            filled := by
              rw [List.length_map]
              exact length_scalars payload dims (nesting?_of_dims? found) }

end Payload

end TensorTyping
