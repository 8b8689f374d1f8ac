import TensorTyping.Items
import TensorTyping.Shape

/-!
# Lists of dimension numbers

Attributes name dimensions by their numbers. A list of such numbers may have to be sorted, free of
repetitions, within the rank of a tensor, or a permutation.
-/

namespace TensorTyping

namespace Dimensions

/-- Every number is at most the one after it. -/
def isSorted : List Int → Bool
  | a :: b :: rest => a ≤ b && isSorted (b :: rest)
  | _ => true

/-- The number is a position below the bound; without a bound it only may not be negative. -/
def isPosition (bound : Option Nat) (d : Int) : Bool :=
  0 ≤ d && (match bound with
    | some n => d < n
    | none => true)

/-- The least number that both lists hold. -/
def leastCommon? (a b : List Int) : Option Int :=
  match a.filter b.contains with
  | [] => none
  | first :: rest => some (rest.foldl min first)

/-- The list holds every number from zero up to its length, hence each of them once. -/
def isPermutation (dims : List Int) : Bool :=
  (List.range dims.length).all fun i => dims.contains (Int.ofNat i)

/-- The numbers from zero up to the given one. -/
def upTo (count : Nat) : List Int := (List.range count).map Int.ofNat

/-- A rank as it is named in a sentence. -/
def rankText : Option Nat → String
  | some n => toString n
  | none => "None"

/-- The numbers are distinct positions of a tensor of the given rank. -/
def ensurePositions (dims : List Int) (rank : Option Nat) (name : String) : Check Unit := do
  ensure dims.Nodup .invalidDimensionMapping
    s!"{name} should not have duplicates: {intsText dims}"
  checkAll (fun d =>
    ensure (isPosition rank d) .invalidDimensionMapping
      s!"{name} contains dimension {d} which is out of range [0, {rankText rank})") dims

/-- As many unknown extents as the number says, which has to be the length of a list. -/
def unknownDims (count : Int) : Check (List Extent) := do
  ensureListLength count
  return List.replicate count.toNat none

/-- The shape of the given rank whose extents are all unknown; unranked when the rank is unknown. -/
def unknownShape : Extent → Check Shape
  | none => .ok .unranked
  | some n => do return .ranked (← unknownDims n)

end Dimensions

end TensorTyping
