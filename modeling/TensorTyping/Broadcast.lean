import TensorTyping.Fault
import TensorTyping.Shape

/-!
# Implicit broadcasting

Two shapes are aligned at their last dimensions, the shorter one being filled up with extents of
one. An extent of one stretches to the other side's extent, and an unknown extent takes over a known
one.
-/

namespace TensorTyping

namespace Broadcast

/-- The extent that both extents stretch to. -/
def extent? (a b : Extent) : Option Extent :=
  if a = some 1 then some b
  else if b = some 1 then some a
  else if a = none then some b
  else if b = none ∨ a = b then some a
  else none

/-- The extents filled up with ones in front, to the given rank. -/
def align (rank : Nat) (dims : List Extent) : List Extent :=
  List.replicate (rank - dims.length) (some 1) ++ dims

/-- The extents that both lists stretch to. -/
def dims (a b : List Extent) : Check (List Extent) :=
  let rank := max a.length b.length
  let left := align rank a
  let right := align rank b
  collect (fun ((x, y), i) =>
    match extent? x y with
    | some dim => .ok dim
    | none =>
        reject .incompatibleShape
          (s!"operands could not be broadcast together with shapes {dimsText left} " ++
            s!"{dimsText right} (dimension {i}: {x.text} vs {y.text})"))
    (left.zip right).zipIdx

/-- The shape that both shapes stretch to; unranked when one of them is. -/
def shapes : Shape → Shape → Check Shape
  | .ranked a, .ranked b => do return .ranked (← dims a b)
  | _, _ => .ok .unranked

end Broadcast

end TensorTyping
