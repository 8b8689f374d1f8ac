/-!
# Extents and shapes

An extent is the size of one dimension, or unknown. A shape is a list of extents, or unranked when
even their number is unknown. Two extents are compatible when they are equal or one is unknown, and
refining one by the other keeps what is known of either. Shapes are compatible and refined
pointwise, an unranked shape giving way to any other.
-/

namespace TensorTyping

/-- The size of a dimension; `none` when it is unknown. -/
abbrev Extent : Type := Option Int

namespace Extent

/-- The extent inside a shape: a number, or `?`. -/
def mark : Extent → String
  | some n => toString n
  | none => "?"

/-- The extent named in a sentence. -/
def text : Extent → String
  | some n => toString n
  | none => "None"

/-- The extents are equal, or one is unknown. -/
def compatible : Extent → Extent → Bool
  | some a, some b => a == b
  | _, _ => true

/-- The first extent if it is known, and the second otherwise. -/
def refine : Extent → Extent → Extent
  | some a, _ => some a
  | none, b => b

end Extent

/-- A list of extents in brackets. -/
def dimsText (dims : List Extent) : String :=
  "[" ++ ", ".intercalate (dims.map Extent.mark) ++ "]"

/-- A list of integers in brackets. -/
def intsText (values : List Int) : String :=
  "[" ++ ", ".intercalate (values.map toString) ++ "]"

/-- The shape of a tensor. -/
inductive Shape where
  | unranked
  | ranked (dims : List Extent)
  deriving DecidableEq, Repr, Inhabited

namespace Shape

/-- The shape without dimensions. -/
def scalar : Shape := .ranked []

/-- The shape of the given rank whose extents are all unknown. -/
def unknown (rank : Nat) : Shape := .ranked (List.replicate rank none)

/-- The shape as it is named in a sentence. -/
def text : Shape → String
  | .unranked => "*"
  | .ranked dims => dimsText dims

/-- The extents, when the rank is known. -/
def dims? : Shape → Option (List Extent)
  | .unranked => none
  | .ranked dims => some dims

/-- The number of dimensions, when it is known. -/
def rank? : Shape → Option Nat
  | .unranked => none
  | .ranked dims => some dims.length

/-- The rank is known. -/
def hasRank : Shape → Bool
  | .unranked => false
  | .ranked _ => true

/-- The rank as it is named in a sentence. -/
def rankText (s : Shape) : String :=
  match s.rank? with
  | some n => toString n
  | none => "None"

/-- The rank and all extents are known. -/
def isStatic : Shape → Bool
  | .unranked => false
  | .ranked dims => dims.all Option.isSome

/-- The number of elements of a static shape. -/
def size? : Shape → Option Int
  | .unranked => none
  | .ranked dims => dims.foldl (fun count dim => count.bind fun c => dim.map (c * ·)) (some 1)

/-- Lists of extents of one length whose extents are pairwise compatible. -/
def compatibleDims : List Extent → List Extent → Bool
  | [], [] => true
  | a :: as, b :: bs => Extent.compatible a b && compatibleDims as bs
  | _, _ => false

/-- One shape is unranked, or both have one rank and compatible extents. -/
def compatible : Shape → Shape → Bool
  | .ranked a, .ranked b => compatibleDims a b
  | _, _ => true

/-- Refines the extents pairwise, as far as both lists go. -/
def refineDims (a b : List Extent) : List Extent := List.zipWith Extent.refine a b

/-- The extents at positions other than the given ones. -/
def without (dims : List Extent) (positions : List Int) : List Extent :=
  (dims.zipIdx.filter fun dim => !positions.contains (Int.ofNat dim.2)).map Prod.fst

/-- What is known of either shape, the first one being asked first. -/
def refine : Shape → Shape → Shape
  | .ranked a, .ranked b => .ranked (refineDims a b)
  | .ranked a, .unranked => .ranked a
  | .unranked, b => b

end Shape

end TensorTyping
