import TensorTyping.Fault

/-!
# Lengths and items of lists

The length of a list is a number of the machine: it fits into a signed 64-bit word. The items are
numbered from zero; a negative number counts from the end, the last item being `-1`. No other number
stands for an item, and asking for one is a misuse.
-/

namespace TensorTyping

/-- The signed 64-bit words end before this number. -/
def signedLimit : Int := 9223372036854775808

/-- The unsigned 64-bit words end before this number. -/
def unsignedLimit : Int := 18446744073709551616

/-- The number fits into a signed 64-bit word. -/
def fitsWord (n : Int) : Bool := -signedLimit ≤ n && n < signedLimit

/-- The number can be the length of a list, where a negative number stands for no items. -/
def ensureListLength (count : Int) : Check Unit :=
  if fitsWord count then .ok () else misuse .overflow

/-- The place that a number stands for in a list of the given length, the first place being zero. -/
def place? (length : Nat) (index : Int) : Option Nat :=
  let place := if index < 0 then index + length else index
  if 0 ≤ place ∧ place < length then some place.toNat else none

/-- The item that the number stands for. -/
def itemAt {α : Type} (items : List α) (index : Int) : Check α :=
  match (place? items.length index).bind (items[·]?) with
  | some item => .ok item
  | none => misuse .outOfRange

/-- The list with another item in the place that the number stands for. -/
def setItem {α : Type} (items : List α) (index : Int) (item : α) : Check (List α) :=
  match place? items.length index with
  | some place => .ok (items.set place item)
  | none => misuse .outOfRange

/-- The list with other items in some places, put there one after another. -/
def setItems {α : Type} (items : List α) : List (Int × α) → Check (List α)
  | [] => .ok items
  | (index, item) :: rest => do setItems (← setItem items index item) rest

end TensorTyping
