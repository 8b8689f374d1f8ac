import TensorTyping.Number.Numeral
import TensorTyping.Payload.Grid

/-!
# Converting payloads

A payload can be asked for an integer, for a real number or for its items, and can be stored as an
array of a given format. Each conversion says why a payload has no such reading.
-/

namespace TensorTyping

namespace Payload

/-- The payload as an integer; a real number is cut toward zero and a text is read as a numeral. -/
def toInt : Payload → Check Int
  | .int n => .ok n
  | .bool value => .ok (if value then 1 else 0)
  | .real x =>
      if x.isFinite then .ok x.truncate
      else if x.isUndefined then misuse .unusableValue
      else misuse .overflow
  | .text value =>
      match Numeral.int? value with
      | some n => .ok n
      | none => misuse .unusableValue
  | _ => misuse .wrongSort

/-- The payload, which has to be an integer already; a truth value counts as one. -/
def needInt : Payload → Check Int
  | .int n => .ok n
  | .bool value => .ok (if value then 1 else 0)
  | _ => misuse .wrongSort

/-- The payload as a real number; a text is read as a numeral. -/
def toReal : Payload → Check Binary64
  | .int n =>
      let x := Binary64.ofInt n
      if x.isFinite then .ok x else misuse .overflow
  | .bool value => .ok (Binary64.ofInt (if value then 1 else 0))
  | .real x => .ok x
  | .text value =>
      match Numeral.real? value with
      | some x => .ok x
      | none => misuse .unusableValue
  | _ => misuse .wrongSort

/-- The items of a payload that can be gone through; a text consists of its characters. -/
def items? : Payload → Option (List Payload)
  | .list items => some items
  | .text value => some (value.toList.map fun c => .text (String.singleton c))
  | _ => none

/-- The items of a payload, each as an integer. -/
def toInts (payload : Payload) : Check (List Int) :=
  match payload.items? with
  | some items => collect toInt items
  | none => misuse .wrongSort

/-! ### Arrays of a given format -/

/-- The least integer of a format and the one after its greatest. -/
def formatRange : EntryFormat → Int × Int
  | .signed bits => (-(Nat.pow 2 (bits - 1) : Int), Nat.pow 2 (bits - 1))
  | .unsigned bits => (0, Nat.pow 2 bits)
  | _ => (0, 2)

/-- The number of an integral format that agrees with the integer modulo the size of the format. -/
def wrapInto : EntryFormat → Int → Int
  | .signed bits, n => Int.bmod n (Nat.pow 2 bits)
  | .unsigned bits, n => n % (Nat.pow 2 bits : Int)
  | _, n => n

/-- The entry for an integer that was read from a real number or a text. It passes through a 64-bit
    word, which is unsigned for large integers of the wide unsigned formats, and wraps around in a
    narrow format. -/
def storeRead (format : EntryFormat) (n : Int) : Check Int :=
  let bound : Int := match format with
    | .unsigned 32 | .unsigned 64 => unsignedLimit
    | _ => signedLimit
  if -signedLimit ≤ n ∧ n < bound then .ok (wrapInto format n) else misuse .overflow

/-- The entry that a scalar becomes in an array of the format. Only integral formats keep it. -/
def storeLeaf (format : EntryFormat) (leaf : Payload) : Check Int :=
  match format, leaf with
  | .bool, _ => .ok (if leaf.isTruthy then 1 else 0)
  | .signed _, _ | .unsigned _, _ =>
      match leaf, leaf.toInt with
      | _, .error fault => .error fault
      | .real _, .ok n | .text _, .ok n => storeRead format n
      | _, .ok n =>
          let (least, bound) := formatRange format
          if least ≤ n ∧ n < bound then .ok n else misuse .overflow
  | _, .null => .ok 0
  | _, _ => leaf.toReal.map fun _ => 0

/-- The array with other extents, which have to make up its size. One extent may be negative and
    stands for the number that is left for it. The extents other than zero are those of an array
    that fits into a 63-bit number of bytes. -/
def reshape (grid : Grid) (extents : List Int) : Check Grid :=
  let known := (extents.filter (0 ≤ ·)).foldl (fun product n => product * n.toNat) 1
  let dims := extents.map fun n => if n < 0 then grid.size / known else n.toNat
  let bytes := (dims.filter (· ≠ 0)).foldl (· * ·) grid.format.byteCount
  let open? := extents.countP (· < 0)
  if h : gridSize dims = grid.size ∧ (open? = 0 ∨ open? = 1 ∧ known ≠ 0) ∧
      (bytes : Int) < signedLimit ∧ dims.length ≤ maxRank then
    .ok { grid with dims, filled := grid.filled.trans h.1.symm }
  else misuse .unusableValue

/-- The array with other entries of another format, as many as before. -/
def refill (grid : Grid) (format : EntryFormat) (entries : List Int) : Check Grid :=
  if h : entries.length = gridSize grid.dims then .ok { grid with format, entries, filled := h }
  else misuse .unusableValue

/-- The payload stored as an array, in the format of its leaves unless another one is given, and
    with other extents if they are given. The nesting has to be even. -/
def store (payload : Payload) (format : Option EntryFormat) (extents : Option (List Int)) :
    Check Grid := do
  match payload.grid? with
  | none => misuse .unusableValue
  | some grid =>
      let stored ← match format with
        | none => pure grid
        | some format => do refill grid format (← collect (storeLeaf format) payload.scalars)
      match extents with
      | none => return stored
      | some extents => reshape stored extents

end Payload

end TensorTyping
