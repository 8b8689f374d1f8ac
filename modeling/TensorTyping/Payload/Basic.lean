import TensorTyping.Items
import TensorTyping.Number.Decimal
import TensorTyping.Text

/-!
# Raw attribute payloads

The attributes of an operation arrive undecoded: as scalars, texts, nested lists or numeric arrays.
A `Payload` is such a value. This module holds the type, the text a payload has inside messages, and
the plain conversions of a single payload.
-/

namespace TensorTyping

/-- The units that durations are counted in. -/
inductive TimeUnit where
  | year | month | week | day | hour | minute | second
  | milli | micro | nano | pico | femto | atto
  /-- No unit was given. -/
  | generic
  deriving DecidableEq, Repr, Inhabited

namespace TimeUnit

/-- The symbol of the unit, which is in brackets; a missing unit has none. -/
def symbol : TimeUnit → String
  | .year => "[Y]"
  | .month => "[M]"
  | .week => "[W]"
  | .day => "[D]"
  | .hour => "[h]"
  | .minute => "[m]"
  | .second => "[s]"
  | .milli => "[ms]"
  | .micro => "[us]"
  | .nano => "[ns]"
  | .pico => "[ps]"
  | .femto => "[fs]"
  | .atto => "[as]"
  | .generic => ""

/-- The number of microseconds in a unit, when it is fixed and whole. -/
def micros? : TimeUnit → Option Int
  | .week => some 604800000000
  | .day => some 86400000000
  | .hour => some 3600000000
  | .minute => some 60000000
  | .second => some 1000000
  | .milli => some 1000
  | .micro => some 1
  | _ => none

/-- So many units are listed as a plain number. The least word stands for no duration at all. Others
    become calendar values if these count their unit and go as far. -/
def isListedAsNumber (unit : TimeUnit) (n : Int) : Bool :=
  n != -signedLimit && (match unit.micros? with
    | none => true
    | some micros =>
        let days := n * micros / 86400000000
        days < -999999999 || 999999999 < days)

end TimeUnit

/-- What the entries of an array are: numbers of a fixed format, durations, texts of a greatest
    length, values that no common format holds, or values of a format that is only known by name. -/
inductive EntryFormat where
  | bool
  | signed (bits : Nat)
  | unsigned (bits : Nat)
  | float (bits : Nat)
  | complex (bits : Nat)
  | duration (unit : TimeUnit)
  | text (length : Nat)
  | object
  | named (name : String) (integral : Bool)
  deriving DecidableEq, Repr, Inhabited

namespace EntryFormat

/-- The name of the format in messages. -/
def name : EntryFormat → String
  | .bool => "bool"
  | .signed bits => s!"int{bits}"
  | .unsigned bits => s!"uint{bits}"
  | .float bits => s!"float{bits}"
  | .complex bits => s!"complex{bits}"
  | .duration unit => "timedelta64" ++ unit.symbol
  | .text length => s!"<U{length}"
  | .object => "object"
  | .named name _ => name

/-- The number formats an array payload may have. -/
def numeric : List EntryFormat :=
  [.bool, .signed 8, .signed 16, .signed 32, .signed 64,
    .unsigned 8, .unsigned 16, .unsigned 32, .unsigned 64,
    .float 16, .float 32, .float 64, .complex 64, .complex 128]

/-- The number format of the given name. -/
def ofName? (name : String) : Option EntryFormat :=
  numeric.find? fun format => format.name == name

/-- The number of bytes that an entry takes. -/
def byteCount : EntryFormat → Nat
  | .bool => 1
  | .signed bits | .unsigned bits | .float bits | .complex bits => bits / 8
  | .text length => 4 * length
  | .duration _ | .object | .named .. => 8

/-- Entries of this format count as integers, as booleans and durations do. -/
def isIntegral : EntryFormat → Bool
  | .bool | .signed _ | .unsigned _ | .duration _ => true
  | .named _ integral => integral
  | _ => false

/-- An entry of this format is listed as a number. -/
def isListedAsNumber : EntryFormat → Int → Bool
  | .duration unit, n => unit.isListedAsNumber n
  | _, _ => true

end EntryFormat

/-- The number of entries of an array with the given extents. -/
def gridSize (dims : List Nat) : Nat := dims.foldl (· * ·) 1

/-- A rectangular array. The entries stand in row-major order; they are meaningful when the format
    is integral, a boolean entry being 0 or 1. -/
structure Grid where
  dims : List Nat
  format : EntryFormat
  entries : List Int
  filled : entries.length = gridSize dims
  deriving DecidableEq, Repr

namespace Grid

/-- The number of dimensions. -/
def rank (g : Grid) : Nat := g.dims.length

/-- The number of entries. -/
def size (g : Grid) : Nat := gridSize g.dims

/-- All entries are listed as numbers. -/
def listsNumbers (g : Grid) : Bool := g.entries.all g.format.isListedAsNumber

end Grid

/-- A raw attribute value. -/
inductive Payload where
  | null
  | bool (value : Bool)
  | int (value : Int)
  | real (value : Binary64)
  | text (value : String)
  | list (items : List Payload)
  | array (grid : Grid)
  deriving Repr, Inhabited

/-- The entries cut into rows of the given length; `count` bounds the number of rows. -/
def chunks {α : Type} (width : Nat) : Nat → List α → List (List α)
  | 0, _ => []
  | count + 1, items => items.take width :: chunks width count (items.drop width)

namespace Payload

/-- The payload of a list of integers. -/
def ofInts (values : List Int) : Payload := .list (values.map .int)

/-- The payload of an optional integer. -/
def ofExtent : Option Int → Payload
  | some n => .int n
  | none => .null

/-- The payload of a list of optional integers. -/
def ofExtents (values : List (Option Int)) : Payload := .list (values.map ofExtent)

/-- No value was given. -/
def isNull : Payload → Bool
  | .null => true
  | _ => false

/-- Nothing was given: no value at all, or an empty list, array or text. -/
def isAbsent : Payload → Bool
  | .null => true
  | .list items => items.isEmpty
  | .text value => value.isEmpty
  | .array grid => grid.size == 0
  | _ => false

/-- The text of a payload inside a list, where texts stand between quotes. -/
def quoted : Payload → String
  | .null => "None"
  | .bool true => "True"
  | .bool false => "False"
  | .int value => toString value
  | .real value => value.text
  | .text value => Text.quoted value
  | .list items => "[" ++ ", ".intercalate (quotedItems items) ++ "]"
  | .array grid => "[" ++ ", ".intercalate (grid.entries.map toString) ++ "]"
where
  /-- The texts of the items of a list. -/
  quotedItems : List Payload → List String
  | [] => []
  | item :: rest => item.quoted :: quotedItems rest

/-- The text of a payload on its own, where a text stands bare. -/
def display : Payload → String
  | .text value => value
  | other => other.quoted

/-- The payload counts as true in a condition: it is neither absent nor zero. -/
def isTruthy : Payload → Bool
  | .bool value => value
  | .int value => value != 0
  | .real value => value.magnitude != 0
  | other => !other.isAbsent

end Payload

end TensorTyping
