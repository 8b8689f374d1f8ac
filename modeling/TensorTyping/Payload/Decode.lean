import TensorTyping.Payload.Order

/-!
# Decoding attributes

The decoders turn payloads into vectors and tables of integers or booleans. Each one checks the
nesting first, then the kind of the entries, then the length, so a payload with several defects is
reported for the first of these.
-/

namespace TensorTyping

namespace Payload

/-- The payload as a rectangular array; uneven nesting is malformed. -/
def rectangle (payload : Payload) (name : String) : Check Grid :=
  match payload.grid? with
  | some grid => .ok grid
  | none =>
      reject .malformedAttribute s!"{name} must be a rectangular array, got {payload.quoted}"

/-- The array has the given number of dimensions. -/
def ensureRank (grid : Grid) (name : String) (rank : Nat) : Check Unit :=
  ensure (grid.rank = rank) .malformedAttribute
    s!"{name} has rank {grid.rank} instead of required rank {rank}."

/-- The entries are integers or booleans. An array without entries passes whatever its format. -/
def ensureIntegers (grid : Grid) (name : String) : Check Unit :=
  ensure (grid.size = 0 ∨ grid.format.isIntegral) .malformedAttribute
    s!"{name} must hold integers, got dtype {grid.format.name}"

/-- The attribute has the expected number of elements. -/
def ensureCount (name : String) (expected : Payload) (length : Nat) : Check Unit :=
  ensure (expected.isInt length) .attributeArityMismatch
    s!"{name} must have {expected.display} elements, but got {length}."

/-- The attribute has the expected number of elements, when one is expected. -/
def ensureArity (name : String) (arity : Payload) (length : Nat) : Check Unit :=
  match arity with
  | .null => .ok ()
  | expected => ensureCount name expected length

/-- The entries are listed as numbers. Durations that are not cannot be read as integers. -/
def needNumbers (grid : Grid) : Check Unit :=
  if grid.listsNumbers then .ok () else misuse .wrongSort

/-- The item, as many times as the payload says, which has to be the length of a list. -/
def repeated {α : Type} (count : Payload) (item : α) : Check (List α) := do
  let count ← count.needInt
  ensureListLength count
  return List.replicate count.toNat item

/-- Decodes a vector of integers. A missing payload is the empty vector. -/
def decodeInts (payload : Payload) (name : String) (arity : Payload := .null) :
    Check (List Int) := do
  match payload with
  | .null => return []
  | _ =>
      let grid ← payload.rectangle name
      ensureRank grid name 1
      ensureIntegers grid name
      ensureArity name arity grid.entries.length
      needNumbers grid
      return grid.entries

/-- Decodes a vector of `count` integers. A missing payload is the default, repeated. -/
def decodeIntsOr (payload : Payload) (name : String) (count : Nat) (default : Int) :
    Check (List Int) :=
  match payload with
  | .null => .ok (List.replicate count default)
  | _ => payload.decodeInts name (.int count)

/-- Decodes a vector of integers. A missing payload is the default, whatever it is, repeated `arity`
    times when both are given, and empty otherwise. -/
def decodeFilled (payload : Payload) (name : String) (arity default : Payload) :
    Check (List Payload) := do
  match payload, arity, default with
  | .null, .null, _ | .null, _, .null => return []
  | .null, _, _ => repeated arity default
  | _, _, _ => return (← payload.decodeInts name arity).map .int

/-- Decodes a vector of booleans. An absent payload is `false` repeated `arity` times. -/
def decodeBools (payload : Payload) (name : String) (arity : Payload := .null) :
    Check (List Bool) := do
  if payload.isAbsent then
    if arity.isTruthy then repeated arity false else return []
  else
    let grid ← payload.rectangle name
    ensureRank grid name 1
    ensure (grid.format = .bool) .malformedAttribute
      s!"{name} must hold booleans, got dtype {grid.format.name}"
    ensureArity name arity grid.entries.length
    return grid.entries.map (· != 0)

/-- The rows of a two-dimensional array. -/
def rowsOf (grid : Grid) : List (List Int) :=
  match grid.dims with
  | [rows, columns] => chunks columns rows grid.entries
  | _ => []

/-- The extents of an array in braces. -/
def bracedDims (dims : List Nat) : String :=
  "\x7b" ++ ", ".intercalate (dims.map toString) ++ "\x7d"

/-- Reads a table of `arity` rows, each the low and the high padding of one dimension. An absent
    payload is zero padding. -/
def readPadding (payload : Payload) (arity : Payload) (name : String := "padding") :
    Check (List (List Int)) := do
  if payload.isAbsent then
    return List.replicate (← arity.needInt).toNat [0, 0]
  else
    let grid ← payload.rectangle name
    ensure (grid.rank = 2 ∧ grid.dims.getLast? = some 2) .malformedAttribute
      s!"expects the shape of {name}-attribute to be \x7bN, 2\x7d, but got {bracedDims grid.dims}."
    ensureIntegers grid name
    ensureCount name arity (rowsOf grid).length
    needNumbers grid
    return rowsOf grid

/-- Decodes a table of padding for a number of dimensions that need not be the length of a list. -/
def decodePadding (payload : Payload) (arity : Payload) (name : String := "padding") :
    Check (List (List Int)) := do
  if payload.isAbsent then repeated arity [0, 0] else payload.readPadding arity name

/-- Decodes a table of integers whose rows all have `columns` entries, when that is given. An absent
    payload is the empty table. -/
def decodeTable (payload : Payload) (name : String) (columns : Payload := .null) :
    Check (List (List Int)) := do
  if payload.isAbsent then
    return []
  else
    let grid ← payload.rectangle name
    ensureRank grid name 2
    ensureIntegers grid name
    match columns with
    | .null => pure ()
    | expected =>
        let width ← itemAt grid.dims 1
        ensure (expected.isInt width) .attributeArityMismatch
          s!"{name} must have rows of size {expected.display}, but got rows of size {width}."
    needNumbers grid
    return rowsOf grid

/-- Decodes one row of integers. A row of another depth, an uneven one and one of durations that are
    not listed as numbers have no reading. -/
def decodeRow (name : String) (row : Payload) : Check (Option (List Int)) := do
  match row.grid? with
  | none => return none
  | some grid =>
      if grid.rank ≠ 1 then
        return none
      else
        ensureIntegers grid name
        return if grid.listsNumbers then some grid.entries else none

/-- Decodes rows one after another until one has no reading. -/
def decodeRowList (name : String) : List Payload → Check (Option (List (List Int)))
  | [] => return some []
  | row :: rest => do
      match ← decodeRow name row with
      | none => return none
      | some values =>
          match ← decodeRowList name rest with
          | none => return none
          | some others => return some (values :: others)

/-- Decodes a table whose rows may differ in length. A payload that is not two levels deep has no
    reading. -/
def decodeRows (payload : Payload) (name : String := "replica groups") :
    Check (Option (List (List Int))) := do
  match payload with
  | .array grid =>
      if grid.rank ≠ 2 then
        return none
      else
        ensureIntegers grid name
        needNumbers grid
        return some (rowsOf grid)
  | .list items => decodeRowList name items
  | .text value => return if value.isEmpty then some [] else none
  | _ => return none

end Payload

end TensorTyping
