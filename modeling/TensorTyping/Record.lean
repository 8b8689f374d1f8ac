import TensorTyping.Payload.Convert

/-!
# Records

A record gives payloads by name. The structures of the library that are given by name are read from
records: a name that the structure does not have is refused first, and a name that is not given
takes its default.
-/

namespace TensorTyping

/-- Payloads by name. -/
abbrev Record : Type := List (String × Payload)

namespace Record

/-- The record has no other names than the given ones. -/
def ensureKnown (record : Record) (names : List String) : Check Unit :=
  if record.all fun field => names.contains field.1 then .ok () else misuse .wrongSort

/-- The field counts as true. -/
def flag (record : Record) (name : String) : Bool :=
  match record.lookup name with
  | some payload => payload.isTruthy
  | none => false

/-- The items of a field as integers; a field that is not given has none. -/
def ints (record : Record) (name : String) : Check (List Int) :=
  match record.lookup name with
  | some payload => payload.toInts
  | none => .ok []

/-- The items of a field; a field that is not given or counts as false has none. -/
def items (record : Record) (name : String) : Check (List Payload) :=
  if record.flag name then needItems ((record.lookup name).bind Payload.items?) else .ok []

/-- The integer in a field. -/
def int (record : Record) (name : String) (default : Int) : Check Int :=
  match record.lookup name with
  | some payload => payload.needInt
  | none => .ok default

/-- A field as it is given. -/
def payload (record : Record) (name : String) (default : Payload) : Payload :=
  (record.lookup name).getD default

/-- What a field displays. -/
def text (record : Record) (name default : String) : String :=
  match record.lookup name with
  | some payload => payload.display
  | none => default

end Record

/-- The location that a record describes. The end of the range is not shown, and a name counts only
    if it is not empty. -/
def Location.ofRecord (record : Record) : Check Location := do
  record.ensureKnown ["file", "line", "column", "op_name", "end_line", "end_column"]
  return {
    file := record.text "file" "<unknown>"
    line := record.text "line" "0"
    column := record.text "column" "0"
    operation := if record.flag "op_name" then record.text "op_name" "" else "" }

end TensorTyping
