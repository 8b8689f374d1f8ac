import TensorTyping.Payload.Decode
import TensorTyping.Payload.Order

/-!
# Replica groups

A collective operation runs in groups of processes, given as a grid of process ids with one row per
group. A valid grid partitions the ids from zero up to their number. When groups may differ in size
they are filled up with a padding id, which does not count.
-/

namespace TensorTyping

namespace ReplicaGroups

/-- The id that fills up a short group. -/
def paddingId : Int := -1

/-- The ids of a row that count. -/
def idsOf (sameSize : Bool) (row : List Int) : List Int :=
  if sameSize then row else row.filter (· != paddingId)

/-- The rule that all rows have one length, the given one: the first row that differs. -/
def sizeViolation? (first : Nat) (rows : List (List Int)) : Option String :=
  (rows.zipIdx.find? fun row => row.1.length != first).map fun row =>
    s!"replica groups should have the same size: group 0 has {first} ids " ++
      s!"but group {row.2} has {row.1.length}"

/-- The violation of that rule, when it is asked for. The length is that of the first row. -/
def unevenness? (sameSize : Bool) (rows : List (List Int)) : Check (Option String) :=
  if sameSize then do return sizeViolation? (← itemAt rows 0).length rows else .ok none

/-- The first id that is negative or was seen before. -/
def badId? (seen : List Int) : List Int → Option String
  | [] => none
  | id :: rest =>
      if id < 0 then some s!"Invalid replica id {id}"
      else if seen.contains id then some s!"replica id #{id} seen more than once"
      else badId? (id :: seen) rest

/-- The first id below the number of ids that does not occur. -/
def missingId? (ids : List Int) : Option String :=
  ((List.range ids.length).find? fun id => !ids.contains (Int.ofNat id)).map fun id =>
    s!"replica id #{id} not seen in replica groups"

/-- The rule that the ids are those from zero up to their number. -/
def idViolation? (ids : List Int) : Option String := badId? [] ids <|> missingId? ids

/-- The rule that every group has the expected number of ids, when one is expected. -/
def expectedViolation? (sameSize : Bool) (expected : Payload) (rows : List (List Int)) :
    Option String :=
  match expected with
  | .null => none
  | _ =>
      (rows.zipIdx.find? fun row => !expected.isInt (idsOf sameSize row.1).length).map fun row =>
        s!"group size of replica_groups must be {expected.display}, " ++
          s!"but group {row.2} has {(idsOf sameSize row.1).length}"

/-- All violations of the rules about a grid, in the order of the rules. -/
def violations (sameSize : Bool) (expected : Payload) (rows : List (List Int)) :
    Check (List String) := do
  let uneven ← unevenness? sameSize rows
  return uneven.toList ++ (idViolation? (rows.flatMap (idsOf sameSize))).toList ++
    (expectedViolation? sameSize expected rows).toList

/-- Decides whether the rows are valid groups. A grid without ids breaks every other rule and is
    reported alone; otherwise the first violation is the message and the others are notes. -/
def verifyRows (rows : List (List Int)) (sameSize : Bool) (expected : Payload := .null) :
    Check (List (List Int)) := do
  if (rows.flatMap (idsOf sameSize)).isEmpty then
    reject .invalidReplicaGroups "replica groups should not be empty"
  else
    match ← violations sameSize expected rows with
    | [] => return rows
    | first :: others => reject .invalidReplicaGroups first others

/-- Decodes a grid of replica groups and decides whether it is valid. -/
def verify (groups : Payload) (sameSize : Bool) (expected : Payload := .null) :
    Check (List (List Int)) := do
  match ← groups.decodeRows with
  | none => reject .invalidReplicaGroups "replica groups should be a rank 2 tensor"
  | some rows => verifyRows rows sameSize expected

/-- The number of ids in the largest group, padding apart. Without groups there is none. -/
def groupSize (rows : List (List Int)) : Check Nat :=
  match rows.map fun row => (idsOf false row).length with
  | [] => misuse .unusableValue
  | first :: rest => .ok (rest.foldl max first)

end ReplicaGroups

end TensorTyping
