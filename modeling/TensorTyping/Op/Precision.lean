import TensorTyping.Op.Elementwise
import TensorTyping.Ty.Form

/-!
# Precision configurations

Contractions may carry a precision for each of their operands.
-/

namespace TensorTyping

namespace Op

/-- The precisions. -/
def precisionValues : List String := ["DEFAULT", "HIGH", "HIGHEST"]

/-- There are at most two precisions. -/
def ensurePrecisionCount (count : Nat) : Check Unit :=
  ensure (count ≤ 2) .attributeArityMismatch
    s!"expects precision config to be empty or have <= 2 elements, got {count}"

/-- What is said about a value that is no precision. -/
def unknownPrecision (shown : String) : String :=
  s!"unknown precision {shown}, expected one of " ++ ", ".intercalate precisionValues

/-- The number of items of an array; an array without dimensions has none. -/
def needItemCount (grid : Grid) : Check Nat :=
  match grid.dims with
  | [] => misuse .wrongSort
  | count :: _ => .ok count

/-- The text of the first item of an array of integers or booleans, none of which is a precision.
    Items of several entries cannot be told apart from precisions. -/
def itemText (grid : Grid) : Check String :=
  let entry := grid.entries.headD 0
  let name := grid.format.name
  let isBool := grid.format = .bool
  match grid.rank with
  | 0 | 1 =>
      .ok (if isBool then (if entry = 0 then "np.False_" else "np.True_")
        else s!"np.{name}({entry})")
  | depth + 1 =>
      if (grid.dims.tail).any (1 < ·) then misuse .unusableValue
      else
        let shown := if isBool then (if entry = 0 then "False" else " True") else toString entry
        let suffix := if isBool || grid.format = .signed 64 then "" else s!", dtype={name}"
        .ok ("array(" ++ "".pushn '[' depth ++ shown ++ "".pushn ']' depth ++ suffix ++ ")")

/-- A precision configuration is absent, or holds at most two precisions. -/
def verifyPrecision (config : Payload) : Check Unit := do
  if config.isAbsent then
    return ()
  else
    match config with
    | .array grid =>
        ensurePrecisionCount (← needItemCount grid)
        reject .invalidAttributeValue (unknownPrecision (← itemText grid))
    | _ =>
        let values ← needItems config.items?
        ensurePrecisionCount values.length
        checkAll (fun value =>
          ensure (value.isOneOf precisionValues) .invalidAttributeValue
            (unknownPrecision value.quoted)) values

end Op

end TensorTyping
