import TensorTyping.Number.Binary64
import TensorTyping.Text

/-!
# Reading numerals

Integers and decimals written as text, with the digits of any script. Blanks around a numeral are
skipped, and single underscores may stand between digits.
-/

namespace TensorTyping.Numeral

/-- The text without the blanks at both ends. -/
def trim (chars : List Char) : List Char :=
  ((chars.dropWhile Text.isBlank).reverse.dropWhile Text.isBlank).reverse

/-- The sign in front of a numeral, and the rest. -/
def splitSign : List Char → Bool × List Char
  | '-' :: rest => (true, rest)
  | '+' :: rest => (false, rest)
  | rest => (false, rest)

/-- Digits with single underscores between them: the digits read so far, the value, and what
    follows. -/
def digits (count value : Nat) : List Char → Nat × Nat × List Char
  | '_' :: c :: rest =>
      match Text.decimalDigit? c with
      | some d => if count = 0 then (count, value, '_' :: c :: rest)
          else digits (count + 1) (value * 10 + d) rest
      | none => (count, value, '_' :: c :: rest)
  | c :: rest =>
      match Text.decimalDigit? c with
      | some d => digits (count + 1) (value * 10 + d) rest
      | none => (count, value, c :: rest)
  | [] => (count, value, [])

/-- The integer that the text denotes. -/
def int? (text : String) : Option Int :=
  let (negative, rest) := splitSign (trim text.toList)
  match digits 0 0 rest with
  | (0, _, _) => none
  | (_, value, []) => some (if negative then -(value : Int) else value)
  | _ => none

/-- The exponent after a mantissa; zero when there is none. -/
def exponent? : List Char → Option Int
  | [] => some 0
  | mark :: rest =>
      if mark = 'e' ∨ mark = 'E' then
        let (negative, rest) := splitSign rest
        match digits 0 0 rest with
        | (0, _, _) => none
        | (_, value, []) => some (if negative then -(value : Int) else value)
        | _ => none
      else none

/-- The real number that the text denotes: digits with an optional point and an optional exponent,
    or the name of an infinity or of the undefined value. -/
def real? (text : String) : Option Binary64 :=
  let (negative, rest) := splitSign (trim text.toList)
  let name := String.ofList (rest.map Char.toLower)
  if name = "inf" ∨ name = "infinity" then some (.infinity negative)
  else if name = "nan" then some .undefined
  else
    let (whole, value, rest) := digits 0 0 rest
    let (places, value, rest) := match rest with
      | '.' :: rest => digits 0 value rest
      | rest => (0, value, rest)
    if whole + places = 0 then none
    else (exponent? rest).map fun exponent => .ofDecimal negative value (exponent - places)

end TensorTyping.Numeral
