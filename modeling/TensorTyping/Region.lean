import TensorTyping.Ty.Basic

/-!
# Regions

A nested computation (a reduction body, a branch, a loop body, a comparator) is described by the
types that flow into its block and the types that flow out of it.
-/

namespace TensorTyping

/-- The signature of a region. -/
structure Region where
  arguments : List Ty := []
  results : List Ty := []
  deriving Repr, Inhabited

namespace Region

/-- The printed forms of the types, separated by commas. -/
def typesText (types : List Ty) : String := ", ".intercalate (types.map Ty.render)

/-- The signature as an arrow between two lists of types. -/
def render (r : Region) : String :=
  "(" ++ typesText r.arguments ++ ") -> (" ++ typesText r.results ++ ")"

/-- The results as they are named in a sentence. -/
def resultsText (r : Region) : String :=
  if r.results.isEmpty then "nothing" else typesText r.results

/-- The region has one result, the given type. -/
def returns (r : Region) (expected : Ty) : Bool :=
  match r.results with
  | [result] => result.same expected
  | _ => false

end Region

end TensorTyping
