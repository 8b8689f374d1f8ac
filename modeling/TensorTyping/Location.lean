/-!
# Source locations

Where an operation stands in the program it comes from. Inference never reads a location; it only
attaches it to the diagnostics it returns.
-/

namespace TensorTyping

/-- A position in a file and the name of the operation that stands there. The parts are kept as they
    are shown. -/
structure Location where
  file : String := "<unknown>"
  line : String := "0"
  column : String := "0"
  operation : String := ""
  deriving DecidableEq, Repr, Inhabited

namespace Location

/-- `file:line:column`, followed by the operation's name when there is one. -/
def render (l : Location) : String :=
  let position := s!"{l.file}:{l.line}:{l.column}"
  if l.operation.isEmpty then position else s!"{position} ({l.operation})"

end Location

end TensorTyping
