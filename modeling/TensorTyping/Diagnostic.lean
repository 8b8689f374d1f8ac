import TensorTyping.Location
import TensorTyping.Text

/-!
# Diagnostics

Every way an operation can be ill-formed belongs to one `Diagnostic.Kind`, which has a fixed name
and a fixed code. A `Diagnostic` is a kind with a message about the first violation found, notes
about further ones, and the location of the operation.
-/

namespace TensorTyping

namespace Diagnostic

/-- The classes of ill-formed operations. -/
inductive Kind where
  /-- Any failure of inference that belongs to no finer class. -/
  | inferenceError
  /-- The length of a per-dimension attribute differs from the expected one. -/
  | attributeArityMismatch
  /-- An attribute has the wrong number of dimensions or the wrong kind of entries. -/
  | malformedAttribute
  /-- A window size, stride or dilation is not positive. -/
  | nonPositiveWindowAttribute
  /-- Shapes or extents disagree where the operation needs them to agree. -/
  | incompatibleShape
  /-- Element types differ. -/
  | incompatibleElementType
  /-- Dimension numbers are out of range, unsorted or inconsistent. -/
  | invalidDimensionMapping
  /-- A grid of replica groups violates one of its rules. -/
  | invalidReplicaGroups
  /-- The signature of a reduction body violates its contract. The offending block parameter is
      absent when a count is wrong; the reason is a short tag. -/
  | reducerSignatureMismatch (parameter : Option Int) (reason : String)
  /-- An attribute value lies outside its legal range. -/
  | invalidAttributeValue
  /-- A nested region has the wrong signature. -/
  | invalidRegion
  /-- An operand is of the wrong kind. -/
  | invalidOperand
  deriving DecidableEq, Repr, Inhabited

namespace Kind

/-- The name of the class. -/
def name : Kind → String
  | .inferenceError => "InferenceError"
  | .attributeArityMismatch => "AttributeArityMismatch"
  | .malformedAttribute => "MalformedAttribute"
  | .nonPositiveWindowAttribute => "NonPositiveWindowAttribute"
  | .incompatibleShape => "IncompatibleShape"
  | .incompatibleElementType => "IncompatibleElementType"
  | .invalidDimensionMapping => "InvalidDimensionMapping"
  | .invalidReplicaGroups => "InvalidReplicaGroups"
  | .reducerSignatureMismatch .. => "ReducerSignatureMismatch"
  | .invalidAttributeValue => "InvalidAttributeValue"
  | .invalidRegion => "InvalidRegion"
  | .invalidOperand => "InvalidOperand"

/-- The stable code of the class. -/
def code : Kind → String
  | .inferenceError => "E0600"
  | .attributeArityMismatch => "E0601"
  | .malformedAttribute => "E0602"
  | .nonPositiveWindowAttribute => "E0603"
  | .incompatibleShape => "E0604"
  | .incompatibleElementType => "E0605"
  | .invalidDimensionMapping => "E0606"
  | .invalidReplicaGroups => "E0607"
  | .reducerSignatureMismatch .. => "E0608"
  | .invalidAttributeValue => "E0609"
  | .invalidRegion => "E0610"
  | .invalidOperand => "E0611"

/-- The finer classes in the order of their codes, the reducer's without details. -/
def specific : List Kind :=
  [.attributeArityMismatch, .malformedAttribute, .nonPositiveWindowAttribute, .incompatibleShape,
    .incompatibleElementType, .invalidDimensionMapping, .invalidReplicaGroups,
    .reducerSignatureMismatch none "", .invalidAttributeValue, .invalidRegion, .invalidOperand]

/-- The class of the given name. -/
def ofName? (name : String) : Option Kind :=
  (.inferenceError :: specific).find? fun kind => kind.name == name

end Kind

end Diagnostic

/-- One ill-formed operation: what is wrong, what else is wrong, and where. -/
structure Diagnostic where
  kind : Diagnostic.Kind
  message : String
  notes : List String := []
  location : Option Location := none
  deriving DecidableEq, Repr, Inhabited

namespace Diagnostic

/-- Attaches a location unless the diagnostic already has one. -/
def locate (d : Diagnostic) (location : Option Location) : Diagnostic :=
  { d with location := d.location <|> location }

/-- The diagnostic on several lines: code and message, the location, then one line per note. -/
def render (d : Diagnostic) : String :=
  let first := s!"error[{d.kind.code}]: {d.message}"
  let place := d.location.toList.map fun l => s!" --> {l.render}"
  let notes := d.notes.map fun note => s!"  = note: {note}"
  "\n".intercalate (first :: place ++ notes)

/-- The diagnostic on one line: class and quoted message. -/
def summary (d : Diagnostic) : String := s!"{d.kind.name}({Text.quoted d.message})"

end Diagnostic

end TensorTyping
