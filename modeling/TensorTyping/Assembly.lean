import TensorTyping.Op

/-!
# Operations from named arguments

An operation can be put together from arguments that are given by name. Every field that has no
default must be given, and no other names; then each argument has to be of the sort that its field
holds.
-/

namespace TensorTyping

/-- The value of a field. A list, a region or a mapping may be missing, as a type may. -/
inductive Argument where
  | type (value : Ty)
  | types (values : Option (List Ty))
  | region (value : Option Region)
  | regions (values : Option (List (Option Region)))
  | payload (value : Payload)
  | unaryKind (kind : Op.UnaryKind)
  | binaryKind (kind : Op.BinaryKind)
  | gatherDims (dims : Option GatherDims)
  | scatterDims (dims : Option ScatterDims)
  | convolutionDims (dims : Option ConvolutionDims)
  | dotDims (dims : Option DotDims)
  deriving Repr, Inhabited

/-- Arguments by name. -/
abbrev Arguments : Type := List (String × Argument)

namespace Arguments

/-- All fields without default are given, and no others than the fields. -/
def isComplete (args : Arguments) (fields : List OpField) : Bool :=
  fields.all (fun field => field.hasDefault || (args.lookup field.name).isSome) &&
    args.all fun arg => fields.any fun field => field.name == arg.1

/-- The argument as the selected sort, or the default when it is not given. -/
def get {α : Type} (args : Arguments) (name : String) (default : Option α)
    (select : Argument → Option α) : Check α :=
  match args.lookup name with
  | none =>
      match default with
      | some value => .ok value
      | none => misuse .wrongSort
  | some arg =>
      match select arg with
      | some value => .ok value
      | none => misuse .wrongSort

/-- A type. -/
def type (args : Arguments) (name : String) : Check Ty :=
  args.get name none fun | .type value => some value | _ => none

/-- A type that need not be declared. -/
def declared (args : Arguments) (name : String) : Check (Option Ty) :=
  args.get name (some none) fun
    | .type .missing => some none
    | .type value => some (some value)
    | _ => none

/-- A list of types, or nothing. -/
def optionalTypes (args : Arguments) (name : String) : Check (Option (List Ty)) :=
  args.get name (some (some [])) fun | .types values => some values | _ => none

/-- A list of types, which has to be there. -/
def types (args : Arguments) (name : String) : Check (List Ty) := do
  needItems (← args.optionalTypes name)

/-- A list of types that may be missing, which leaves it empty. -/
def someTypes (args : Arguments) (name : String) : Check (List Ty) := do
  return (← args.optionalTypes name).getD []

/-- A region. -/
def region (args : Arguments) (name : String) : Check (Option Region) :=
  args.get name (some none) fun | .region value => some value | _ => none

/-- An attribute. -/
def payload (args : Arguments) (name : String) (default : Payload := .null) : Check Payload :=
  args.get name (some default) fun | .payload value => some value | _ => none

/-- An attribute that counts as true or false. -/
def flag (args : Arguments) (name : String) (default : Bool := false) : Check Bool := do
  return (← args.payload name (.bool default)).isTruthy

/-- The mapping of a gather. -/
def gatherDims (args : Arguments) : Check (Option GatherDims) :=
  args.get "dimension_numbers" none fun | .gatherDims dims => some dims | _ => none

/-- The attributes of a normalization. -/
def normAttributes (args : Arguments) : Check Op.NormAttributes := do
  let featureIndex ← args.payload "feature_index"
  let epsilon ← args.payload "epsilon" Op.defaultEpsilon
  return { featureIndex, epsilon }

end Arguments

namespace Op

/-- The operation with arguments whose names are complete. -/
def build (kind : OpKind) (args : Arguments) : Check Op := do
  match kind with
  | .unaryElementwise =>
      let kind ← args.get "kind" none fun | .unaryKind kind => some kind | _ => none
      return .unary kind (← args.type "operand")
  | .binaryElementwise =>
      let kind ← args.get "kind" none fun | .binaryKind kind => some kind | _ => none
      let lhs ← args.type "lhs"
      let rhs ← args.type "rhs"
      let broadcast ← args.flag "broadcast"
      return .binary { kind, lhs, rhs, broadcast }
  | .abs => return .abs (← args.type "operand")
  | .real => return .real (← args.type "operand")
  | .imag => return .imag (← args.type "operand")
  | .complex => return .complex (← args.type "lhs") (← args.type "rhs")
  | .compare =>
      let lhs ← args.type "lhs"
      let rhs ← args.type "rhs"
      let direction ← args.payload "comparison_direction" (.text "EQ")
      let compareType ← args.payload "compare_type"
      return .compare { lhs, rhs, direction, compareType }
  | .convert => return .convert (← args.type "operand") (← args.type "element_type")
  | .isFinite => return .isFinite (← args.type "x")
  | .select =>
      let pred ← args.type "pred"
      let onTrue ← args.type "on_true"
      let onFalse ← args.type "on_false"
      return .select { pred, onTrue, onFalse }
  | .clamp =>
      let min ← args.type "min"
      let operand ← args.type "operand"
      let max ← args.type "max"
      return .clamp { min, operand, max }
  | .uniformDequantize => return .uniformDequantize (← args.type "operand")
  | .bitcastConvert => return .bitcastConvert (← args.type "operand") (← args.type "result")
  | .broadcast =>
      return .broadcast (← args.type "operand") (← args.payload "broadcast_sizes")
  | .broadcastInDim =>
      let operand ← args.type "operand"
      let dimensions ← args.payload "broadcast_dimensions"
      let result ← args.type "result"
      return .broadcastInDim { operand, dimensions, result }
  | .dynamicBroadcastInDim =>
      let operand ← args.type "operand"
      let outputDimensions ← args.type "output_dimensions"
      let dimensions ← args.payload "broadcast_dimensions"
      let result ← args.type "result"
      let knownExpanding ← args.payload "known_expanding_dimensions"
      let knownNonexpanding ← args.payload "known_nonexpanding_dimensions"
      return .dynamicBroadcastInDim
        { operand, outputDimensions, dimensions, result, knownExpanding, knownNonexpanding }
  | .concatenate => return .concatenate (← args.someTypes "inputs") (← args.payload "dimension")
  | .transpose => return .transpose (← args.type "operand") (← args.payload "permutation")
  | .reshape => return .reshape (← args.type "operand") (← args.type "result")
  | .dynamicReshape =>
      let operand ← args.type "operand"
      let outputShape ← args.type "output_shape"
      let result ← args.declared "result"
      return .dynamicReshape { operand, outputShape, result }
  | .pad =>
      let operand ← args.type "operand"
      let paddingValue ← args.type "padding_value"
      let edgeLow ← args.payload "edge_padding_low"
      let edgeHigh ← args.payload "edge_padding_high"
      let interior ← args.payload "interior_padding"
      return .pad { operand, paddingValue, edgeLow, edgeHigh, interior }
  | .slice =>
      let operand ← args.type "operand"
      let starts ← args.payload "start_indices"
      let limits ← args.payload "limit_indices"
      let strides ← args.payload "strides"
      return .slice { operand, starts, limits, strides }
  | .realDynamicSlice =>
      let operand ← args.type "operand"
      let starts ← args.type "start_indices"
      let limits ← args.type "limit_indices"
      let strides ← args.type "strides"
      return .realDynamicSlice { operand, starts, limits, strides }
  | .reverse => return .reverse (← args.type "operand") (← args.payload "dimensions")
  | .iota => return .iota (← args.payload "iota_dimension") (← args.type "result")
  | .getDimensionSize =>
      return .getDimensionSize (← args.type "operand") (← args.payload "dimension")
  | .constant =>
      return .constant (← args.payload "value") (← args.declared "element_type")
  | .gather =>
      let operand ← args.type "operand"
      let starts ← args.type "start_indices"
      let dimensions ← args.gatherDims
      let sizes ← args.payload "slice_sizes"
      return .gather { operand, starts, dimensions, sizes }
  | .dynamicGather =>
      let operand ← args.type "operand"
      let starts ← args.type "start_indices"
      let sizes ← args.type "slice_sizes"
      let dimensions ← args.gatherDims
      let sizeValues ← args.payload "slice_size_values"
      return .dynamicGather { operand, starts, sizes, dimensions, sizeValues }
  | .scatter =>
      let inputs ← args.someTypes "inputs"
      let indices ← args.type "scatter_indices"
      let updates ← args.optionalTypes "updates"
      let dimensions ← args.get "dimension_numbers" none fun
        | .scatterDims dims => some dims
        | _ => none
      let body ← args.region "update_computation"
      return .scatter { inputs, indices, updates, dimensions, body }
  | .dynamicSlice =>
      let operand ← args.type "operand"
      let starts ← args.optionalTypes "start_indices"
      let sizes ← args.payload "slice_sizes"
      return .dynamicSlice { operand, starts, sizes }
  | .dynamicUpdateSlice =>
      let operand ← args.type "operand"
      let update ← args.type "update"
      return .dynamicUpdateSlice operand update (← args.optionalTypes "start_indices")
  | .convolution =>
      let lhs ← args.type "lhs"
      let rhs ← args.type "rhs"
      let dimensions ← args.get "dimension_numbers" none fun
        | .convolutionDims dims => some dims
        | _ => none
      let strides ← args.payload "window_strides"
      let padding ← args.payload "padding"
      let baseDilations ← args.payload "lhs_dilation"
      let windowDilations ← args.payload "rhs_dilation"
      let reversal ← args.payload "window_reversal"
      let featureGroups ← args.payload "feature_group_count" (.int 1)
      let batchGroups ← args.payload "batch_group_count" (.int 1)
      let precision ← args.payload "precision_config"
      let result ← args.declared "result"
      let window := { strides, padding, baseDilations, windowDilations, reversal }
      return .convolution
        { lhs, rhs, dimensions, window, featureGroups, batchGroups, precision, result }
  | .dot =>
      let lhs ← args.type "lhs"
      let rhs ← args.type "rhs"
      let precision ← args.payload "precision_config"
      let result ← args.declared "result"
      return .dot { lhs, rhs, precision, result }
  | .dotGeneral =>
      let lhs ← args.type "lhs"
      let rhs ← args.type "rhs"
      let dimensions ← args.get "dot_dimension_numbers" none fun
        | .dotDims dims => some dims
        | _ => none
      let precision ← args.payload "precision_config"
      let result ← args.declared "result"
      return .dotGeneral { lhs, rhs, dimensions, precision, result }
  | .reduceWindow =>
      let inputs ← args.types "inputs"
      let inits ← args.optionalTypes "init_values"
      let sizes ← args.payload "window_dimensions"
      let body ← args.region "body"
      let strides ← args.payload "window_strides"
      let baseDilations ← args.payload "base_dilations"
      let windowDilations ← args.payload "window_dilations"
      let padding ← args.payload "padding"
      let window := { strides, padding, baseDilations, windowDilations }
      return .reduceWindow { inputs, inits, sizes, body, window }
  | .selectAndScatter =>
      let operand ← args.type "operand"
      let source ← args.type "source"
      let init ← args.type "init_value"
      let select ← args.region "select"
      let scatter ← args.region "scatter"
      let sizes ← args.payload "window_dimensions"
      let strides ← args.payload "window_strides"
      let padding ← args.payload "padding"
      return .selectAndScatter
        { operand, source, init, select, scatter, sizes, strides, padding }
  | .reduce =>
      let inputs ← args.types "inputs"
      let inits ← args.optionalTypes "init_values"
      let dimensions ← args.payload "dimensions"
      let body ← args.region "body"
      return .reduce { inputs, inits, dimensions, body }
  | .map =>
      let inputs ← args.someTypes "inputs"
      let dimensions ← args.payload "dimensions"
      let computation ← args.region "computation"
      return .map { inputs, dimensions, computation }
  | .sort =>
      let inputs ← args.someTypes "inputs"
      let comparator ← args.region "comparator"
      let dimension ← args.payload "dimension" (.int (-1))
      return .sort { inputs, comparator, dimension }
  | .allReduce =>
      let operand ← args.type "operand"
      let groups ← args.payload "replica_groups"
      let computation ← args.region "computation"
      return .allReduce { operand, groups, computation }
  | .allToAll =>
      let operand ← args.type "operand"
      let splitDimension ← args.payload "split_dimension"
      let concatDimension ← args.payload "concat_dimension"
      let splitCount ← args.payload "split_count"
      let groups ← args.payload "replica_groups"
      return .allToAll { operand, splitDimension, concatDimension, splitCount, groups }
  | .reduceScatter =>
      let operand ← args.type "operand"
      let scatterDimension ← args.payload "scatter_dimension"
      let groups ← args.payload "replica_groups"
      let computation ← args.region "computation"
      let result ← args.declared "result"
      return .reduceScatter { operand, scatterDimension, groups, computation, result }
  | .collectivePermute =>
      return .collectivePermute (← args.type "operand") (← args.payload "source_target_pairs")
  | .batchNormTraining =>
      let operand ← args.type "operand"
      let scale ← args.type "scale"
      let offset ← args.type "offset"
      let attributes ← args.normAttributes
      return .batchNormTraining { operand, scale, offset, attributes }
  | .batchNormInference =>
      let operand ← args.type "operand"
      let scale ← args.type "scale"
      let offset ← args.type "offset"
      let mean ← args.type "mean"
      let variance ← args.type "variance"
      let attributes ← args.normAttributes
      return .batchNormInference { operand, scale, offset, mean, variance, attributes }
  | .batchNormGrad =>
      let operand ← args.type "operand"
      let scale ← args.type "scale"
      let mean ← args.type "mean"
      let variance ← args.type "variance"
      let gradOutput ← args.type "grad_output"
      let attributes ← args.normAttributes
      return .batchNormGrad { operand, scale, mean, variance, gradOutput, attributes }
  | .cholesky => return .cholesky (← args.type "a")
  | .triangularSolve =>
      let a ← args.type "a"
      let b ← args.type "b"
      let leftSide ← args.flag "left_side" true
      let transposeA ← args.payload "transpose_a" (.text "NO_TRANSPOSE")
      return .triangularSolve { a, b, leftSide, transposeA }
  | .ifOp =>
      let pred ← args.type "pred"
      let trueBranch ← args.region "true_branch"
      let falseBranch ← args.region "false_branch"
      return .ifOp { pred, trueBranch, falseBranch }
  | .caseOp =>
      let index ← args.type "index"
      let branches ← args.get "branches" none fun
        | .regions values => some (values.getD [])
        | _ => none
      return .caseOp index branches
  | .whileOp =>
      let operands ← args.types "operands"
      let cond ← args.region "cond"
      let body ← args.region "body"
      return .whileOp { operands, cond, body }
  | .tuple => return .tuple (← args.types "values")
  | .getTupleElement => return .getTupleElement (← args.type "operand") (← args.payload "index")
  | .optimizationBarrier => return .optimizationBarrier (← args.types "operands")
  | .returnOp => return .returnOp (← args.types "results")
  | .afterAll => return .afterAll (← args.types "inputs")
  | .createToken => return .createToken
  | .send => return .send (← args.type "token")
  | .outfeed => return .outfeed (← args.type "token")
  | .partitionId => return .partitionId
  | .replicaId => return .replicaId

/-- The operation that the arguments make up. -/
def assemble (kind : OpKind) (args : Arguments) : Check Op :=
  if args.isComplete kind.signature then build kind args else misuse .wrongSort

end Op

end TensorTyping
