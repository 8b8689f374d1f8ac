import TensorTyping.Fault

/-!
# The catalog of operations

Every operation has a name, a title and a list of fields, and belongs to one family. A dispatch
table is put together from families; it is complete when it holds every operation exactly once.
-/

namespace TensorTyping

/-- What a field of an operation holds. -/
inductive FieldContent where
  | type | types | region | regions | payload | unaryKind | binaryKind
  | gatherDims | scatterDims | convolutionDims | dotDims
  deriving DecidableEq, Repr, Inhabited

/-- A field of an operation. A field with a default may be left out. -/
structure OpField where
  name : String
  content : FieldContent
  hasDefault : Bool := false
  deriving DecidableEq, Repr, Inhabited

namespace OpField

/-- Fields that have to be given. -/
def required (content : FieldContent) (names : List String) : List OpField :=
  names.map fun name => { name, content }

/-- Fields that have a default. -/
def optional (content : FieldContent) (names : List String) : List OpField :=
  names.map fun name => { name, content, hasDefault := true }

end OpField

/-- The entries of the catalog. -/
inductive OpKind where
  | unaryElementwise | binaryElementwise | abs | real | imag | complex | compare | convert
  | isFinite | select | clamp | uniformDequantize | bitcastConvert | broadcast | broadcastInDim
  | dynamicBroadcastInDim | concatenate | transpose | reshape | dynamicReshape | pad | slice
  | realDynamicSlice | reverse | iota | getDimensionSize | constant | gather | dynamicGather
  | scatter | dynamicSlice | dynamicUpdateSlice | convolution | dot | dotGeneral | reduceWindow
  | selectAndScatter | reduce | map | sort | allReduce | allToAll | reduceScatter
  | collectivePermute | batchNormTraining | batchNormInference | batchNormGrad | cholesky
  | triangularSolve | ifOp | caseOp | whileOp | tuple | getTupleElement | optimizationBarrier
  | returnOp | afterAll | createToken | send | outfeed | partitionId | replicaId
  deriving DecidableEq, Repr, Inhabited

namespace OpKind

open OpField (required optional)

/-- The name of the operation. -/
def name : OpKind → String
  | .unaryElementwise => "unary_elementwise"
  | .binaryElementwise => "binary_elementwise"
  | .abs => "abs"
  | .real => "real"
  | .imag => "imag"
  | .complex => "complex"
  | .compare => "compare"
  | .convert => "convert"
  | .isFinite => "is_finite"
  | .select => "select"
  | .clamp => "clamp"
  | .uniformDequantize => "uniform_dequantize"
  | .bitcastConvert => "bitcast_convert"
  | .broadcast => "broadcast"
  | .broadcastInDim => "broadcast_in_dim"
  | .dynamicBroadcastInDim => "dynamic_broadcast_in_dim"
  | .concatenate => "concatenate"
  | .transpose => "transpose"
  | .reshape => "reshape"
  | .dynamicReshape => "dynamic_reshape"
  | .pad => "pad"
  | .slice => "slice"
  | .realDynamicSlice => "real_dynamic_slice"
  | .reverse => "reverse"
  | .iota => "iota"
  | .getDimensionSize => "get_dimension_size"
  | .constant => "constant"
  | .gather => "gather"
  | .dynamicGather => "dynamic_gather"
  | .scatter => "scatter"
  | .dynamicSlice => "dynamic_slice"
  | .dynamicUpdateSlice => "dynamic_update_slice"
  | .convolution => "convolution"
  | .dot => "dot"
  | .dotGeneral => "dot_general"
  | .reduceWindow => "reduce_window"
  | .selectAndScatter => "select_and_scatter"
  | .reduce => "reduce"
  | .map => "map"
  | .sort => "sort"
  | .allReduce => "all_reduce"
  | .allToAll => "all_to_all"
  | .reduceScatter => "reduce_scatter"
  | .collectivePermute => "collective_permute"
  | .batchNormTraining => "batch_norm_training"
  | .batchNormInference => "batch_norm_inference"
  | .batchNormGrad => "batch_norm_grad"
  | .cholesky => "cholesky"
  | .triangularSolve => "triangular_solve"
  | .ifOp => "if"
  | .caseOp => "case"
  | .whileOp => "while"
  | .tuple => "tuple"
  | .getTupleElement => "get_tuple_element"
  | .optimizationBarrier => "optimization_barrier"
  | .returnOp => "return"
  | .afterAll => "after_all"
  | .createToken => "create_token"
  | .send => "send"
  | .outfeed => "outfeed"
  | .partitionId => "partition_id"
  | .replicaId => "replica_id"

/-- The fields of the operation in order. -/
def signature : OpKind → List OpField
  | .unaryElementwise => required .unaryKind ["kind"] ++ required .type ["operand"]
  | .binaryElementwise =>
      required .binaryKind ["kind"] ++ required .type ["lhs", "rhs"] ++
        optional .payload ["broadcast"]
  | .abs => required .type ["operand"]
  | .real => required .type ["operand"]
  | .imag => required .type ["operand"]
  | .complex => required .type ["lhs", "rhs"]
  | .compare =>
      required .type ["lhs", "rhs"] ++
        optional .payload ["comparison_direction", "compare_type"]
  | .convert => required .type ["operand", "element_type"]
  | .isFinite => required .type ["x"]
  | .select => required .type ["pred", "on_true", "on_false"]
  | .clamp => required .type ["min", "operand", "max"]
  | .uniformDequantize => required .type ["operand"]
  | .bitcastConvert => required .type ["operand", "result"]
  | .broadcast => required .type ["operand"] ++ optional .payload ["broadcast_sizes"]
  | .broadcastInDim =>
      required .type ["operand"] ++ required .payload ["broadcast_dimensions"] ++
        required .type ["result"]
  | .dynamicBroadcastInDim =>
      required .type ["operand", "output_dimensions"] ++
        required .payload ["broadcast_dimensions"] ++ required .type ["result"] ++
        optional .payload ["known_expanding_dimensions", "known_nonexpanding_dimensions"]
  | .concatenate => required .types ["inputs"] ++ required .payload ["dimension"]
  | .transpose => required .type ["operand"] ++ required .payload ["permutation"]
  | .reshape => required .type ["operand", "result"]
  | .dynamicReshape => required .type ["operand", "output_shape"] ++ optional .type ["result"]
  | .pad =>
      required .type ["operand", "padding_value"] ++
        optional .payload ["edge_padding_low", "edge_padding_high", "interior_padding"]
  | .slice =>
      required .type ["operand"] ++ required .payload ["start_indices", "limit_indices"] ++
        optional .payload ["strides"]
  | .realDynamicSlice => required .type ["operand", "start_indices", "limit_indices", "strides"]
  | .reverse => required .type ["operand"] ++ required .payload ["dimensions"]
  | .iota => required .payload ["iota_dimension"] ++ required .type ["result"]
  | .getDimensionSize => required .type ["operand"] ++ required .payload ["dimension"]
  | .constant => required .payload ["value"] ++ optional .type ["element_type"]
  | .gather =>
      required .type ["operand", "start_indices"] ++
        required .gatherDims ["dimension_numbers"] ++
        required .payload ["slice_sizes"] ++ optional .payload ["indices_are_sorted"]
  | .dynamicGather =>
      required .type ["operand", "start_indices", "slice_sizes"] ++
        required .gatherDims ["dimension_numbers"] ++
        optional .payload ["slice_size_values", "indices_are_sorted"]
  | .scatter =>
      required .types ["inputs"] ++ required .type ["scatter_indices"] ++
        required .types ["updates"] ++ required .scatterDims ["dimension_numbers"] ++
        required .region ["update_computation"] ++
        optional .payload ["indices_are_sorted", "unique_indices"]
  | .dynamicSlice =>
      required .type ["operand"] ++ required .types ["start_indices"] ++
        optional .payload ["slice_sizes"]
  | .dynamicUpdateSlice => required .type ["operand", "update"] ++ required .types ["start_indices"]
  | .convolution =>
      required .type ["lhs", "rhs"] ++ required .convolutionDims ["dimension_numbers"] ++
        optional .payload ["window_strides", "padding", "lhs_dilation", "rhs_dilation",
          "window_reversal", "feature_group_count", "batch_group_count", "precision_config"] ++
        optional .type ["result"]
  | .dot =>
      required .type ["lhs", "rhs"] ++ optional .payload ["precision_config"] ++
        optional .type ["result"]
  | .dotGeneral =>
      required .type ["lhs", "rhs"] ++ required .dotDims ["dot_dimension_numbers"] ++
        optional .payload ["precision_config"] ++ optional .type ["result"]
  | .reduceWindow =>
      required .types ["inputs", "init_values"] ++ required .payload ["window_dimensions"] ++
        required .region ["body"] ++
        optional .payload ["window_strides", "base_dilations", "window_dilations", "padding"]
  | .selectAndScatter =>
      required .type ["operand", "source", "init_value"] ++
        required .region ["select", "scatter"] ++
        optional .payload ["window_dimensions", "window_strides", "padding"]
  | .reduce =>
      required .types ["inputs", "init_values"] ++ required .payload ["dimensions"] ++
        optional .region ["body"]
  | .map =>
      required .types ["inputs"] ++ required .payload ["dimensions"] ++
        required .region ["computation"]
  | .sort =>
      required .types ["inputs"] ++ optional .region ["comparator"] ++
        optional .payload ["dimension", "is_stable"]
  | .allReduce =>
      required .type ["operand"] ++ required .payload ["replica_groups"] ++
        required .region ["computation"] ++ optional .payload ["use_global_device_ids"]
  | .allToAll =>
      required .type ["operand"] ++
        required .payload ["split_dimension", "concat_dimension", "split_count",
          "replica_groups"]
  | .reduceScatter =>
      required .type ["operand"] ++ required .payload ["scatter_dimension", "replica_groups"]
          ++
        required .region ["computation"] ++ optional .payload ["use_global_device_ids"] ++
        optional .type ["result"]
  | .collectivePermute => required .type ["operand"] ++ required .payload ["source_target_pairs"]
  | .batchNormTraining =>
      required .type ["operand", "scale", "offset"] ++ required .payload ["feature_index"] ++
        optional .payload ["epsilon"]
  | .batchNormInference =>
      required .type ["operand", "scale", "offset", "mean", "variance"] ++
        required .payload ["feature_index"] ++ optional .payload ["epsilon"]
  | .batchNormGrad =>
      required .type ["operand", "scale", "mean", "variance", "grad_output"] ++
        required .payload ["feature_index"] ++ optional .payload ["epsilon"]
  | .cholesky => required .type ["a"] ++ optional .payload ["lower"]
  | .triangularSolve =>
      required .type ["a", "b"] ++
        optional .payload ["left_side", "lower", "unit_diagonal", "transpose_a"]
  | .ifOp => required .type ["pred"] ++ required .region ["true_branch", "false_branch"]
  | .caseOp => required .type ["index"] ++ required .regions ["branches"]
  | .whileOp => required .types ["operands"] ++ required .region ["cond", "body"]
  | .tuple => required .types ["values"]
  | .getTupleElement => required .type ["operand"] ++ required .payload ["index"]
  | .optimizationBarrier => required .types ["operands"]
  | .returnOp => optional .types ["results"]
  | .afterAll => optional .types ["inputs"]
  | .createToken => []
  | .send => required .types ["inputs"] ++ required .type ["token"]
  | .outfeed =>
      required .types ["inputs"] ++ required .type ["token"] ++
        optional .payload ["outfeed_config"]
  | .partitionId => []
  | .replicaId => []

/-- The names of the fields in order. -/
def fields (kind : OpKind) : List String := kind.signature.map OpField.name

/-- A word with its first letter in upper case. -/
def capitalize (word : String) : String :=
  match word.toList with
  | [] => ""
  | first :: rest => String.ofList (first.toUpper :: rest)

/-- The words of a name, which underscores divide. -/
def words (name : List Char) : List (List Char) :=
  name.foldr (fun c parts =>
    match c, parts with
    | '_', parts => [] :: parts
    | c, [] => [[c]]
    | c, word :: rest => (c :: word) :: rest) [[]]

/-- The title of the operation: the words of its name run together. -/
def title (kind : OpKind) : String :=
  String.join ((words kind.name.toList).map fun word => capitalize (String.ofList word)) ++ "Op"

end OpKind

/-- The families of operations. -/
inductive Family where
  | elementwise | shape | indexing | contraction | reduction | collective | linearAlgebra | control
  deriving DecidableEq, Repr, Inhabited

namespace Family

/-- All families in the order of the catalog. -/
def all : List Family :=
  [.elementwise, .shape, .indexing, .contraction, .reduction, .collective, .linearAlgebra, .control]

/-- The name of the family. -/
def name : Family → String
  | .elementwise => "elementwise"
  | .shape => "shape_ops"
  | .indexing => "indexing_ops"
  | .contraction => "convolution"
  | .reduction => "reduction"
  | .collective => "collective_ops"
  | .linearAlgebra => "linalg"
  | .control => "control_flow"

/-- The family of the given name. -/
def ofName? (name : String) : Option Family := all.find? fun family => family.name == name

/-- The operations of the family in order. -/
def ops : Family → List OpKind
  | .elementwise =>
      [.unaryElementwise, .binaryElementwise, .abs, .real, .imag, .complex, .compare, .convert,
      .isFinite, .select, .clamp, .uniformDequantize, .bitcastConvert]
  | .shape =>
      [.broadcast, .broadcastInDim, .dynamicBroadcastInDim, .concatenate, .transpose, .reshape,
      .dynamicReshape, .pad, .slice, .realDynamicSlice, .reverse, .iota, .getDimensionSize,
      .constant]
  | .indexing => [.gather, .dynamicGather, .scatter, .dynamicSlice, .dynamicUpdateSlice]
  | .contraction => [.convolution, .dot, .dotGeneral, .reduceWindow, .selectAndScatter]
  | .reduction => [.reduce, .map, .sort]
  | .collective => [.allReduce, .allToAll, .reduceScatter, .collectivePermute]
  | .linearAlgebra =>
      [.batchNormTraining, .batchNormInference, .batchNormGrad, .cholesky, .triangularSolve]
  | .control =>
      [.ifOp, .caseOp, .whileOp, .tuple, .getTupleElement, .optimizationBarrier, .returnOp,
      .afterAll, .createToken, .send, .outfeed, .partitionId, .replicaId]

end Family

namespace OpKind

/-- All operations in the order of the catalog. -/
def all : List OpKind := Family.all.flatMap Family.ops

/-- The operation of the given name. -/
def ofName? (name : String) : Option OpKind := all.find? fun kind => kind.name == name

end OpKind

namespace Dispatch

/-- The operations of the families in order, none of which may occur twice. -/
def gather (table : List OpKind) : List Family → Check (List OpKind)
  | [] => .ok table
  | family :: rest =>
      match family.ops.find? table.contains with
      | some kind =>
          misuse (.dispatch (s!"{kind.title} has rules in more than one family " ++
            s!"(shapeinfer.inference.rules.{family.name})"))
      | none => gather (table ++ family.ops) rest

/-- The dispatch table of the families, which has to hold every operation of the catalog. -/
def build (families : List Family) : Check (List OpKind) := do
  let table ← gather [] families
  match OpKind.all.filter fun kind => !table.contains kind with
  | [] => return table
  | missing =>
      let titles := ", ".intercalate (missing.map OpKind.title)
      misuse (.dispatch s!"no shape rule for: {titles}")

end Dispatch

end TensorTyping
