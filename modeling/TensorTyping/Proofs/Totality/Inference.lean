import TensorTyping.Op
import TensorTyping.Proofs.Totality.Collective
import TensorTyping.Proofs.Totality.Indexing
import TensorTyping.Proofs.Totality.Windowed

/-!
# Inference without misuse

Inference answers every well-formed operation with well-formed types or with a diagnostic, whatever
its attributes hold. There are two exceptions. An operation may ask for a list that is longer than
any list; and an integer attribute that is an array of durations passes for integers, though its
entries are none.
-/

namespace TensorTyping

open Check

variable {excused : Misuse → Prop}

/-- The types of the operation and of its regions are well-formed, its single numbers are numbers
    and the parts it needs are there. Other attributes may hold anything, except that a constant is
    a rectangle and a precision is a collection when it is given. -/
inductive Op.WellFormed : Op → Prop
  | unary {operand : Ty} (kind : UnaryKind) (form : operand.WellFormed) :
      WellFormed (.unary kind operand)
  | binary {op : Binary} (lhs : op.lhs.WellFormed) (rhs : op.rhs.WellFormed) :
      WellFormed (.binary op)
  | abs {operand : Ty} (form : operand.WellFormed) : WellFormed (.abs operand)
  | real {operand : Ty} (form : operand.WellFormed) : WellFormed (.real operand)
  | imag {operand : Ty} (form : operand.WellFormed) : WellFormed (.imag operand)
  | complex {lhs rhs : Ty} (left : lhs.WellFormed) (right : rhs.WellFormed) :
      WellFormed (.complex lhs rhs)
  | compare {op : Compare} (lhs : op.lhs.WellFormed) (rhs : op.rhs.WellFormed) :
      WellFormed (.compare op)
  | convert {operand element : Ty} (form : operand.WellFormed) (target : element.WellFormed) :
      WellFormed (.convert operand element)
  | isFinite {operand : Ty} (form : operand.WellFormed) : WellFormed (.isFinite operand)
  | select {op : Select} (pred : op.pred.WellFormed) (onTrue : op.onTrue.WellFormed)
      (onFalse : op.onFalse.WellFormed) : WellFormed (.select op)
  | clamp {op : Clamp} (min : op.min.WellFormed) (operand : op.operand.WellFormed)
      (max : op.max.WellFormed) : WellFormed (.clamp op)
  | uniformDequantize {operand : Ty} (form : operand.WellFormed) (calibrated : operand.Calibrated) :
      WellFormed (.uniformDequantize operand)
  | bitcastConvert {operand result : Ty} (form : operand.WellFormed)
      (calibrated : operand.Calibrated) (resultForm : result.WellFormed)
      (resultCalibrated : result.Calibrated) : WellFormed (.bitcastConvert operand result)
  | broadcast {operand : Ty} (sizes : Payload) (form : operand.WellFormed) :
      WellFormed (.broadcast operand sizes)
  | broadcastInDim {op : BroadcastInDim} (operand : op.operand.WellFormed)
      (result : op.result.WellFormed) : WellFormed (.broadcastInDim op)
  | dynamicBroadcastInDim {op : DynamicBroadcastInDim} (operand : op.operand.WellFormed)
      (outputDimensions : op.outputDimensions.WellFormed) (result : op.result.WellFormed) :
      WellFormed (.dynamicBroadcastInDim op)
  | concatenate {inputs : List Ty} {dimension : Payload} (form : Ty.FormedAll inputs)
      (number : dimension.Integral) : WellFormed (.concatenate inputs dimension)
  | transpose {operand : Ty} (permutation : Payload) (form : operand.WellFormed) :
      WellFormed (.transpose operand permutation)
  | reshape {operand result : Ty} (form : operand.WellFormed) (resultForm : result.WellFormed) :
      WellFormed (.reshape operand result)
  | dynamicReshape {op : DynamicReshape} (operand : op.operand.WellFormed)
      (outputShape : op.outputShape.WellFormed) (result : ∀ t ∈ op.result, t.WellFormed) :
      WellFormed (.dynamicReshape op)
  | pad {op : Pad} (operand : op.operand.WellFormed) (paddingValue : op.paddingValue.WellFormed) :
      WellFormed (.pad op)
  | slice {op : Slice} (operand : op.operand.WellFormed) : WellFormed (.slice op)
  | realDynamicSlice {op : RealDynamicSlice} (operand : op.operand.WellFormed)
      (starts : op.starts.WellFormed) (limits : op.limits.WellFormed)
      (strides : op.strides.WellFormed) : WellFormed (.realDynamicSlice op)
  | reverse {operand : Ty} (dimensions : Payload) (form : operand.WellFormed) :
      WellFormed (.reverse operand dimensions)
  | iota {dimension : Payload} {result : Ty} (number : dimension.Integral)
      (form : result.WellFormed) : WellFormed (.iota dimension result)
  | getDimensionSize {operand : Ty} {dimension : Payload} (form : operand.WellFormed)
      (number : dimension.Integral) : WellFormed (.getDimensionSize operand dimension)
  | constant {value : Payload} {grid : Grid} {element : Option Ty}
      (rectangular : value.grid? = some grid) (form : ∀ t ∈ element, t.WellFormed) :
      WellFormed (.constant value element)
  | gather {op : GatherSlices} (operand : op.operand.WellFormed) (starts : op.starts.WellFormed)
      (dimensions : ∃ dims, op.dimensions = some dims ∧ dims.indexVectorDim.Integral) :
      WellFormed (.gather op)
  | dynamicGather {op : DynamicGather} (operand : op.operand.WellFormed)
      (starts : op.starts.WellFormed) (sizes : op.sizes.WellFormed)
      (dimensions : ∃ dims, op.dimensions = some dims ∧ dims.indexVectorDim.Integral) :
      WellFormed (.dynamicGather op)
  | scatter {op : ScatterUpdates} (inputs : Ty.FormedAll op.inputs)
      (indices : op.indices.WellFormed) (updates : TypesGiven op.updates)
      (dimensions : ∃ dims, op.dimensions = some dims ∧ dims.indexVectorDim.Integral)
      (body : Region.Given op.body) : WellFormed (.scatter op)
  | dynamicSlice {op : SliceAt} (operand : op.operand.WellFormed) (starts : TypesGiven op.starts) :
      WellFormed (.dynamicSlice op)
  | dynamicUpdateSlice {operand update : Ty} {starts : Option (List Ty)}
      (operandForm : operand.WellFormed) (updateForm : update.WellFormed)
      (given : TypesGiven starts) : WellFormed (.dynamicUpdateSlice operand update starts)
  | convolution {op : Convolution} (lhs : op.lhs.WellFormed) (rhs : op.rhs.WellFormed)
      (dimensions : ∃ dims, op.dimensions = some dims ∧ dims.WellFormed)
      (features : op.featureGroups.Integral) (batches : op.batchGroups.Integral)
      (precision : PrecisionGiven op.precision) (result : ∀ t ∈ op.result, t.WellFormed) :
      WellFormed (.convolution op)
  | dot {op : Dot} (lhs : op.lhs.WellFormed) (rhs : op.rhs.WellFormed)
      (precision : PrecisionGiven op.precision) (result : ∀ t ∈ op.result, t.WellFormed) :
      WellFormed (.dot op)
  | dotGeneral {op : DotGeneral} (lhs : op.lhs.WellFormed) (rhs : op.rhs.WellFormed)
      (dimensions : op.dimensions.isSome = true) (precision : PrecisionGiven op.precision)
      (result : ∀ t ∈ op.result, t.WellFormed) : WellFormed (.dotGeneral op)
  | reduceWindow {op : ReduceWindow} (inputs : Ty.FormedAll op.inputs)
      (inits : TypesGiven op.inits) (body : Region.Given op.body) : WellFormed (.reduceWindow op)
  | selectAndScatter {op : SelectAndScatter} (operand : op.operand.WellFormed)
      (source : op.source.WellFormed) (init : op.init.WellFormed)
      (select : Region.Given op.select) (scatter : Region.Given op.scatter) :
      WellFormed (.selectAndScatter op)
  | reduce {op : Reduce} (inputs : Ty.FormedAll op.inputs) (inits : TypesGiven op.inits)
      (body : ∀ r ∈ op.body, r.WellFormed) : WellFormed (.reduce op)
  | map {op : MapElements} (inputs : Ty.FormedAll op.inputs)
      (computation : Region.Given op.computation) : WellFormed (.map op)
  | sort {op : SortTensors} (inputs : Ty.FormedAll op.inputs) (dimension : op.dimension.Integral) :
      WellFormed (.sort op)
  | allReduce {op : AllReduce} (operand : op.operand.WellFormed)
      (computation : Region.Given op.computation) : WellFormed (.allReduce op)
  | allToAll {op : AllToAll} (operand : op.operand.WellFormed)
      (splitDimension : op.splitDimension.Integral) (concatDimension : op.concatDimension.Integral)
      (splitCount : op.splitCount.Integral) : WellFormed (.allToAll op)
  | reduceScatter {op : ReduceScatter} (operand : op.operand.WellFormed)
      (scatterDimension : op.scatterDimension.Integral)
      (computation : Region.Given op.computation) (result : ∀ t ∈ op.result, t.WellFormed) :
      WellFormed (.reduceScatter op)
  | collectivePermute {operand : Ty} (pairs : Payload) (form : operand.WellFormed) :
      WellFormed (.collectivePermute operand pairs)
  | batchNormTraining {op : BatchNormTraining} (operand : op.operand.WellFormed)
      (scale : op.scale.WellFormed) (offset : op.offset.WellFormed)
      (attributes : op.attributes.WellFormed) : WellFormed (.batchNormTraining op)
  | batchNormInference {op : BatchNormInference} (operand : op.operand.WellFormed)
      (scale : op.scale.WellFormed) (offset : op.offset.WellFormed) (mean : op.mean.WellFormed)
      (variance : op.variance.WellFormed) (attributes : op.attributes.WellFormed) :
      WellFormed (.batchNormInference op)
  | batchNormGrad {op : BatchNormGrad} (operand : op.operand.WellFormed)
      (scale : op.scale.WellFormed) (mean : op.mean.WellFormed) (variance : op.variance.WellFormed)
      (gradOutput : op.gradOutput.WellFormed) (attributes : op.attributes.WellFormed) :
      WellFormed (.batchNormGrad op)
  | cholesky {a : Ty} (form : a.WellFormed) : WellFormed (.cholesky a)
  | triangularSolve {op : TriangularSolve} (a : op.a.WellFormed) (b : op.b.WellFormed) :
      WellFormed (.triangularSolve op)
  | ifOp {op : If} (pred : op.pred.WellFormed) (trueBranch : Region.Given op.trueBranch)
      (falseBranch : Region.Given op.falseBranch) : WellFormed (.ifOp op)
  | caseOp {index : Ty} {branches : List (Option Region)} (form : index.WellFormed)
      (given : ∀ branch ∈ branches, Region.Given branch) : WellFormed (.caseOp index branches)
  | whileOp {op : While} (operands : Ty.FormedAll op.operands) (cond : Region.Given op.cond)
      (body : Region.Given op.body) : WellFormed (.whileOp op)
  | tuple {values : List Ty} (form : Ty.FormedAll values) : WellFormed (.tuple values)
  | getTupleElement {operand : Ty} {index : Payload} (form : operand.WellFormed)
      (number : index.Integral) : WellFormed (.getTupleElement operand index)
  | optimizationBarrier {operands : List Ty} (form : Ty.FormedAll operands) :
      WellFormed (.optimizationBarrier operands)
  | returnOp {values : List Ty} (form : Ty.FormedAll values) : WellFormed (.returnOp values)
  | afterAll {inputs : List Ty} (form : Ty.FormedAll inputs) : WellFormed (.afterAll inputs)
  | createToken : WellFormed .createToken
  | send {carrier : Ty} (form : carrier.WellFormed) : WellFormed (.send carrier)
  | outfeed {carrier : Ty} (form : carrier.WellFormed) : WellFormed (.outfeed carrier)
  | partitionId : WellFormed .partitionId
  | replicaId : WellFormed .replicaId

namespace Op

/-- The attributes of an operation that are decoded as vectors or tables of integers. -/
def integerAttributes : Op → List Payload
  | .broadcast _ sizes => [sizes]
  | .broadcastInDim op => [op.dimensions]
  | .dynamicBroadcastInDim op => [op.dimensions, op.knownExpanding, op.knownNonexpanding]
  | .transpose _ permutation => [permutation]
  | .pad op => [op.edgeLow, op.edgeHigh, op.interior]
  | .slice op => [op.starts, op.limits, op.strides]
  | .reverse _ dimensions => [dimensions]
  | .gather op => [op.sizes]
  | .dynamicGather op => [op.sizeValues]
  | .dynamicSlice op => [op.sizes]
  | .convolution op => op.window.integers
  | .reduceWindow op => op.sizes :: op.window.integers
  | .selectAndScatter op => op.integers
  | .reduce op => [op.dimensions]
  | .map op => [op.dimensions]
  | .allReduce op => [op.groups]
  | .allToAll op => [op.groups]
  | .reduceScatter op => [op.groups]
  | .collectivePermute _ pairs => [pairs]
  | _ => []

/-- An attribute that should hold integers holds durations. -/
def Timed (op : Op) : Prop := ∃ payload ∈ op.integerAttributes, payload.Timed

/-- The operation asks for a list that is longer than any list: the extents of a result of unknown
    shape or the sizes of a slice. -/
def Outgrows : Op → Prop
  | .dynamicReshape op => op.Outgrows
  | .dynamicGather op => op.Outgrows
  | _ => False

/-- Each kind of operation is answered, if it is excused that durations are no integers and that no
    list is long enough. -/
theorem WellFormed.infer_meets {op : Op} (form : op.WellFormed)
    (timed : ∀ payload ∈ op.integerAttributes, payload.TimedIsExcused excused)
    (long : op.Outgrows → excused .overflow) : Meets excused Ty.FormedAll op.infer := by
  cases form with
  | unary kind form => exact inferUnary_meets kind form
  | binary lhs rhs => exact Binary.infer_meets lhs rhs
  | abs form => exact inferAbs_meets form
  | real form => exact inferComplexPart_meets form _
  | imag form => exact inferComplexPart_meets form _
  | complex left right => exact inferComplex_meets left right
  | compare lhs rhs => exact Compare.infer_meets lhs rhs
  | convert form target => exact inferConvert_meets form target
  | isFinite form => exact inferIsFinite_meets form
  | select pred onTrue onFalse => exact Select.infer_meets pred onTrue onFalse
  | clamp min operand max => exact Clamp.infer_meets min operand max
  | uniformDequantize form calibrated => exact inferUniformDequantize_meets form calibrated
  | bitcastConvert form calibrated resultForm resultCalibrated =>
    exact inferBitcastConvert_meets form calibrated resultForm resultCalibrated
  | broadcast sizes form => exact inferBroadcast_meets form (timed _ List.mem_cons_self)
  | broadcastInDim operand result =>
    exact BroadcastInDim.infer_meets operand result (timed _ List.mem_cons_self)
  | dynamicBroadcastInDim operand outputDimensions result =>
    simp only [integerAttributes, List.forall_mem_cons] at timed
    obtain ⟨dimensions, expanding, nonexpanding, -⟩ := timed
    exact DynamicBroadcastInDim.infer_meets operand outputDimensions result dimensions expanding
      nonexpanding
  | concatenate form number => exact inferConcatenate_meets form number
  | transpose permutation form => exact inferTranspose_meets form (timed _ List.mem_cons_self)
  | reshape form resultForm => exact inferReshape_meets form resultForm
  | dynamicReshape operand outputShape result =>
    exact DynamicReshape.infer_meets operand outputShape result long
  | pad operand paddingValue =>
    simp only [integerAttributes, List.forall_mem_cons] at timed
    obtain ⟨low, high, interior, -⟩ := timed
    exact Pad.infer_meets operand paddingValue low high interior
  | slice operand =>
    simp only [integerAttributes, List.forall_mem_cons] at timed
    obtain ⟨starts, limits, strides, -⟩ := timed
    exact Slice.infer_meets operand starts limits strides
  | realDynamicSlice operand starts limits strides =>
    exact RealDynamicSlice.infer_meets operand starts limits strides
  | reverse dimensions form => exact inferReverse_meets form (timed _ List.mem_cons_self)
  | iota number form => exact inferIota_meets number form
  | getDimensionSize form number => exact inferGetDimensionSize_meets form number
  | constant rectangular form => exact inferConstant_meets rectangular form
  | gather operand starts dimensions =>
    exact GatherSlices.infer_meets operand starts dimensions (timed _ List.mem_cons_self)
  | dynamicGather operand starts sizes dimensions =>
    exact DynamicGather.infer_meets operand starts sizes dimensions
      (timed _ List.mem_cons_self) long
  | scatter inputs indices updates dimensions body =>
    exact ScatterUpdates.infer_meets inputs indices updates dimensions body
  | dynamicSlice operand starts =>
    exact SliceAt.infer_meets operand starts (timed _ List.mem_cons_self)
  | dynamicUpdateSlice operandForm updateForm given =>
    exact inferDynamicUpdateSlice_meets operandForm updateForm given
  | convolution lhs rhs dimensions features batches precision result =>
    exact Convolution.infer_meets lhs rhs dimensions features batches precision result timed
  | dot lhs rhs precision result => exact Dot.infer_meets lhs rhs precision result
  | dotGeneral lhs rhs dimensions precision result =>
    exact DotGeneral.infer_meets lhs rhs dimensions precision result
  | reduceWindow inputs inits body =>
    obtain ⟨sizes, window⟩ := List.forall_mem_cons.mp timed
    exact ReduceWindow.infer_meets inputs inits body sizes window
  | selectAndScatter operand source init select scatter =>
    exact SelectAndScatter.infer_meets operand source init select scatter timed
  | reduce inputs inits body =>
    exact Reduce.infer_meets inputs inits body (timed _ List.mem_cons_self)
  | map inputs computation =>
    exact MapElements.infer_meets inputs computation (timed _ List.mem_cons_self)
  | sort inputs dimension => exact SortTensors.infer_meets inputs dimension
  | allReduce operand computation =>
    exact AllReduce.infer_meets operand computation (timed _ List.mem_cons_self)
  | allToAll operand splitDimension concatDimension splitCount =>
    exact AllToAll.infer_meets operand splitDimension concatDimension splitCount
      (timed _ List.mem_cons_self)
  | reduceScatter operand scatterDimension computation result =>
    exact ReduceScatter.infer_meets operand scatterDimension computation result
      (timed _ List.mem_cons_self)
  | collectivePermute pairs form =>
    exact inferCollectivePermute_meets form (timed _ List.mem_cons_self)
  | batchNormTraining operand scale offset attributes =>
    exact BatchNormTraining.infer_meets operand scale offset attributes
  | batchNormInference operand scale offset mean variance attributes =>
    exact BatchNormInference.infer_meets operand scale offset mean variance attributes
  | batchNormGrad operand scale mean variance gradOutput attributes =>
    exact BatchNormGrad.infer_meets operand scale mean variance gradOutput attributes
  | cholesky form => exact inferCholesky_meets form
  | triangularSolve a b => exact TriangularSolve.infer_meets a b
  | ifOp pred trueBranch falseBranch => exact If.infer_meets pred trueBranch falseBranch
  | caseOp form given => exact inferCase_meets form given
  | whileOp operands cond body => exact While.infer_meets operands cond body
  | tuple form => exact Ty.FormedAll.single (.tuple form)
  | getTupleElement form number => exact inferGetTupleElement_meets form number
  | optimizationBarrier form => exact form
  | returnOp form => exact inferReturn_meets _
  | afterAll form => exact inferToken_meets _ _
  | createToken => exact Ty.FormedAll.single .token
  | send form => exact inferToken_meets _ _
  | outfeed form => exact inferToken_meets _ _
  | partitionId => exact formedAll_processId
  | replicaId => exact formedAll_processId

end Op

end TensorTyping
