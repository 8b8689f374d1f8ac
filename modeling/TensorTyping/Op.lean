import TensorTyping.Catalog
import TensorTyping.Op.Collective
import TensorTyping.Op.Control
import TensorTyping.Op.Conversion
import TensorTyping.Op.Convolution
import TensorTyping.Op.Creation
import TensorTyping.Op.Dot
import TensorTyping.Op.Indexing
import TensorTyping.Op.LinearAlgebra
import TensorTyping.Op.Normalization
import TensorTyping.Op.Pooling
import TensorTyping.Op.Reshaping
import TensorTyping.Op.Slicing

/-!
# Operations and the inference of their result types

An `Op` is an operation with its operands, attributes and regions. Attributes that have no influence
on types are not kept. `Op.infer` gives the types of the results of an operation, or says why it is
ill-formed.
-/

namespace TensorTyping

/-- An operation. -/
inductive Op where
  | unary (kind : Op.UnaryKind) (operand : Ty)
  | binary (op : Op.Binary)
  | abs (operand : Ty)
  | real (operand : Ty)
  | imag (operand : Ty)
  | complex (lhs rhs : Ty)
  | compare (op : Op.Compare)
  | convert (operand element : Ty)
  | isFinite (operand : Ty)
  | select (op : Op.Select)
  | clamp (op : Op.Clamp)
  | uniformDequantize (operand : Ty)
  | bitcastConvert (operand result : Ty)
  | broadcast (operand : Ty) (sizes : Payload)
  | broadcastInDim (op : Op.BroadcastInDim)
  | dynamicBroadcastInDim (op : Op.DynamicBroadcastInDim)
  | concatenate (inputs : List Ty) (dimension : Payload)
  | transpose (operand : Ty) (permutation : Payload)
  | reshape (operand result : Ty)
  | dynamicReshape (op : Op.DynamicReshape)
  | pad (op : Op.Pad)
  | slice (op : Op.Slice)
  | realDynamicSlice (op : Op.RealDynamicSlice)
  | reverse (operand : Ty) (dimensions : Payload)
  | iota (dimension : Payload) (result : Ty)
  | getDimensionSize (operand : Ty) (dimension : Payload)
  | constant (value : Payload) (element : Option Ty)
  | gather (op : Op.GatherSlices)
  | dynamicGather (op : Op.DynamicGather)
  | scatter (op : Op.ScatterUpdates)
  | dynamicSlice (op : Op.SliceAt)
  | dynamicUpdateSlice (operand update : Ty) (starts : Option (List Ty))
  | convolution (op : Op.Convolution)
  | dot (op : Op.Dot)
  | dotGeneral (op : Op.DotGeneral)
  | reduceWindow (op : Op.ReduceWindow)
  | selectAndScatter (op : Op.SelectAndScatter)
  | reduce (op : Op.Reduce)
  | map (op : Op.MapElements)
  | sort (op : Op.SortTensors)
  | allReduce (op : Op.AllReduce)
  | allToAll (op : Op.AllToAll)
  | reduceScatter (op : Op.ReduceScatter)
  | collectivePermute (operand : Ty) (pairs : Payload)
  | batchNormTraining (op : Op.BatchNormTraining)
  | batchNormInference (op : Op.BatchNormInference)
  | batchNormGrad (op : Op.BatchNormGrad)
  | cholesky (a : Ty)
  | triangularSolve (op : Op.TriangularSolve)
  | ifOp (op : Op.If)
  | caseOp (index : Ty) (branches : List (Option Region))
  | whileOp (op : Op.While)
  | tuple (values : List Ty)
  | getTupleElement (operand : Ty) (index : Payload)
  | optimizationBarrier (operands : List Ty)
  | returnOp (values : List Ty)
  | afterAll (inputs : List Ty)
  | createToken
  | send (carrier : Ty)
  | outfeed (carrier : Ty)
  | partitionId
  | replicaId
  deriving Repr, Inhabited

namespace Op

/-- The catalog entry of an operation. -/
def kind : Op → OpKind
  | .unary .. => .unaryElementwise
  | .binary _ => .binaryElementwise
  | .abs _ => .abs
  | .real _ => .real
  | .imag _ => .imag
  | .complex .. => .complex
  | .compare _ => .compare
  | .convert .. => .convert
  | .isFinite _ => .isFinite
  | .select _ => .select
  | .clamp _ => .clamp
  | .uniformDequantize _ => .uniformDequantize
  | .bitcastConvert .. => .bitcastConvert
  | .broadcast .. => .broadcast
  | .broadcastInDim _ => .broadcastInDim
  | .dynamicBroadcastInDim _ => .dynamicBroadcastInDim
  | .concatenate .. => .concatenate
  | .transpose .. => .transpose
  | .reshape .. => .reshape
  | .dynamicReshape _ => .dynamicReshape
  | .pad _ => .pad
  | .slice _ => .slice
  | .realDynamicSlice _ => .realDynamicSlice
  | .reverse .. => .reverse
  | .iota .. => .iota
  | .getDimensionSize .. => .getDimensionSize
  | .constant .. => .constant
  | .gather _ => .gather
  | .dynamicGather _ => .dynamicGather
  | .scatter _ => .scatter
  | .dynamicSlice _ => .dynamicSlice
  | .dynamicUpdateSlice .. => .dynamicUpdateSlice
  | .convolution _ => .convolution
  | .dot _ => .dot
  | .dotGeneral _ => .dotGeneral
  | .reduceWindow _ => .reduceWindow
  | .selectAndScatter _ => .selectAndScatter
  | .reduce _ => .reduce
  | .map _ => .map
  | .sort _ => .sort
  | .allReduce _ => .allReduce
  | .allToAll _ => .allToAll
  | .reduceScatter _ => .reduceScatter
  | .collectivePermute .. => .collectivePermute
  | .batchNormTraining _ => .batchNormTraining
  | .batchNormInference _ => .batchNormInference
  | .batchNormGrad _ => .batchNormGrad
  | .cholesky _ => .cholesky
  | .triangularSolve _ => .triangularSolve
  | .ifOp _ => .ifOp
  | .caseOp .. => .caseOp
  | .whileOp _ => .whileOp
  | .tuple _ => .tuple
  | .getTupleElement .. => .getTupleElement
  | .optimizationBarrier _ => .optimizationBarrier
  | .returnOp _ => .returnOp
  | .afterAll _ => .afterAll
  | .createToken => .createToken
  | .send _ => .send
  | .outfeed _ => .outfeed
  | .partitionId => .partitionId
  | .replicaId => .replicaId

/-- The types of the results of an operation. -/
def infer : Op → Check (List Ty)
  | .unary kind operand => inferUnary kind operand
  | .binary op => op.infer
  | .abs operand => inferAbs operand
  | .real operand => inferComplexPart operand "real"
  | .imag operand => inferComplexPart operand "imag"
  | .complex lhs rhs => inferComplex lhs rhs
  | .compare op => op.infer
  | .convert operand element => inferConvert operand element
  | .isFinite operand => inferIsFinite operand
  | .select op => op.infer
  | .clamp op => op.infer
  | .uniformDequantize operand => inferUniformDequantize operand
  | .bitcastConvert operand result => inferBitcastConvert operand result
  | .broadcast operand sizes => inferBroadcast operand sizes
  | .broadcastInDim op => op.infer
  | .dynamicBroadcastInDim op => op.infer
  | .concatenate inputs dimension => inferConcatenate inputs dimension
  | .transpose operand permutation => inferTranspose operand permutation
  | .reshape operand result => inferReshape operand result
  | .dynamicReshape op => op.infer
  | .pad op => op.infer
  | .slice op => op.infer
  | .realDynamicSlice op => op.infer
  | .reverse operand dimensions => inferReverse operand dimensions
  | .iota dimension result => inferIota dimension result
  | .getDimensionSize operand dimension => inferGetDimensionSize operand dimension
  | .constant value element => inferConstant value element
  | .gather op => op.infer
  | .dynamicGather op => op.infer
  | .scatter op => op.infer
  | .dynamicSlice op => op.infer
  | .dynamicUpdateSlice operand update starts => inferDynamicUpdateSlice operand update starts
  | .convolution op => op.infer
  | .dot op => op.infer
  | .dotGeneral op => op.infer
  | .reduceWindow op => op.infer
  | .selectAndScatter op => op.infer
  | .reduce op => op.infer
  | .map op => op.infer
  | .sort op => op.infer
  | .allReduce op => op.infer
  | .allToAll op => op.infer
  | .reduceScatter op => op.infer
  | .collectivePermute operand pairs => inferCollectivePermute operand pairs
  | .batchNormTraining op => op.infer
  | .batchNormInference op => op.infer
  | .batchNormGrad op => op.infer
  | .cholesky a => inferCholesky a
  | .triangularSolve op => op.infer
  | .ifOp op => op.infer
  | .caseOp index branches => inferCase index branches
  | .whileOp op => op.infer
  | .tuple values => .ok [.tuple values]
  | .getTupleElement operand index => inferGetTupleElement operand index
  | .optimizationBarrier operands => .ok operands
  | .returnOp values => inferReturn values
  | .afterAll inputs => inferToken inputs "after_all input"
  | .createToken => .ok [.token]
  | .send carrier => inferToken [carrier] "send token"
  | .outfeed carrier => inferToken [carrier] "outfeed token"
  | .partitionId => .ok processId
  | .replicaId => .ok processId

/-- The types of the results of an operation at a location, which its diagnostic then carries. -/
def inferAt (op : Op) (location : Option Location) : Check (List Ty) :=
  match op.infer with
  | .ok types => .ok types
  | .error (.diagnostic d) => .error (.diagnostic (d.locate location))
  | .error fault => .error fault

end Op

end TensorTyping
