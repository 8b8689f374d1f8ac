import TensorTyping.Reducer
import TensorTyping.ReplicaGroups
import TensorTyping.Ty.Form

/-!
# Collective operations

Operations that combine the tensors of several processes, which act in groups.
-/

namespace TensorTyping

namespace Op

/-- A reduction of scalars of the operand; its accumulator is returned. -/
def reduceScalar (operand : Tensor) (computation : Option Region) (operation : String) :
    Check Tensor := do
  let accumulators ← Reducer.verify computation
    (.ofTensors [operand] [Tensor.scalar operand.element] [] operation)
  itemAt accumulators 0

/-- A reduction over the processes of each group. -/
structure AllReduce where
  operand : Ty
  groups : Payload
  computation : Option Region
  deriving Repr, Inhabited

/-- A reduction over groups keeps the shape. Groups may differ in size. -/
def AllReduce.infer (op : AllReduce) : Check (List Ty) := do
  let operand ← op.operand.needTensor "operand"
  let _ ← ReplicaGroups.verify op.groups false
  let accumulator ← reduceScalar operand op.computation "all_reduce"
  return [.tensor accumulator.element operand.shape]

/-- An exchange: each process splits its tensor, and joins the parts that it receives. -/
structure AllToAll where
  operand : Ty
  splitDimension : Payload
  concatDimension : Payload
  splitCount : Payload
  groups : Payload
  deriving Repr, Inhabited

/-- The extents after one of them is replaced, if it is known. -/
def replaceKnown (dims : List Extent) (index : Int) (replace : Int → Check Int) :
    Check (List Extent) := do
  match ← itemAt dims index with
  | none => return dims
  | some n => setItem dims index (some (← replace n))

/-- The extents after one dimension is split into `count` parts and another is `count` times as
    long. -/
def exchangedDims (dims : List Extent) (split concat count : Int) : Check (List Extent) := do
  let divided ← replaceKnown dims split (floorDiv · count)
  replaceKnown divided concat fun n => .ok (n * count)

/-- The extent of one part, as far as the whole is known. -/
def partExtent (extent : Extent) (count : Payload) : Check Payload :=
  match extent with
  | none => .ok .null
  | some n => count.share n

/-- The tensor after an exchange. Parts that are counted by a real number would leave real extents,
    which no tensor has. -/
def exchange (operand : Tensor) (dims : List Extent) (split concat : Int) (count : Payload) :
    Check Tensor := do
  match count with
  | .real _ =>
      let divided ← partExtent (← itemAt dims split) count
      let items ← setItem (dims.map Payload.ofExtent) split divided
      let multiplied ← (← itemAt items concat).times count
      Tensor.read operand.element (.list (← setItem items concat multiplied))
  | _ =>
      let exchanged ← exchangedDims dims split concat (← count.needInt)
      Tensor.form operand.element (.ranked exchanged)

/-- The dimension is a position below the rank. -/
def AllToAll.ensureDimension (rank : Nat) (name : String) (dimension : Payload) : Check Unit := do
  let inRange ← dimension.isWithin 0 rank
  ensure inRange .invalidDimensionMapping
    s!"AllToAll {name} {dimension.display} is out-of-bounds for input rank {rank}"

/-- The extent is unknown or a multiple of the number of parts. -/
def AllToAll.ensureMultiple (extent : Extent) (count : Payload) : Check Unit := do
  match extent with
  | none => return ()
  | some n =>
      let multiple ← count.divides n
      ensure multiple .incompatibleShape
        (s!"split dimension has size {n}, expected to be a multiple of " ++
          s!"split_count {count.display}")

/-- An exchange divides one dimension by the number of parts and multiplies another by it. -/
def AllToAll.infer (op : AllToAll) : Check (List Ty) := do
  let operand ← op.operand.needTensor "operand"
  let count := op.splitCount
  let tooSmall ← count.isAtMost 0
  ensure (!tooSmall) .invalidAttributeValue
    s!"AllToAll split_count must be > 0, got {count.display}"
  let _ ← ReplicaGroups.verify op.groups true count
  match operand.shape with
  | .unranked => return [operand.ty]
  | .ranked dims =>
      ensureDimension dims.length "split_dimension" op.splitDimension
      ensureDimension dims.length "concat_dimension" op.concatDimension
      let split ← op.splitDimension.needInt
      ensureMultiple (← itemAt dims split) count
      let concat ← op.concatDimension.needInt
      return [(← exchange operand dims split concat count).ty]

/-- A reduction over groups whose result is spread over the processes of the group. -/
structure ReduceScatter where
  operand : Ty
  scatterDimension : Payload
  groups : Payload
  computation : Option Region
  result : Option Ty := none
  deriving Repr, Inhabited

/-- The extent that each of `size` processes gets. -/
def ReduceScatter.spreadExtent (n : Int) (size : Nat) : Check Int := do
  let left ← floorMod n size
  ensure (left = 0) .incompatibleShape
    (s!"operand scatter dimension has size {n}, expected to be a multiple " ++
      s!"of replica group size {size}")
  floorDiv n size

/-- The extents after one dimension is spread over `size` processes. -/
def ReduceScatter.spreadDims (dims : List Extent) (dimension : Int) (size : Nat) :
    Check (List Extent) :=
  replaceKnown dims dimension (spreadExtent · size)

/-- The operand with one dimension divided by the size of a group. Without a rank there is nothing
    to divide. -/
def ReduceScatter.spread (op : ReduceScatter) (element : Ty) (shape : Shape)
    (rows : List (List Int)) : Check Tensor := do
  match shape with
  | .unranked => return .unranked element
  | .ranked dims =>
      ensure (dims.length ≠ 0) .incompatibleShape "operand cannot be a scalar"
      let inRange ← op.scatterDimension.isPosition (some dims.length)
      ensure inRange .invalidDimensionMapping
        (s!"scatter dim should be less than operand rank: {op.scatterDimension.display} vs " ++
          s!"{dims.length}")
      let size ← ReplicaGroups.groupSize rows
      let divided ← spreadDims dims (← op.scatterDimension.needInt) size
      Tensor.form element (.ranked divided)

/-- A reduction that is spread over groups divides one dimension by the size of a group. -/
def ReduceScatter.infer (op : ReduceScatter) : Check (List Ty) := do
  let operand ← op.operand.needTensor "operand"
  let negative ← op.scatterDimension.isBelow 0
  ensure (!negative) .invalidDimensionMapping "expects scatter_dimension >= 0"
  let rows ← ReplicaGroups.verify op.groups true
  let accumulator ← reduceScalar operand op.computation "reduce_scatter"
  let inferred ← op.spread accumulator.element operand.shape rows
  return [← inferred.ty.settle op.result "reduce_scatter"]

/-- Every process sends to at most one other and receives from at most one; ids are not negative. A
    row that is no pair cannot be taken apart. -/
def verifyPairs (sources targets : List Int) : List (List Int) → Check Unit
  | [source, target] :: rest => do
      ensure (0 ≤ source ∧ 0 ≤ target) .invalidAttributeValue
        (s!"replica ids in source_target_pairs must be >= 0, got ({source}, " ++
          s!"{target})")
      ensure (!sources.contains source) .invalidAttributeValue
        s!"duplicate sources not allowed: {source}"
      ensure (!targets.contains target) .invalidAttributeValue
        s!"duplicate targets not allowed: {target}"
      verifyPairs (source :: sources) (target :: targets) rest
  | _ :: _ => misuse .unusableValue
  | [] => .ok ()

/-- A permutation of tensors among processes keeps the type. -/
def inferCollectivePermute (operand : Ty) (pairs : Payload) : Check (List Ty) := do
  let operand ← operand.needTensor "operand"
  verifyPairs [] [] (← pairs.decodeTable "source_target_pairs" (.int 2))
  return [operand.ty]

end Op

end TensorTyping
