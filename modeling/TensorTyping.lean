import TensorTyping.Assembly
import TensorTyping.Broadcast
import TensorTyping.Catalog
import TensorTyping.Diagnostic
import TensorTyping.Dimensions
import TensorTyping.Fault
import TensorTyping.Indexing.DynamicSlice
import TensorTyping.Indexing.Gather
import TensorTyping.Indexing.Mapping
import TensorTyping.Indexing.Scatter
import TensorTyping.Items
import TensorTyping.Location
import TensorTyping.Number.Binary64
import TensorTyping.Number.Decimal
import TensorTyping.Number.Numeral
import TensorTyping.Op
import TensorTyping.Op.Broadcasting
import TensorTyping.Op.Collective
import TensorTyping.Op.Control
import TensorTyping.Op.Conversion
import TensorTyping.Op.Convolution
import TensorTyping.Op.Creation
import TensorTyping.Op.Dot
import TensorTyping.Op.Elementwise
import TensorTyping.Op.Indexing
import TensorTyping.Op.LinearAlgebra
import TensorTyping.Op.Normalization
import TensorTyping.Op.Pooling
import TensorTyping.Op.Precision
import TensorTyping.Op.Reduction
import TensorTyping.Op.Reshaping
import TensorTyping.Op.Slicing
import TensorTyping.Outcome
import TensorTyping.Payload.Basic
import TensorTyping.Payload.Convert
import TensorTyping.Payload.Decode
import TensorTyping.Payload.Grid
import TensorTyping.Payload.Order
import TensorTyping.Proofs.Broadcast
import TensorTyping.Proofs.Broadcast.Algebra
import TensorTyping.Proofs.Broadcast.Composition
import TensorTyping.Proofs.Broadcast.Concrete
import TensorTyping.Proofs.Check
import TensorTyping.Proofs.Collective.Exchange
import TensorTyping.Proofs.Collective.ReplicaGroups
import TensorTyping.Proofs.Concatenation
import TensorTyping.Proofs.Concatenation.Joining
import TensorTyping.Proofs.Control.Loop
import TensorTyping.Proofs.Convolution.Conservation
import TensorTyping.Proofs.Convolution.Layout
import TensorTyping.Proofs.Convolution.Products
import TensorTyping.Proofs.Dimensions
import TensorTyping.Proofs.Dropping
import TensorTyping.Proofs.Indexing.Composition
import TensorTyping.Proofs.Indexing.Duality
import TensorTyping.Proofs.Indexing.DynamicGather
import TensorTyping.Proofs.Indexing.IntegerIndices
import TensorTyping.Proofs.Indexing.Mapping
import TensorTyping.Proofs.Indexing.Positions
import TensorTyping.Proofs.Indexing.SliceAsGather
import TensorTyping.Proofs.Indexing.Variadic
import TensorTyping.Proofs.Indexing.WriteBack
import TensorTyping.Proofs.Items
import TensorTyping.Proofs.Layout
import TensorTyping.Proofs.Matching
import TensorTyping.Proofs.Normalization
import TensorTyping.Proofs.Payload.Decode
import TensorTyping.Proofs.Payload.Format
import TensorTyping.Proofs.Payload.Vectors
import TensorTyping.Proofs.Reduction.Contract
import TensorTyping.Proofs.Reduction.Embedding
import TensorTyping.Proofs.Reduction.Fusion
import TensorTyping.Proofs.Reduction.Operands
import TensorTyping.Proofs.Refinement.Collective
import TensorTyping.Proofs.Refinement.Contraction
import TensorTyping.Proofs.Refinement.Control
import TensorTyping.Proofs.Refinement.Elementwise
import TensorTyping.Proofs.Refinement.Indexing
import TensorTyping.Proofs.Refinement.Inference
import TensorTyping.Proofs.Refinement.Reduction
import TensorTyping.Proofs.Refinement.Reshaping
import TensorTyping.Proofs.Refinement.Types
import TensorTyping.Proofs.Refinement.Windowed
import TensorTyping.Proofs.Reinterpretation
import TensorTyping.Proofs.Size
import TensorTyping.Proofs.Slicing
import TensorTyping.Proofs.Slicing.Nesting
import TensorTyping.Proofs.Slicing.Selection
import TensorTyping.Proofs.Totality.Collective
import TensorTyping.Proofs.Totality.Control
import TensorTyping.Proofs.Totality.Elementwise
import TensorTyping.Proofs.Totality.Indexing
import TensorTyping.Proofs.Totality.Inference
import TensorTyping.Proofs.Totality.Payload
import TensorTyping.Proofs.Totality.Reduction
import TensorTyping.Proofs.Totality.Reshaping
import TensorTyping.Proofs.Totality.Types
import TensorTyping.Proofs.Totality.Windowed
import TensorTyping.Proofs.Transposition
import TensorTyping.Proofs.Ty.Elements
import TensorTyping.Proofs.Ty.Printing
import TensorTyping.Proofs.Ty.Refinement
import TensorTyping.Proofs.Ty.Same
import TensorTyping.Proofs.Ty.Static
import TensorTyping.Proofs.Ty.Unification
import TensorTyping.Proofs.Ty.UnifyList
import TensorTyping.Proofs.Ty.WellFormed
import TensorTyping.Proofs.Window.Cascade
import TensorTyping.Proofs.Window.Decoding
import TensorTyping.Proofs.Window.FullExtent
import TensorTyping.Proofs.Window.Padding
import TensorTyping.Proofs.Window.Placements
import TensorTyping.Proofs.Window.Places
import TensorTyping.Proofs.Window.Pooling
import TensorTyping.Proofs.Window.Sizes
import TensorTyping.Record
import TensorTyping.Reducer
import TensorTyping.Region
import TensorTyping.ReplicaGroups
import TensorTyping.Shape
import TensorTyping.Text
import TensorTyping.Ty.Basic
import TensorTyping.Ty.Compat
import TensorTyping.Ty.Form
import TensorTyping.Window.Basic
import TensorTyping.Window.Decode
