import TensorTyping.Op
import TensorTyping.Proofs.Refinement.Collective
import TensorTyping.Proofs.Refinement.Contraction
import TensorTyping.Proofs.Refinement.Control
import TensorTyping.Proofs.Refinement.Elementwise
import TensorTyping.Proofs.Refinement.Indexing
import TensorTyping.Proofs.Refinement.Reshaping

/-!
# Inference on partially known types

`Op.Refines` relates two operations that are equal up to what is known of their types: those of the
operands, of a declared result, and of the regions of branches and loops. Inference on the coarser
operation approximates inference on the finer one: where the finer operation has result types, so
has the coarser one, and the former refine the latter.
-/

namespace TensorTyping

open Check (Carries)

/-- The operations are equal, except that the types in the first refine those in the second. Bodies
    of reductions, computations and comparators are compared with scalars and stay as they are. -/
inductive Op.Refines : Op → Op → Prop
  | unary {t' t : Ty} (kind : UnaryKind) (h : t'.Refines t) :
      Refines (.unary kind t') (.unary kind t)
  | binary {l' l r' r : Ty} (kind : BinaryKind) (broadcast : Bool) (hl : l'.Refines l)
      (hr : r'.Refines r) :
      Refines (.binary ⟨kind, l', r', broadcast⟩) (.binary ⟨kind, l, r, broadcast⟩)
  | abs {t' t : Ty} (h : t'.Refines t) : Refines (.abs t') (.abs t)
  | real {t' t : Ty} (h : t'.Refines t) : Refines (.real t') (.real t)
  | imag {t' t : Ty} (h : t'.Refines t) : Refines (.imag t') (.imag t)
  | complex {l' l r' r : Ty} (hl : l'.Refines l) (hr : r'.Refines r) :
      Refines (.complex l' r') (.complex l r)
  | compare {l' l r' r : Ty} (direction compareType : Payload) (hl : l'.Refines l)
      (hr : r'.Refines r) :
      Refines (.compare ⟨l', r', direction, compareType⟩) (.compare ⟨l, r, direction, compareType⟩)
  | convert {t' t e' e : Ty} (h : t'.Refines t) (he : e'.Refines e) :
      Refines (.convert t' e') (.convert t e)
  | isFinite {t' t : Ty} (h : t'.Refines t) : Refines (.isFinite t') (.isFinite t)
  -- Only a tensor over an element type can be formed; the element type of a selection is looked at.
  | select {p' p t' t f' f : Ty} (hp : p'.Refines p) (ht : t'.Refines t) (hf : f'.Refines f)
      (formed : ∀ element shape, t = .tensor element shape → element.isElement = true) :
      Refines (.select ⟨p', t', f'⟩) (.select ⟨p, t, f⟩)
  | clamp {min' min t' t max' max : Ty} (hmin : min'.Refines min) (h : t'.Refines t)
      (hmax : max'.Refines max) : Refines (.clamp ⟨min', t', max'⟩) (.clamp ⟨min, t, max⟩)
  | uniformDequantize {t' t : Ty} (h : t'.Refines t) :
      Refines (.uniformDequantize t') (.uniformDequantize t)
  | bitcastConvert {t' t r' r : Ty} (h : t'.Refines t) (hr : r'.Refines r) :
      Refines (.bitcastConvert t' r') (.bitcastConvert t r)
  | broadcast {t' t : Ty} (sizes : Payload) (h : t'.Refines t) :
      Refines (.broadcast t' sizes) (.broadcast t sizes)
  | broadcastInDim {t' t r' r : Ty} (dims : Payload) (h : t'.Refines t) (hr : r'.Refines r) :
      Refines (.broadcastInDim ⟨t', dims, r'⟩) (.broadcastInDim ⟨t, dims, r⟩)
  | dynamicBroadcastInDim {t' t o' o r' r : Ty} (dims expanding nonexpanding : Payload)
      (h : t'.Refines t) (ho : o'.Refines o) (hr : r'.Refines r) :
      Refines (.dynamicBroadcastInDim ⟨t', o', dims, r', expanding, nonexpanding⟩)
        (.dynamicBroadcastInDim ⟨t, o, dims, r, expanding, nonexpanding⟩)
  | concatenate {inputs' inputs : List Ty} (dimension : Payload)
      (h : Ty.RefinesAll inputs' inputs) :
      Refines (.concatenate inputs' dimension) (.concatenate inputs dimension)
  | transpose {t' t : Ty} (permutation : Payload) (h : t'.Refines t) :
      Refines (.transpose t' permutation) (.transpose t permutation)
  | reshape {t' t r' r : Ty} (h : t'.Refines t) (hr : r'.Refines r) :
      Refines (.reshape t' r') (.reshape t r)
  | dynamicReshape {t' t o' o : Ty} {r' r : Option Ty} (h : t'.Refines t) (ho : o'.Refines o)
      (hr : Option.Rel Ty.Refines r' r) :
      Refines (.dynamicReshape ⟨t', o', r'⟩) (.dynamicReshape ⟨t, o, r⟩)
  | pad {t' t v' v : Ty} (low high interior : Payload) (h : t'.Refines t) (hv : v'.Refines v) :
      Refines (.pad ⟨t', v', low, high, interior⟩) (.pad ⟨t, v, low, high, interior⟩)
  | slice {t' t : Ty} (starts limits strides : Payload) (h : t'.Refines t) :
      Refines (.slice ⟨t', starts, limits, strides⟩) (.slice ⟨t, starts, limits, strides⟩)
  | realDynamicSlice {t' t starts' starts limits' limits strides' strides : Ty} (h : t'.Refines t)
      (hstarts : starts'.Refines starts) (hlimits : limits'.Refines limits)
      (hstrides : strides'.Refines strides) :
      Refines (.realDynamicSlice ⟨t', starts', limits', strides'⟩)
        (.realDynamicSlice ⟨t, starts, limits, strides⟩)
  | reverse {t' t : Ty} (dims : Payload) (h : t'.Refines t) :
      Refines (.reverse t' dims) (.reverse t dims)
  | iota {r' r : Ty} (dimension : Payload) (hr : r'.Refines r) :
      Refines (.iota dimension r') (.iota dimension r)
  | getDimensionSize {t' t : Ty} (dimension : Payload) (h : t'.Refines t) :
      Refines (.getDimensionSize t' dimension) (.getDimensionSize t dimension)
  | constant {e' e : Option Ty} (value : Payload) (h : Option.Rel Ty.Refines e' e) :
      Refines (.constant value e') (.constant value e)
  | gather {t' t i' i : Ty} (dims : Option GatherDims) (sizes : Payload) (h : t'.Refines t)
      (hi : i'.Refines i) : Refines (.gather ⟨t', i', dims, sizes⟩) (.gather ⟨t, i, dims, sizes⟩)
  | dynamicGather {t' t i' i s' s : Ty} (dims : Option GatherDims) (values : Payload)
      (h : t'.Refines t) (hi : i'.Refines i) (hs : s'.Refines s) :
      Refines (.dynamicGather ⟨t', i', s', dims, values⟩) (.dynamicGather ⟨t, i, s, dims, values⟩)
  | scatter {t' t i' i u' u : Ty} (dims : Option ScatterDims) (body : Option Region)
      (h : t'.Refines t) (hi : i'.Refines i) (hu : u'.Refines u) :
      Refines (.scatter ⟨[t'], i', some [u'], dims, body⟩)
        (.scatter ⟨[t], i, some [u], dims, body⟩)
  | dynamicSlice {t' t : Ty} {starts' starts : Option (List Ty)} (sizes : Payload)
      (h : t'.Refines t) (hstarts : Option.Rel Ty.RefinesAll starts' starts) :
      Refines (.dynamicSlice ⟨t', starts', sizes⟩) (.dynamicSlice ⟨t, starts, sizes⟩)
  | dynamicUpdateSlice {t' t u' u : Ty} {starts' starts : Option (List Ty)} (h : t'.Refines t)
      (hu : u'.Refines u) (hstarts : Option.Rel Ty.RefinesAll starts' starts) :
      Refines (.dynamicUpdateSlice t' u' starts') (.dynamicUpdateSlice t u starts)
  | convolution {l' l r' r : Ty} {declared' declared : Option Ty} (dims : Option ConvolutionDims)
      (window : Window.RawAttributes) (features batches precision : Payload) (hl : l'.Refines l)
      (hr : r'.Refines r) (hdeclared : Option.Rel Ty.Refines declared' declared) :
      Refines (.convolution ⟨l', r', dims, window, features, batches, precision, declared'⟩)
        (.convolution ⟨l, r, dims, window, features, batches, precision, declared⟩)
  | dot {l' l r' r : Ty} {declared' declared : Option Ty} (precision : Payload)
      (hl : l'.Refines l) (hr : r'.Refines r)
      (hdeclared : Option.Rel Ty.Refines declared' declared) :
      Refines (.dot ⟨l', r', precision, declared'⟩) (.dot ⟨l, r, precision, declared⟩)
  | dotGeneral {l' l r' r : Ty} {declared' declared : Option Ty} (dims : Option DotDims)
      (precision : Payload) (hl : l'.Refines l) (hr : r'.Refines r)
      (hdeclared : Option.Rel Ty.Refines declared' declared) :
      Refines (.dotGeneral ⟨l', r', dims, precision, declared'⟩)
        (.dotGeneral ⟨l, r, dims, precision, declared⟩)
  | reduceWindow {inputs' inputs : List Ty} {inits' inits : Option (List Ty)} (sizes : Payload)
      (body : Option Region) (window : Window.RawAttributes)
      (hinputs : Ty.RefinesAll inputs' inputs) (hinits : Option.Rel Ty.RefinesAll inits' inits) :
      Refines (.reduceWindow ⟨inputs', inits', sizes, body, window⟩)
        (.reduceWindow ⟨inputs, inits, sizes, body, window⟩)
  | selectAndScatter {t' t s' s i' i : Ty} (select scatter : Option Region)
      (sizes strides padding : Payload) (h : t'.Refines t) (hs : s'.Refines s)
      (hi : i'.Refines i) :
      Refines (.selectAndScatter ⟨t', s', i', select, scatter, sizes, strides, padding⟩)
        (.selectAndScatter ⟨t, s, i, select, scatter, sizes, strides, padding⟩)
  | reduce {inputs' inputs : List Ty} {inits' inits : Option (List Ty)} (dims : Payload)
      (body : Option Region) (hinputs : Ty.RefinesAll inputs' inputs)
      (hinits : Option.Rel Ty.RefinesAll inits' inits) :
      Refines (.reduce ⟨inputs', inits', dims, body⟩) (.reduce ⟨inputs, inits, dims, body⟩)
  | map {inputs' inputs : List Ty} (dims : Payload) (computation : Option Region)
      (hinputs : Ty.RefinesAll inputs' inputs) :
      Refines (.map ⟨inputs', dims, computation⟩) (.map ⟨inputs, dims, computation⟩)
  | sort {inputs' inputs : List Ty} (comparator : Option Region) (dimension : Payload)
      (hinputs : Ty.RefinesAll inputs' inputs) :
      Refines (.sort ⟨inputs', comparator, dimension⟩) (.sort ⟨inputs, comparator, dimension⟩)
  | allReduce {t' t : Ty} (groups : Payload) (computation : Option Region) (h : t'.Refines t) :
      Refines (.allReduce ⟨t', groups, computation⟩) (.allReduce ⟨t, groups, computation⟩)
  | allToAll {t' t : Ty} (split concat count groups : Payload) (h : t'.Refines t) :
      Refines (.allToAll ⟨t', split, concat, count, groups⟩)
        (.allToAll ⟨t, split, concat, count, groups⟩)
  | reduceScatter {t' t : Ty} {declared' declared : Option Ty} (dimension groups : Payload)
      (computation : Option Region) (h : t'.Refines t)
      (hdeclared : Option.Rel Ty.Refines declared' declared) :
      Refines (.reduceScatter ⟨t', dimension, groups, computation, declared'⟩)
        (.reduceScatter ⟨t, dimension, groups, computation, declared⟩)
  | collectivePermute {t' t : Ty} (pairs : Payload) (h : t'.Refines t) :
      Refines (.collectivePermute t' pairs) (.collectivePermute t pairs)
  | batchNormTraining {t' t s' s o' o : Ty} (attributes : NormAttributes) (h : t'.Refines t)
      (hs : s'.Refines s) (ho : o'.Refines o) :
      Refines (.batchNormTraining ⟨t', s', o', attributes⟩)
        (.batchNormTraining ⟨t, s, o, attributes⟩)
  | batchNormInference {t' t s' s o' o m' m v' v : Ty} (attributes : NormAttributes)
      (h : t'.Refines t) (hs : s'.Refines s) (ho : o'.Refines o) (hm : m'.Refines m)
      (hv : v'.Refines v) :
      Refines (.batchNormInference ⟨t', s', o', m', v', attributes⟩)
        (.batchNormInference ⟨t, s, o, m, v, attributes⟩)
  | batchNormGrad {t' t s' s m' m v' v g' g : Ty} (attributes : NormAttributes) (h : t'.Refines t)
      (hs : s'.Refines s) (hm : m'.Refines m) (hv : v'.Refines v) (hg : g'.Refines g) :
      Refines (.batchNormGrad ⟨t', s', m', v', g', attributes⟩)
        (.batchNormGrad ⟨t, s, m, v, g, attributes⟩)
  | cholesky {t' t : Ty} (h : t'.Refines t) : Refines (.cholesky t') (.cholesky t)
  | triangularSolve {a' a b' b : Ty} (leftSide : Bool) (transposeA : Payload) (ha : a'.Refines a)
      (hb : b'.Refines b) :
      Refines (.triangularSolve ⟨a', b', leftSide, transposeA⟩)
        (.triangularSolve ⟨a, b, leftSide, transposeA⟩)
  | ifOp {p' p : Ty} {t' t f' f : Option Region} (hp : p'.Refines p)
      (ht : Option.Rel Region.Refines t' t) (hf : Option.Rel Region.Refines f' f) :
      Refines (.ifOp ⟨p', t', f'⟩) (.ifOp ⟨p, t, f⟩)
  | caseOp {i' i : Ty} {branches' branches : List (Option Region)} (hi : i'.Refines i)
      (h : List.Forall₂ (Option.Rel Region.Refines) branches' branches) :
      Refines (.caseOp i' branches') (.caseOp i branches)
  | whileOp {operands' operands : List Ty} {c' c b' b : Option Region}
      (h : Ty.RefinesAll operands' operands) (hc : Option.Rel Region.Refines c' c)
      (hb : Option.Rel Region.Refines b' b) :
      Refines (.whileOp ⟨operands', c', b'⟩) (.whileOp ⟨operands, c, b⟩)
  | tuple {values' values : List Ty} (h : Ty.RefinesAll values' values) :
      Refines (.tuple values') (.tuple values)
  | getTupleElement {t' t : Ty} (index : Payload) (h : t'.Refines t) :
      Refines (.getTupleElement t' index) (.getTupleElement t index)
  | optimizationBarrier {operands' operands : List Ty} (h : Ty.RefinesAll operands' operands) :
      Refines (.optimizationBarrier operands') (.optimizationBarrier operands)
  | returnOp {values' values : List Ty} (h : Ty.RefinesAll values' values) :
      Refines (.returnOp values') (.returnOp values)
  | afterAll {inputs' inputs : List Ty} (h : Ty.RefinesAll inputs' inputs) :
      Refines (.afterAll inputs') (.afterAll inputs)
  | createToken : Refines .createToken .createToken
  | send {t' t : Ty} (h : t'.Refines t) : Refines (.send t') (.send t)
  | outfeed {t' t : Ty} (h : t'.Refines t) : Refines (.outfeed t') (.outfeed t)
  | partitionId : Refines .partitionId .partitionId
  | replicaId : Refines .replicaId .replicaId

namespace Op

/-- Each kind of operation carries the success of the finer operation over to the coarser one. -/
theorem Refines.infer_carries {fine coarse : Op} (h : fine.Refines coarse) :
    Carries Ty.RefinesAll fine.infer coarse.infer := by
  cases h with
  | unary kind h => exact inferUnary_carries kind h
  | binary kind broadcast hl hr => exact Binary.infer_carries kind broadcast hl hr
  | abs h => exact inferAbs_carries h
  | real h => exact inferComplexPart_carries _ h
  | imag h => exact inferComplexPart_carries _ h
  | complex hl hr => exact inferComplex_carries hl hr
  | compare direction compareType hl hr => exact Compare.infer_carries direction compareType hl hr
  | convert h he => exact inferConvert_carries h he
  | isFinite h => exact inferIsFinite_carries h
  | select hp ht hf formed => exact Select.infer_carries hp ht hf formed
  | clamp hmin h hmax => exact Clamp.infer_carries hmin h hmax
  | uniformDequantize h => exact inferUniformDequantize_carries h
  | bitcastConvert h hr => exact inferBitcastConvert_carries h hr
  | broadcast sizes h => exact inferBroadcast_carries sizes h
  | broadcastInDim dims h hr => exact BroadcastInDim.infer_carries dims h hr
  | dynamicBroadcastInDim dims expanding nonexpanding h ho hr =>
    exact DynamicBroadcastInDim.infer_carries h ho hr
  | concatenate dimension h => exact inferConcatenate_carries dimension h
  | transpose permutation h => exact inferTranspose_carries permutation h
  | reshape h hr => exact inferReshape_carries h hr
  | dynamicReshape h ho hr => exact DynamicReshape.infer_carries h ho hr
  | pad low high interior h hv => exact Pad.infer_carries low high interior h hv
  | slice starts limits strides h => exact Slice.infer_carries starts limits strides h
  | realDynamicSlice h hstarts hlimits hstrides =>
    exact RealDynamicSlice.infer_carries h hstarts hlimits hstrides
  | reverse dims h => exact inferReverse_carries dims h
  | iota dimension hr => exact inferIota_carries dimension hr
  | getDimensionSize dimension h => exact inferGetDimensionSize_carries dimension h
  | constant value h => exact inferConstant_carries value h
  | gather dims sizes h hi => exact GatherSlices.infer_carries dims sizes h hi
  | dynamicGather dims values h hi hs => exact DynamicGather.infer_carries dims values h hi hs
  | scatter dims body h hi hu => exact ScatterUpdates.infer_carries dims body h hi hu
  | dynamicSlice sizes h hstarts => exact SliceAt.infer_carries sizes h hstarts
  | dynamicUpdateSlice h hu hstarts => exact inferDynamicUpdateSlice_carries h hu hstarts
  | convolution dims window features batches precision hl hr hdeclared =>
    exact Convolution.infer_carries dims window features batches precision hl hr hdeclared
  | dot precision hl hr hdeclared => exact Dot.infer_carries precision hl hr hdeclared
  | dotGeneral dims precision hl hr hdeclared =>
    exact DotGeneral.infer_carries dims precision hl hr hdeclared
  | reduceWindow sizes body window hinputs hinits =>
    exact ReduceWindow.infer_carries sizes body window hinputs hinits
  | selectAndScatter select scatter sizes strides padding h hs hi =>
    exact SelectAndScatter.infer_carries select scatter sizes strides padding h hs hi
  | reduce dims body hinputs hinits => exact Reduce.infer_carries dims body hinputs hinits
  | map dims computation hinputs => exact MapElements.infer_carries dims computation hinputs
  | sort comparator dimension hinputs =>
    exact SortTensors.infer_carries comparator dimension hinputs
  | allReduce groups computation h => exact AllReduce.infer_carries groups computation h
  | allToAll split concat count groups h => exact AllToAll.infer_carries split concat count groups h
  | reduceScatter dimension groups computation h hdeclared =>
    exact ReduceScatter.infer_carries dimension groups computation h hdeclared
  | collectivePermute pairs h => exact inferCollectivePermute_carries pairs h
  | batchNormTraining attributes h hs ho => exact BatchNormTraining.infer_carries attributes h hs ho
  | batchNormInference attributes h hs ho hm hv =>
    exact BatchNormInference.infer_carries attributes h hs ho hm hv
  | batchNormGrad attributes h hs hm hv hg =>
    exact BatchNormGrad.infer_carries attributes h hs hm hv hg
  | cholesky h => exact inferCholesky_carries h
  | triangularSolve leftSide transposeA ha hb =>
    exact TriangularSolve.infer_carries leftSide transposeA ha hb
  | ifOp hp ht hf => exact If.infer_carries hp ht hf
  | caseOp hi h => exact inferCase_carries hi h
  | whileOp h hc hb => exact While.infer_carries h hc hb
  | tuple h => exact .pure (.cons (.tuple h) .nil)
  | getTupleElement index h => exact inferGetTupleElement_carries index h
  | optimizationBarrier h => exact .pure h
  | returnOp h => exact inferReturn_carries h
  | afterAll h => exact inferToken_carries _ h
  | createToken => exact .pure (Ty.RefinesAll.refl _)
  | send h => exact inferToken_carries _ (.cons h .nil)
  | outfeed h => exact inferToken_carries _ (.cons h .nil)
  | partitionId => exact .pure (Ty.RefinesAll.refl _)
  | replicaId => exact .pure (Ty.RefinesAll.refl _)

theorem inferAt_eq_ok {op : Op} {location : Option Location} {types : List Ty} :
    op.inferAt location = .ok types ↔ op.infer = .ok types := by
  unfold inferAt
  split <;> simp_all

/-- Inference on partially known types approximates inference on better known ones: an operation
    has result types when one with finer types has, and these are refined by those of the finer
    operation, one by one. -/
theorem inferAt_of_refines {fine coarse : Op} (refines : fine.Refines coarse)
    (location : Option Location) {types' : List Ty}
    (success : fine.inferAt location = .ok types') :
    ∃ types, coarse.inferAt location = .ok types ∧ Ty.RefinesAll types' types := by
  rw [inferAt_eq_ok] at success
  obtain ⟨types, success', refined⟩ := refines.infer_carries types' success
  exact ⟨types, inferAt_eq_ok.mpr success', refined⟩

/-- Batches of matrices, multiplied with all extents known and with all but two unknown. -/
theorem inferAt_of_refines_matrices :
    let matrices (dims dims' : List Extent) : Op := .dotGeneral
      { lhs := .tensor (.float .f32) (.ranked dims)
        rhs := .tensor (.float .f32) (.ranked dims')
        dimensions := some { lhsBatching := [0], rhsBatching := [0], lhsContracting := [2],
                             rhsContracting := [1] } }
    let fine := matrices [some 2, some 3, some 4] [some 2, some 4, some 5]
    let coarse := matrices [none, none, some 4] [some 2, none, none]
    let product : List Ty := [.tensor (.float .f32) (.ranked [some 2, some 3, some 5])]
    fine.Refines coarse ∧ fine.inferAt none = .ok product ∧
      ∃ types, coarse.inferAt none = .ok types ∧ Ty.RefinesAll product types := by
  intro matrices fine coarse product
  have left : RefinesDims [some 2, some 3, some 4] [none, none, some 4] :=
    .cons (.unknown _) (.cons (.unknown _) (.cons (.refl _) .nil))
  have right : RefinesDims [some 2, some 4, some 5] [some 2, none, none] :=
    .cons (.refl _) (.cons (.unknown _) (.cons (.unknown _) .nil))
  have refines : fine.Refines coarse :=
    .dotGeneral _ _ (.tensor rfl (.ranked left)) (.tensor rfl (.ranked right)) .none
  have success : fine.inferAt none = .ok product := rfl
  exact ⟨refines, success, inferAt_of_refines refines none success⟩

end Op

end TensorTyping
