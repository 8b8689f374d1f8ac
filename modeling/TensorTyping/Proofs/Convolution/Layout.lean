import TensorTyping.Op.Convolution
import TensorTyping.Proofs.Layout
import TensorTyping.Proofs.Totality.Payload
import TensorTyping.Proofs.Ty.WellFormed

/-!
# Convolutions in other layouts

The dimension numbers of a convolution say which dimension plays which role, so it does not matter
in which order the dimensions are stored. When input and kernel are transposed, the dimension
numbers are renamed to the new places and those of the output are renamed as well, the convolution
ends as before: it is refused for the same cause, or its result is the former result, transposed.
-/

namespace TensorTyping

/-- The payload is the number of a dimension of a tensor of the given rank. -/
def Payload.IsDimension (payload : Payload) (rank : Nat) : Prop :=
  ∃ d, payload.needInt = .ok d ∧ 0 ≤ d ∧ d < rank

namespace Payload

theorem same_of_needInt {a b : Payload} {m n : Int} (first : a.needInt = .ok m)
    (second : b.needInt = .ok n) : a.same b = decide (m = n) := by
  cases a with
  | int _ | bool _ =>
    obtain rfl := Except.ok.inj first
    exact isInt_of_needInt second
  | _ => simp [needInt] at first

theorem any_same {payload : Payload} {n : Int} {payloads : List Payload} {numbers : List Int}
    (value : payload.needInt = .ok n)
    (values : List.Forall₂ (fun payload n => payload.needInt = .ok n) payloads numbers) :
    payloads.any payload.same = decide (n ∈ numbers) := by
  induction values with
  | nil => simp
  | cons first _ ih => simp [ih, same_of_needInt value first]

/-- Payloads that are integers are distinct when the integers are. -/
theorem areDistinct_eq {payloads : List Payload} {numbers : List Int}
    (values : List.Forall₂ (fun payload n => payload.needInt = .ok n) payloads numbers) :
    areDistinct payloads = .ok (decide numbers.Nodup) := by
  have integral : ∀ payload ∈ payloads, payload.Integral := by
    intro payload member
    obtain ⟨n, -, value⟩ := Check.exists_left_of_forall₂ values.flip member
    exact ⟨n, value⟩
  rw [areDistinct_of_integral integral, Except.ok.injEq]
  clear integral
  induction values with
  | nil => rfl
  | cons first rest ih => simp [areDistinct.distinct, ih, any_same first rest]

end Payload

namespace Layout

variable {rank : Nat} (layout : Layout rank) {payload : Payload} {d : Int}

/-- The number of a dimension, renamed to its place. -/
def rename (payload : Payload) : Payload :=
  match payload.needInt with
  | .ok d => .int (layout.place d)
  | .error _ => payload

theorem needInt_rename (value : payload.needInt = .ok d) :
    (layout.rename payload).needInt = .ok (layout.place d) := by
  rw [rename, value]
  rfl

/-- A dimension has its former extent at its place. -/
theorem dim_place (element : Ty) {dims : List Extent} (length : dims.length = rank)
    (inRange : 0 ≤ d ∧ d < rank) :
    (⟨element, .ranked (layout.arrange dims)⟩ : Tensor).dim (layout.place d) =
      (⟨element, .ranked dims⟩ : Tensor).dim d := by
  obtain ⟨nonneg, below⟩ := layout.place_inRange inRange
  have moved := itemAt_eq_join nonneg (by rwa [layout.length_arrange dims])
  have former := itemAt_eq_join inRange.1 (by rw [length]; exact inRange.2)
  rw [layout.arrange_place dims inRange] at moved
  exact moved.trans former.symm

theorem dimAt_rename (element : Ty) {dims : List Extent} (length : dims.length = rank)
    (inRange : payload.IsDimension rank) :
    (⟨element, .ranked (layout.arrange dims)⟩ : Tensor).dimAt (layout.rename payload) =
      (⟨element, .ranked dims⟩ : Tensor).dimAt payload := by
  obtain ⟨d, value, bounds⟩ := inRange
  have kept := layout.dim_place element length bounds
  simp only [Tensor.dim] at kept
  simp only [Tensor.dimAt, layout.needInt_rename value, value, Check.ok_bind, kept]

theorem collect_dim_place (element : Ty) {dims : List Extent} (length : dims.length = rank)
    {listed : List Int} (inRange : ∀ d ∈ listed, 0 ≤ d ∧ d < rank) :
    collect (⟨element, .ranked (layout.arrange dims)⟩ : Tensor).dim (listed.map layout.place) =
      collect (⟨element, .ranked dims⟩ : Tensor).dim listed := by
  induction listed with
  | nil => rfl
  | cons d rest ih =>
    obtain ⟨here, others⟩ := List.forall_mem_cons.mp inRange
    rw [List.map_cons, Check.collect_cons, Check.collect_cons, ih others,
      layout.dim_place element length here]

/-- Writing extents to dimensions is writing them to the places of the dimensions. -/
theorem exists_setItems {dims : List Extent} (length : dims.length = rank)
    {values : List (Int × Extent)} (inRange : ∀ value ∈ values, 0 ≤ value.1 ∧ value.1 < rank) :
    ∃ result, setItems dims values = .ok result ∧ result.length = rank ∧
      setItems (layout.arrange dims) (values.map (Prod.map layout.place id)) =
        .ok (layout.arrange result) := by
  induction values generalizing dims with
  | nil => exact ⟨dims, rfl, length, rfl⟩
  | cons value rest ih =>
    obtain ⟨here, others⟩ := List.forall_mem_cons.mp inRange
    obtain ⟨nonneg, below⟩ := layout.place_inRange here
    have written : (dims.set value.1.toNat value.2).length = rank := by
      rw [List.length_set, length]
    obtain ⟨result, success, same, moved⟩ := ih written others
    rw [layout.arrange_set length here] at moved
    refine ⟨result, ?_, same, ?_⟩
    · rw [setItems, setItem_of_inside here.1 (by rw [length]; exact here.2), Check.ok_bind, success]
    · rw [List.map_cons, setItems, Prod.map_fst, Prod.map_snd,
        setItem_of_inside nonneg (by rwa [layout.length_arrange dims]), Check.ok_bind]
      exact moved

/-- Extents that make a tensor also do so in another order. -/
theorem form_matches (element : Ty) {dims : List Extent} (length : dims.length = rank) :
    Check.Matches
      (fun t t' => t = ⟨element, .ranked dims⟩ ∧ t' = ⟨element, .ranked (layout.arrange dims)⟩)
      (Tensor.form element (.ranked dims))
      (Tensor.form element (.ranked (layout.arrange dims))) := by
  have same : (Shape.ranked dims).badExtent? = none ↔
      (Shape.ranked (layout.arrange dims)).badExtent? = none := by
    simp only [Shape.badExtent?_eq_none, Shape.WellFormed, Shape.ranked.injEq, forall_eq',
      (layout.arrange_perm length).mem_iff]
  unfold Tensor.form
  by_cases isElement : element.isElement = true
  · rw [if_pos isElement, if_pos isElement]
    cases bad : (Shape.ranked dims).badExtent? with
    | none =>
      rw [same.mp bad]
      exact ⟨rfl, rfl⟩
    | some n =>
      cases bad' : (Shape.ranked (layout.arrange dims)).badExtent? with
      | none =>
        rw [same.mpr bad'] at bad
        cases bad
      | some n' => exact rfl
  · rw [if_neg isElement, if_neg isElement]
    exact rfl

end Layout

namespace ConvolutionDims

variable {rank kernelRank : Nat}

/-- The dimension numbers name dimensions of an input and an output of one rank, and of a kernel. -/
structure InRange (dims : ConvolutionDims) (rank kernelRank : Nat) : Prop where
  inputBatch : dims.inputBatch.IsDimension rank
  inputFeature : dims.inputFeature.IsDimension rank
  inputSpatial : ∀ d ∈ dims.inputSpatial, 0 ≤ d ∧ d < rank
  kernelInputFeature : dims.kernelInputFeature.IsDimension kernelRank
  kernelOutputFeature : dims.kernelOutputFeature.IsDimension kernelRank
  kernelSpatial : ∀ d ∈ dims.kernelSpatial, 0 ≤ d ∧ d < kernelRank
  outputBatch : dims.outputBatch.IsDimension rank
  outputFeature : dims.outputFeature.IsDimension rank
  outputSpatial : ∀ d ∈ dims.outputSpatial, 0 ≤ d ∧ d < rank

/-- The dimension numbers after input, kernel and output were brought into other layouts. -/
def relaid (dims : ConvolutionDims) (input : Layout rank) (kernel : Layout kernelRank)
    (output : Layout rank) : ConvolutionDims where
  inputBatch := input.rename dims.inputBatch
  inputFeature := input.rename dims.inputFeature
  inputSpatial := dims.inputSpatial.map input.place
  kernelInputFeature := kernel.rename dims.kernelInputFeature
  kernelOutputFeature := kernel.rename dims.kernelOutputFeature
  kernelSpatial := dims.kernelSpatial.map kernel.place
  outputBatch := output.rename dims.outputBatch
  outputFeature := output.rename dims.outputFeature
  outputSpatial := dims.outputSpatial.map output.place

/-- The roles name every dimension once. -/
def Covers (rank : Nat) (first second : Payload) (spatial : List Int) : Prop :=
  ∃ a b, first.needInt = .ok a ∧ second.needInt = .ok b ∧
    (a :: b :: spatial).Perm (Dimensions.upTo rank)

/-- When the roles name dimensions, all that is left to check is that these are distinct. -/
theorem ensureRoles_eq {what : String} {first second : Payload} {a b : Int} {spatial : List Int}
    (firstValue : first.needInt = .ok a) (secondValue : second.needInt = .ok b)
    (inRange : ∀ d ∈ a :: b :: spatial, 0 ≤ d ∧ d < rank) :
    ∃ message, ensureRoles (.int rank) what first second spatial =
      ensure (a :: b :: spatial).Nodup .invalidDimensionMapping message := by
  have values : List.Forall₂ (fun payload n => payload.needInt = .ok n)
      (first :: second :: spatial.map .int) (a :: b :: spatial) :=
    .cons firstValue (.cons secondValue
      (List.forall₂_map_left_iff.mpr (List.forall₂_same.mpr fun _ _ => rfl)))
  simp only [ensureRoles, Payload.areDistinct_eq values, Check.ok_bind]
  by_cases unique : (a :: b :: spatial).Nodup
  · refine ⟨"", ?_⟩
    simp only [ensure, unique, decide_true, if_true, Check.ok_bind]
    rw [Check.checkAll_eq_ok]
    intro payload member
    obtain ⟨d, inside, value⟩ := Check.exists_left_of_forall₂ values.flip member
    have within : payload.isWithin 0 rank = .ok true := by
      rw [Payload.isWithin, Payload.test_of_needInt value]
      simpa using inRange d inside
    change (payload.isWithin 0 rank >>= _) = _
    rw [within]
    rfl
  · simp only [ensure, unique, decide_false, Bool.false_eq_true, if_false]
    exact ⟨_, rfl⟩

theorem ensureRoles_matches (layout : Layout rank) {what : String} {first second : Payload}
    {spatial : List Int} (firstRange : first.IsDimension rank)
    (secondRange : second.IsDimension rank) (spatialRange : ∀ d ∈ spatial, 0 ≤ d ∧ d < rank)
    (length : spatial.length + 2 = rank) :
    Check.Matches (fun _ _ => Covers rank first second spatial)
      (ensureRoles (.int rank) what first second spatial)
      (ensureRoles (.int rank) what (layout.rename first) (layout.rename second)
        (spatial.map layout.place)) := by
  obtain ⟨a, firstValue, firstBounds⟩ := firstRange
  obtain ⟨b, secondValue, secondBounds⟩ := secondRange
  have inRange : ∀ d ∈ a :: b :: spatial, 0 ≤ d ∧ d < rank :=
    List.forall_mem_cons.mpr ⟨firstBounds, List.forall_mem_cons.mpr ⟨secondBounds, spatialRange⟩⟩
  have inRange' : ∀ d ∈ (a :: b :: spatial).map layout.place, 0 ≤ d ∧ d < rank :=
    List.forall_mem_map.mpr fun d member => layout.place_inRange (inRange d member)
  obtain ⟨message, checked⟩ := @ensureRoles_eq _ what _ _ _ _ _ firstValue secondValue inRange
  obtain ⟨message', checked'⟩ := @ensureRoles_eq _ what _ _ _ _ _
    (layout.needInt_rename firstValue) (layout.needInt_rename secondValue) inRange'
  rw [checked, checked']
  refine (Check.Matches.ensure (layout.nodup_map_place inRange).symm).mono fun _ _ unique => ?_
  exact ⟨a, b, firstValue, secondValue, Dimensions.perm_upTo unique inRange length⟩

theorem ensureSpatialCount_matches (layout : Layout rank) (expected : Int) {what : String}
    (spatial : List Int) :
    Check.Matches (fun _ _ => (spatial.length : Int) = expected)
      (ensureSpatialCount (.int expected) what spatial)
      (ensureSpatialCount (.int expected) what (spatial.map layout.place)) := by
  unfold ensureSpatialCount
  rw [List.length_map]
  refine (Check.Matches.ensure Iff.rfl).mono fun _ _ counted => ?_
  rw [Payload.isInt, beq_iff_eq] at counted
  exact counted.symm

theorem verify_matches {dims : ConvolutionDims} (inRange : dims.InRange rank rank)
    (input kernel output : Layout rank) :
    Check.Matches (fun _ _ => Covers rank dims.outputBatch dims.outputFeature dims.outputSpatial)
      (dims.verify (.int rank)) ((dims.relaid input kernel output).verify (.int rank)) := by
  have enough {spatial : List Int} (counted : (spatial.length : Int) = rank - 2) :
      spatial.length + 2 = rank := by
    omega
  have spatialCount : (Payload.int rank).minus 2 = .ok (.int (rank - 2)) := rfl
  simp only [verify, spatialCount, Check.ok_bind]
  apply (ensureSpatialCount_matches input _ dims.inputSpatial).bind
  intro _ _ inputs
  apply (ensureSpatialCount_matches kernel _ dims.kernelSpatial).bind
  intro _ _ kernels
  apply (ensureSpatialCount_matches output _ dims.outputSpatial).bind
  intro _ _ outputs
  apply (ensureRoles_matches input inRange.inputBatch inRange.inputFeature inRange.inputSpatial
    (enough inputs)).bind
  intro _ _ _
  apply (ensureRoles_matches kernel inRange.kernelInputFeature inRange.kernelOutputFeature
    inRange.kernelSpatial (enough kernels)).bind
  intro _ _ _
  exact ensureRoles_matches output inRange.outputBatch inRange.outputFeature inRange.outputSpatial
    (enough outputs)

end ConvolutionDims

namespace Op.Convolution

variable {rank kernelRank : Nat}

/-! ### The output -/

/-- The output of the other layout holds the same extents, arranged in that layout. -/
theorem exists_placeDims (layout : Layout rank) {batchDim featureDim : Int}
    {spatialDims : List Int} (batchRange : 0 ≤ batchDim ∧ batchDim < rank)
    (featureRange : 0 ≤ featureDim ∧ featureDim < rank)
    (spatialRange : ∀ d ∈ spatialDims, 0 ≤ d ∧ d < rank) (batch features : Extent)
    (spatial : List Extent) :
    ∃ result, placeDims rank batchDim featureDim spatialDims batch features spatial = .ok result ∧
      result.length = rank ∧
      placeDims rank (layout.place batchDim) (layout.place featureDim)
        (spatialDims.map layout.place) batch features spatial = .ok (layout.arrange result) := by
  have inRange : ∀ value ∈ (batchDim, batch) :: (featureDim, features) :: spatialDims.zip spatial,
      0 ≤ value.1 ∧ value.1 < rank := by
    refine List.forall_mem_cons.mpr ⟨batchRange, List.forall_mem_cons.mpr ⟨featureRange, ?_⟩⟩
    rintro ⟨d, extent⟩ member
    exact spatialRange d (List.of_mem_zip member).1
  obtain ⟨result, success, length, moved⟩ := layout.exists_setItems List.length_replicate inRange
  rw [layout.arrange_replicate_none] at moved
  refine ⟨result, success, length, ?_⟩
  rw [placeDims, List.zip_map_left]
  exact moved

/-! ### Inference -/

variable {op : Convolution} {dims : ConvolutionDims} {element kernelElement : Ty}
  {lhs rhs : List Extent}

/-- The roles find the same extents in the other layouts, so the runs differ only in where the
    extents of the output are put. -/
theorem inferRanked_matches (given : op.dimensions = some dims) (inRange : dims.InRange rank rank)
    (lhsRank : lhs.length = rank) (rhsRank : rhs.length = rank)
    (input kernel output : Layout rank) (lhsTy rhsTy : Ty) :
    Check.Matches
      (fun t t' =>
        ConvolutionDims.Covers rank dims.outputBatch dims.outputFeature dims.outputSpatial ∧
          inferTranspose t.ty output.listing = .ok [t'.ty])
      (op.inferRanked ⟨element, .ranked lhs⟩ ⟨kernelElement, .ranked rhs⟩ rank)
      (inferRanked
        { op with lhs := lhsTy, rhs := rhsTy, dimensions := some (dims.relaid input kernel output) }
        ⟨element, .ranked (input.arrange lhs)⟩ ⟨kernelElement, .ranked (kernel.arrange rhs)⟩
        rank) := by
  obtain ⟨batchDim, batchValue, batchRange⟩ := inRange.outputBatch
  obtain ⟨featureDim, featureValue, featureRange⟩ := inRange.outputFeature
  have batchValue' := output.needInt_rename batchValue
  have featureValue' := output.needInt_rename featureValue
  simp only [inferRanked, given, needPart, Check.ok_bind]
  apply (ConvolutionDims.verify_matches inRange input kernel output).bind
  intro _ _ covers
  simp only [ConvolutionDims.relaid, input.dimAt_rename element lhsRank inRange.inputBatch,
    input.dimAt_rename element lhsRank inRange.inputFeature,
    kernel.dimAt_rename kernelElement rhsRank inRange.kernelInputFeature,
    kernel.dimAt_rename kernelElement rhsRank inRange.kernelOutputFeature,
    input.collect_dim_place element lhsRank inRange.inputSpatial,
    kernel.collect_dim_place kernelElement rhsRank inRange.kernelSpatial, batchValue, featureValue,
    batchValue', featureValue', Check.ok_bind]
  apply Check.Matches.bind_same
  intro batch _
  apply Check.Matches.bind_same
  intro features _
  apply Check.Matches.bind_same
  intro kernelFeatures _
  apply Check.Matches.bind_same
  intro outputFeatures _
  apply Check.Matches.bind_same
  intro _ _
  apply Check.Matches.bind_same
  intro sizes _
  apply Check.Matches.bind_same
  intro window _
  apply Check.Matches.bind_same
  intro inputs _
  apply Check.Matches.bind_same
  intro spatial _
  apply Check.Matches.bind_same
  intro batch _
  obtain ⟨result, placed, length, placed'⟩ := exists_placeDims output batchRange featureRange
    inRange.outputSpatial batch outputFeatures spatial
  rw [placed, placed', Check.ok_bind, Check.ok_bind]
  refine (output.form_matches element length).mono ?_
  rintro _ _ ⟨rfl, rfl⟩
  exact ⟨covers, output.inferTranspose_ranked element length⟩

theorem inferTensor_matches (given : op.dimensions = some dims)
    (inRange : dims.InRange rank kernelRank) (lhsRank : lhs.length = rank)
    (rhsRank : rhs.length = kernelRank) (input output : Layout rank) (kernel : Layout kernelRank)
    (lhsTy rhsTy : Ty) :
    Check.Matches
      (fun t t' =>
        ConvolutionDims.Covers rank dims.outputBatch dims.outputFeature dims.outputSpatial ∧
          inferTranspose t.ty output.listing = .ok [t'.ty])
      (op.inferTensor ⟨element, .ranked lhs⟩ ⟨kernelElement, .ranked rhs⟩)
      (inferTensor
        { op with lhs := lhsTy, rhs := rhsTy, dimensions := some (dims.relaid input kernel output) }
        ⟨element, .ranked (input.arrange lhs)⟩
        ⟨kernelElement, .ranked (kernel.arrange rhs)⟩) := by
  simp only [inferTensor, Tensor.rank?, Shape.rank?, Layout.length_arrange, lhsRank, rhsRank]
  apply (Check.Matches.ensure Iff.rfl).bind
  intro _ _ same
  subst same
  apply (Check.Matches.ensure Iff.rfl).bind
  intro _ _ _
  exact inferRanked_matches given inRange lhsRank rhsRank input kernel output lhsTy rhsTy

/-- Convolutions do not depend on the layouts of their operands and of their result. The operands
    are transposed by `p` and `q`, and the dimension numbers are renamed accordingly. The
    convolution then ends as before, with the result transposed by `r`. When it is accepted, the
    roles of the output name every dimension once. -/
theorem infer_matches_relaid (lhsType : op.lhs = .tensor element (.ranked lhs))
    (rhsType : op.rhs = .tensor kernelElement (.ranked rhs)) (given : op.dimensions = some dims)
    (inRange : dims.InRange lhs.length rhs.length) (undeclared : op.result = none)
    (p r : Layout lhs.length) (q : Layout rhs.length) :
    ∃ lhs' rhs', inferTranspose op.lhs p.listing = .ok [lhs'] ∧
      inferTranspose op.rhs q.listing = .ok [rhs'] ∧
      Check.Matches
        (fun types types' =>
          ConvolutionDims.Covers lhs.length dims.outputBatch dims.outputFeature
              dims.outputSpatial ∧
            ∃ t, types = [t] ∧ inferTranspose t r.listing = .ok types')
        op.infer
        (infer { op with lhs := lhs', rhs := rhs', dimensions := some (dims.relaid p q r) }) := by
  have turned := p.inferTranspose_ranked element rfl
  have turnedKernel := q.inferTranspose_ranked kernelElement rfl
  refine ⟨_, _, lhsType ▸ turned, rhsType ▸ turnedKernel, ?_⟩
  have known (element : Ty) (dims : List Extent) (name : String) :
      (Ty.tensor element (.ranked dims)).needTensor name = .ok ⟨element, .ranked dims⟩ := rfl
  simp only [infer, lhsType, rhsType, known, Check.ok_bind, undeclared, Ty.settle, Check.pure_eq]
  apply Check.Matches.bind_same
  intro _ _
  apply Check.Matches.bind_same
  intro _ _
  apply (inferTensor_matches given inRange rfl rfl p r q (.tensor element (.ranked (p.arrange lhs)))
    (.tensor kernelElement (.ranked (q.arrange rhs)))).bind
  rintro t t' ⟨covers, transposed⟩
  exact ⟨covers, t.ty, rfl, transposed⟩

/-- A convolution of images whose features come before rows and columns, and the same convolution
    with the features last. -/
theorem infer_matches_relaid_features_last :
    let lhs : List Extent := [some 2, some 3, none, some 8]
    let rhs : List Extent := [some 16, some 3, some 3, some 3]
    let dims : ConvolutionDims :=
      { inputSpatial := [2, 3], kernelInputFeature := .int 1, kernelOutputFeature := .int 0,
        kernelSpatial := [2, 3], outputSpatial := [2, 3] }
    let op : Convolution :=
      { lhs := .tensor (.float .f32) (.ranked lhs), rhs := .tensor (.float .f32) (.ranked rhs),
        dimensions := some dims }
    let images : Layout 4 := ⟨.ofInts [0, 2, 3, 1], [0, 2, 3, 1], rfl, by decide⟩
    let kernels : Layout 4 := ⟨.ofInts [2, 3, 1, 0], [2, 3, 1, 0], rfl, by decide⟩
    dims.InRange 4 4 ∧
      op.infer = .ok [.tensor (.float .f32) (.ranked [some 2, some 16, none, some 6])] ∧
      infer
          { op with
            lhs := .tensor (.float .f32) (.ranked [some 2, none, some 8, some 3])
            rhs := .tensor (.float .f32) (.ranked [some 3, some 3, some 3, some 16])
            dimensions := some (dims.relaid images kernels images) } =
        .ok [.tensor (.float .f32) (.ranked [some 2, none, some 6, some 16])] := by
  intro lhs rhs dims op images kernels
  have inRange : dims.InRange 4 4 :=
    { inputBatch := ⟨0, rfl, by decide⟩
      inputFeature := ⟨1, rfl, by decide⟩
      inputSpatial := by simp [dims]
      kernelInputFeature := ⟨1, rfl, by decide⟩
      kernelOutputFeature := ⟨0, rfl, by decide⟩
      kernelSpatial := by simp [dims]
      outputBatch := ⟨0, rfl, by decide⟩
      outputFeature := ⟨1, rfl, by decide⟩
      outputSpatial := by simp [dims] }
  have accepted : op.infer =
      .ok [.tensor (.float .f32) (.ranked [some 2, some 16, none, some 6])] := rfl
  refine ⟨inRange, accepted, ?_⟩
  obtain ⟨lhs', rhs', turned, turnedKernel, ends⟩ :=
    @infer_matches_relaid op dims (.float .f32) (.float .f32) lhs rhs rfl rfl rfl inRange rfl images
      images kernels
  cases turned
  cases turnedKernel
  rw [accepted] at ends
  obtain ⟨types, found, -, t, same, transposed⟩ := ends.exists_of_ok
  cases same
  exact found.trans transposed.symm

end Op.Convolution

end TensorTyping
