import TensorTyping.Proofs.Ty.WellFormed
import TensorTyping.Proofs.Window.Sizes

/-!
# Places of a window

The strides of a validated window are positive, so its output extents are the numbers of its places.
A window that is described by its sizes alone slides over the bare base in single steps.
-/

namespace TensorTyping

namespace Window

/-! ### Output extents -/

/-- The number of places of a window along one dimension of a base. It is unknown where the base or
    the window is, and where the window does not fit. -/
def places (base : Extent) (dim : WindowDim) : Extent :=
  match base, dilated dim.size.extent dim.windowDilation with
  | some b, some w =>
      if paddedBase dim b < w then none
      else some (Int.fdiv (paddedBase dim b - w) dim.stride + 1)
  | _, _ => none

variable {window : List WindowDim} {base : List Extent}

theorem outputExtent_eq (base : Extent) {dim : WindowDim} (positive : 1 ≤ dim.stride) :
    outputExtent base dim = .ok (places base dim) := by
  have divided (n : Int) : floorDiv n dim.stride = .ok (n.fdiv dim.stride) := if_neg (by omega)
  unfold outputExtent places strided
  cases base with
  | none => rfl
  | some b =>
    cases dilated dim.size.extent dim.windowDilation with
    | none => rfl
    | some w =>
      dsimp only
      rw [divided]
      split <;> rfl

/-- A window with as many dimensions as its base has outputs when its strides are positive. -/
theorem outputDims_eq_ok (positive : ∀ dim ∈ window, 1 ≤ dim.stride) {windowed : List Extent} :
    outputDims base window = .ok windowed ↔
      base.length = window.length ∧ windowed = List.zipWith places base window := by
  have each : ∀ pair ∈ base.zip window, outputExtent pair.1 pair.2 = .ok (places pair.1 pair.2) :=
    fun pair member => outputExtent_eq pair.1 (positive pair.2 (List.of_mem_zip member).2)
  have counted : (base.zip window).map (fun pair => places pair.1 pair.2) =
      List.zipWith places base window := by
    rw [List.zip_eq_zipWith, List.map_zipWith]
  simp only [outputDims, Check.bind_eq_ok, Check.ensure_eq_ok, Check.collect_eq_map each, counted,
    Except.ok.injEq]
  constructor
  · rintro ⟨-, length, rfl⟩
    exact ⟨length, rfl⟩
  · rintro ⟨length, rfl⟩
    exact ⟨(), length, rfl⟩

/-- A window whose number of places is known has one at least. -/
theorem places_pos {extent : Extent} {dim : WindowDim} (positive : 1 ≤ dim.stride) {n : Int}
    (known : places extent dim = some n) : 1 ≤ n := by
  unfold places at known
  split at known
  · split at known
    · cases known
    · rename_i b w _ fits
      have steps : 0 ≤ Int.fdiv (paddedBase dim b - w) dim.stride :=
        Int.fdiv_nonneg (by omega) (by omega)
      have counted := Option.some.inj known
      omega
  · cases known

/-- The output extents make a shape. -/
theorem places_wellFormed (base : List Extent) (positive : ∀ dim ∈ window, 1 ≤ dim.stride) :
    Shape.WellFormed (.ranked (List.zipWith places base window)) := by
  rintro _ ⟨⟩ extent member n rfl
  rw [← List.map_uncurry_zip_eq_zipWith] at member
  obtain ⟨⟨b, dim⟩, paired, counted⟩ := List.mem_map.mp member
  exact Int.le_of_lt (places_pos (positive dim (List.of_mem_zip paired).2) counted)

/-! ### Validated windows -/

/-- What validation says about a window along one dimension: it has the size that was given, which
    is not known to be less than one, and its stride and its dilations are positive. -/
structure BuiltFrom (size : WindowSize) (dim : WindowDim) : Prop where
  size_eq : dim.size = size
  size : size.isBelowOne = .ok false
  stride : 1 ≤ dim.stride
  baseDilation : 1 ≤ dim.baseDilation
  windowDilation : 1 ≤ dim.windowDilation

theorem builtFrom_of_buildDim {attributes : Attributes} {i : Nat} {size : WindowSize}
    {dim : WindowDim} (built : buildDim attributes i size = .ok dim) : BuiltFrom size dim := by
  simp only [buildDim, ensurePositive, Check.bind_eq_ok, Check.ensure_eq_ok] at built
  obtain ⟨tooSmall, answer, -, large, stride, -, -, positive, base, -, -, basePositive, dilation, -,
    -, dilationPositive, row, -, _, -, made⟩ := built
  have enough : tooSmall = false := by
    simpa using large
  rw [enough] at answer
  split at made
  · cases made
    exact ⟨rfl, answer, positive, basePositive, dilationPositive⟩
  · simp at made

/-- A validated window has one dimension for each of its sizes. -/
theorem builtFrom_of_build {sizes : List WindowSize} {attributes : Attributes}
    (built : build sizes attributes = .ok window) : List.Forall₂ BuiltFrom sizes window := by
  simp only [build, Check.bind_eq_ok] at built
  obtain ⟨_, -, _, -, _, -, _, -, _, -, collected⟩ := built
  have each := Check.collect_eq_ok.mp collected
  rw [← List.zipIdx_map_fst 0 sizes, List.forall₂_map_left_iff]
  exact each.imp fun item dim built => builtFrom_of_buildDim built

/-- The strides of a window that was decoded are positive. -/
theorem stride_of_decode {sizes count : Payload} {raw : RawAttributes}
    (decoded : decode sizes count raw = .ok window) : ∀ dim ∈ window, 1 ≤ dim.stride := by
  simp only [decode, Check.bind_eq_ok] at decoded
  obtain ⟨_, -, _, -, attributes, -, built⟩ := decoded
  intro dim member
  obtain ⟨size, -, from_size⟩ := Check.exists_left_of_forall₂ (builtFrom_of_build built) member
  exact from_size.stride

/-- The payloads describe a window with one dimension for each of a base. -/
def Describes (sizes : Payload) (raw : RawAttributes) (rank : Nat) (window : List WindowDim) :
    Prop :=
  ∃ values, sizes.decodeInts "window_dimensions" = .ok values ∧ values.length = rank ∧
    decode (.ofInts values) (.int rank) raw = .ok window ∧ rank = window.length

theorem Describes.stride {sizes : Payload} {raw : RawAttributes} {rank : Nat}
    (described : Describes sizes raw rank window) : ∀ dim ∈ window, 1 ≤ dim.stride := by
  obtain ⟨_, -, -, decoded, -⟩ := described
  exact stride_of_decode decoded

/-! ### Windows without attributes -/

/-- The window of the given sizes that is neither padded nor dilated and moves in single steps. -/
def plain (sizes : List Int) : List WindowDim := sizes.map fun size => { size := .known size }

theorem decodeSizes_of_fits {sizes : List Int}
    (fits : ∀ n ∈ sizes, fitsWord n = true) :
    decodeSizes (.ofInts sizes) = .ok (sizes.map .known) := by
  rw [decodeSizes_of_not_null (null_notMem_ofInts sizes),
    Payload.decodeInts_of_fits fits "window_dimensions"]
  rfl

/-- The attributes of a window with `count` dimensions when none is given. -/
def bare (count : Nat) : Attributes := { padding := List.replicate count [0, 0] }

theorem buildDim_bare {count i : Nat} {size : WindowSize} (inside : i < count)
    (large : size.isBelowOne = .ok false) : buildDim (bare count) i size = .ok { size } := by
  have stride : itemOr (bare count).strides 1 i = .ok 1 := rfl
  have base : itemOr (bare count).baseDilations 1 i = .ok 1 := rfl
  have window : itemOr (bare count).windowDilations 1 i = .ok 1 := rfl
  have row : itemOr (bare count).padding [0, 0] i = .ok [0, 0] := by
    have some : (List.replicate count [(0 : Int), 0]).isEmpty = false := by
      rw [List.isEmpty_replicate, decide_eq_false (Nat.ne_zero_of_lt inside)]
    rw [itemOr, bare, some]
    exact itemAt_natCast_eq_ok.mpr (List.getElem?_replicate_of_lt inside)
  have reversed : itemOr (bare count).reversal false i = .ok false := rfl
  have one (name : String) : ensurePositive name i 1 = .ok () :=
    Check.ensure_eq_ok.mpr (Int.le_refl 1)
  simp only [buildDim, large, stride, base, window, row, reversed, one, ensure, Bool.not_false,
    if_true, Check.ok_bind, Check.pure_eq]

theorem build_bare_eq_collect (sizes : List WindowSize) :
    build sizes (bare sizes.length) =
      collect (fun item => buildDim (bare sizes.length) item.2 item.1) sizes.zipIdx := by
  have padded : (bare sizes.length).padding.length = sizes.length := List.length_replicate
  simp only [build, ensureLength, padded, or_true, ensure, if_true]
  rfl

theorem build_bare {sizes : List Int} (positive : ∀ n ∈ sizes, 1 ≤ n) :
    build (sizes.map .known) (bare sizes.length) = .ok (plain sizes) := by
  have each : ∀ item ∈ (sizes.map WindowSize.known).zipIdx,
      buildDim (bare sizes.length) item.2 item.1 = .ok { size := item.1 } := by
    rintro ⟨size, i⟩ member
    obtain ⟨-, inside, -⟩ := List.mem_zipIdx member
    obtain ⟨n, listed, rfl⟩ := List.mem_map.mp (List.fst_mem_of_mem_zipIdx member)
    rw [List.length_map] at inside
    have least := positive n listed
    have large : (WindowSize.known n).isBelowOne = .ok false := by
      rw [WindowSize.isBelowOne, decide_eq_false (by omega)]
    exact buildDim_bare (by omega) large
  have made : (sizes.map WindowSize.known).zipIdx.map (fun item => { size := item.1 }) =
      plain sizes := by
    calc (sizes.map WindowSize.known).zipIdx.map (fun item => { size := item.1 })
      _ = ((sizes.map WindowSize.known).zipIdx.map Prod.fst).map fun size => { size := size } := by
        rw [List.map_map]
        rfl
      _ = plain sizes := by
        rw [List.zipIdx_map_fst, List.map_map]
        rfl
  have collected := build_bare_eq_collect (sizes.map WindowSize.known)
  rw [List.length_map] at collected
  rw [collected, Check.collect_eq_map each, made]

theorem decode_bare {sizes : Payload} {read : List WindowSize}
    (decoded : decodeSizes sizes = .ok read) :
    decode sizes (.int read.length) {} = build read (bare read.length) := by
  have attributes : RawAttributes.decode {} (.int read.length) = .ok (bare read.length) := rfl
  have count : (Payload.int read.length).isInt read.length = true := by
    simp
  simp only [decode, decoded, Check.ok_bind, ensure, count, if_true, attributes]

theorem decode_plain {sizes : List Int} (positive : ∀ n ∈ sizes, 1 ≤ n)
    (fits : ∀ n ∈ sizes, fitsWord n = true) :
    decode (.ofInts sizes) (.int sizes.length) {} = .ok (plain sizes) := by
  have decoded := decode_bare (decodeSizes_of_fits fits)
  rw [List.length_map] at decoded
  rw [decoded, build_bare positive]

end Window

end TensorTyping
