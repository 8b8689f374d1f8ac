import TensorTyping.Payload.Order
import TensorTyping.Shape

/-!
# Sliding windows

A window slides over a base, one `WindowDim` per dimension. Along a dimension the base is dilated
and padded, the window is dilated, and the output extent is the number of places at which the window
fits: `(base - window) / stride + 1`, rounded down. The output is unknown where the base or the
window is unknown and where the window does not fit.
-/

namespace TensorTyping

/-- The size of a window along one dimension. A list of sizes in which some are unknown is taken
    over item by item, so a size may also be a value that was never read as an integer. -/
inductive WindowSize where
  | unknown
  | known (size : Int)
  | unread (value : Payload)
  deriving Repr, Inhabited

namespace WindowSize

/-- The item of a list of sizes. -/
def ofPayload : Payload → WindowSize
  | .null => .unknown
  | .int n => .known n
  | other => .unread other

/-- The size as an extent. -/
def ofExtent : Extent → WindowSize
  | some n => .known n
  | none => .unknown

/-- What the size says about the extent of the window. -/
def extent : WindowSize → Extent
  | .known n => some n
  | .unread (.bool value) => some (if value then 1 else 0)
  | _ => none

/-- The size is known and less than one. Texts and lists have no order. -/
def isBelowOne : WindowSize → Check Bool
  | .unknown => .ok false
  | .known n => .ok (n < 1)
  | .unread value => value.isBelow 1

/-- The size as it is named in a sentence. -/
def text : WindowSize → String
  | .unknown => "None"
  | .known n => toString n
  | .unread value => value.display

end WindowSize

/-- A window along one dimension. Padding may be negative. -/
structure WindowDim where
  size : WindowSize := .known 1
  stride : Int := 1
  paddingLow : Int := 0
  paddingHigh : Int := 0
  windowDilation : Int := 1
  baseDilation : Int := 1
  reversed : Bool := false
  deriving Repr, Inhabited

namespace Window

/-! ### Output extents -/

/-- The extent after `dilation - 1` holes are put between neighbours. -/
def dilated (bound : Extent) (dilation : Int) : Extent :=
  bound.map fun b => b + (b - 1) * (dilation - 1)

/-- The number of places for a window; unknown when it does not fit. -/
def strided (bound size : Extent) (stride : Int) : Check Extent :=
  match bound, size with
  | some b, some w =>
      if b < w then .ok none else do return some ((← floorDiv (b - w) stride) + 1)
  | _, _ => .ok none

/-- The extent after dilation by a number as it is given, which is not looked at when the extent is
    unknown. -/
def dilatedBy (bound : Extent) (dilation : Payload) : Check Extent :=
  match bound with
  | none => .ok none
  | some _ => do return dilated bound (← dilation.needInt)

/-- The number of places for a window by numbers as they are given. The stride is not looked at when
    there is no place. -/
def stridedBy (bound size stride : Payload) : Check Extent := do
  match bound, size with
  | .null, _ | _, .null => return none
  | _, _ =>
      if ← bound.isLess size then return none
      else strided (some (← bound.needInt)) (some (← size.needInt)) (← stride.needInt)

/-- The padded and dilated base under the window. -/
def paddedBase (dim : WindowDim) (base : Int) : Int :=
  dim.paddingLow + (base + (base - 1) * (dim.baseDilation - 1)) + dim.paddingHigh

/-- The output extent along one dimension. -/
def outputExtent (base : Extent) (dim : WindowDim) : Check Extent :=
  match base with
  | none => .ok none
  | some b =>
      strided (some (paddedBase dim b)) (dilated dim.size.extent dim.windowDilation) dim.stride

/-- The output extents of a base under a window with as many dimensions. -/
def outputDims (base : List Extent) (window : List WindowDim) : Check (List Extent) := do
  ensure (base.length = window.length) .incompatibleShape
    (s!"expects base shape {dimsText base} to have one extent per " ++
      s!"window dimension ({window.length}).")
  collect (fun pair => outputExtent pair.1 pair.2) (base.zip window)

/-! ### Validated windows -/

/-- The vectors that describe a window beside its sizes. An empty vector stands for its default in
    every dimension. A row of padding holds the low and the high padding. -/
structure Attributes where
  strides : List Int := []
  padding : List (List Int) := []
  baseDilations : List Int := []
  windowDilations : List Int := []
  reversal : List Bool := []
  deriving Repr, Inhabited

/-- A vector is empty or has one item per dimension. -/
def ensureLength {α : Type} (values : List α) (name : String) (count : Nat) : Check Unit :=
  ensure (values.isEmpty ∨ values.length = count) .attributeArityMismatch
    (s!"expects {name} to have same dimension-size as size of window " ++
      s!"dimensions ({count}), but got: {values.length}.")

/-- The item of a vector at a position, or the default of an empty vector. -/
def itemOr {α : Type} (values : List α) (default : α) (i : Nat) : Check α :=
  if values.isEmpty then .ok default else itemAt values i

/-- A window attribute along one dimension is positive. -/
def ensurePositive (name : String) (i : Nat) (value : Int) : Check Unit :=
  ensure (1 ≤ value) .nonPositiveWindowAttribute
    s!"expects window to have positive {name} for {i}-th window dimension, but got {value}."

/-- The window along the `i`-th dimension, once its attributes are positive. -/
def buildDim (attributes : Attributes) (i : Nat) (size : WindowSize) : Check WindowDim := do
  let tooSmall ← size.isBelowOne
  ensure (!tooSmall) .nonPositiveWindowAttribute
    (s!"expects window to have positive value for {i}-th window dimension, " ++
      s!"but got {size.text}.")
  let stride ← itemOr attributes.strides 1 i
  ensurePositive "stride" i stride
  let baseDilation ← itemOr attributes.baseDilations 1 i
  ensurePositive "base dilation factor" i baseDilation
  let windowDilation ← itemOr attributes.windowDilations 1 i
  ensurePositive "window dilation factor" i windowDilation
  let padding ← itemOr attributes.padding [0, 0] i
  let reversed ← itemOr attributes.reversal false i
  match padding with
  | [low, high] =>
      return {
        size := size
        stride := stride
        paddingLow := low
        paddingHigh := high
        windowDilation := windowDilation
        baseDilation := baseDilation
        reversed := reversed }
  | _ => misuse .unusableValue

/-- One window per size. The lengths of all vectors are checked before the first dimension is. -/
def build (sizes : List WindowSize) (attributes : Attributes) : Check (List WindowDim) := do
  let count := sizes.length
  ensureLength attributes.strides "window-strides" count
  ensureLength attributes.baseDilations "base-dilation factors" count
  ensureLength attributes.windowDilations "window-dilation factors" count
  ensureLength attributes.reversal "window-reversal" count
  ensureLength attributes.padding "padding-entries" count
  collect (fun item => buildDim attributes item.2 item.1) sizes.zipIdx

end Window

end TensorTyping
