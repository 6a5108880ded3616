/-
# Imf.Panel.Layout -- the layout of a soft keyboard, as it is asked for and as it is sent

A panel is laid out by rectangles for both orientations of the display, plain or enhanced, and
the window manager is sent one record of them.  The checks and the computations between the two
are the ones of the panel, in its fixed width arithmetic; the two that go through single
precision go through `round24` here, which is what that precision keeps of a whole number.
-/
import Imf.Common.ErrorCode
import Imf.Lib.Run
import Mathlib.Algebra.Group.Nat.Defs

namespace Imf.Panel

set_option autoImplicit false

/-! ## Data -/

inductive PanelFlag where
  | FLG_FIXED
  | FLG_FLOATING
  | FLG_CANDIDATE_COLUMN
  | FLG_NONE
  deriving DecidableEq, Repr

inductive WindowGravity where
  | WINDOW_GRAVITY_FLOAT
  | WINDOW_GRAVITY_BOTTOM
  deriving DecidableEq, Repr

structure Rect where
  posX : Int32 := 0
  posY : Int32 := 0
  width : UInt32 := 0
  height : UInt32 := 0
  deriving DecidableEq

structure WindowSize where
  width : UInt32 := 0
  height : UInt32 := 0
  deriving DecidableEq

structure DisplaySize where
  screenId : UInt64 := 0
  portrait : WindowSize := {}
  landscape : WindowSize := {}
  deriving DecidableEq

structure PanelAdjustInfo where
  top : Int32 := 0
  left : Int32 := 0
  right : Int32 := 0
  bottom : Int32 := 0
  deriving DecidableEq

structure FullPanelAdjustInfo where
  portrait : PanelAdjustInfo := {}
  landscape : PanelAdjustInfo := {}
  deriving DecidableEq

structure LayoutParams where
  landscapeRect : Rect := {}
  portraitRect : Rect := {}
  deriving DecidableEq

structure EnhancedLayoutParam where
  rect : Rect := {}
  panelRect : Rect := {}
  avoidY : Int32 := 0
  avoidHeight : UInt32 := 0
  deriving DecidableEq

structure EnhancedLayoutParams where
  isFullScreen : Bool := false
  screenId : UInt64 := 0
  portrait : EnhancedLayoutParam := {}
  landscape : EnhancedLayoutParam := {}
  deriving DecidableEq

/-- What the window manager is sent. -/
structure KeyboardLayoutParams where
  gravity : WindowGravity := .WINDOW_GRAVITY_BOTTOM
  landscapeKeyboardRect : Rect := {}
  portraitKeyboardRect : Rect := {}
  landscapePanelRect : Rect := {}
  portraitPanelRect : Rect := {}
  landscapeAvoidHeight : Int32 := -1
  portraitAvoidHeight : Int32 := -1
  displayId : UInt64 := 0
  deriving DecidableEq

def INT32_MAX : Nat := 2147483647

def ORIGIN_POS_X : Int32 := 0

def ORIGIN_POS_Y : Int32 := 0

def FIXED_PANEL_POS_X : Int32 := 0

def DEFAULT_AVOID_HEIGHT : Int32 := -1

/-! ## Single precision -/

/-- A whole number to 24 significant bits, to the nearest and in a tie to the even one. -/
def round24 (n : Nat) : Nat :=
  let unit := 2 ^ (n.log2 - 23)
  let low := n / unit
  let rest := n % unit
  if unit < 2 * rest ∨ unit = 2 * rest ∧ low % 2 = 1 then (low + 1) * unit else low * unit

/-- The ratio 0.7 in single precision, in units of 2 ^ -24; the other ratio is 1. -/
def FIXED_SOFT_KEYBOARD_PANEL_RATIO : Nat := 11744051

def NON_FIXED_SOFT_KEYBOARD_PANEL_RATIO : Nat := 2 ^ 24

def ratio (panelFlag : PanelFlag) : Nat :=
  if panelFlag = .FLG_FIXED then FIXED_SOFT_KEYBOARD_PANEL_RATIO
  else NON_FIXED_SOFT_KEYBOARD_PANEL_RATIO

/-- A height times a ratio, in units of 2 ^ -24. -/
def scaled (height : UInt32) (ratio : Nat) : Nat := round24 (round24 height.toNat * ratio)

/-- The height is more than its share of the display. -/
def exceeds (height displayHeight : UInt32) (ratio : Nat) : Bool :=
  scaled displayHeight ratio < round24 height.toNat * 2 ^ 24

/-! ## Plain layouts -/

def safeSubtract (minuend subtrahend : UInt32) : UInt32 :=
  if minuend < subtrahend then 0 else minuend - subtrahend

/-- `IsSizeValid` of a soft keyboard.  It takes the sizes of the display as signed ones, and every
height is more than a share of a negative one. -/
def isSizeValid (panelFlag : PanelFlag) (width height : UInt32) (display : WindowSize) : Bool :=
  if INT32_MAX < width.toNat ∨ INT32_MAX < height.toNat then false
  else if display.height.toInt32 < 0 ∨ exceeds height display.height (ratio panelFlag) = true ∨
      width.toInt32 > display.width.toInt32 then false
  else true

def isRectValid (panelFlag : PanelFlag) (rect : Rect) (display : WindowSize) : Bool :=
  if rect.posX < 0 ∨ rect.posY < 0 then false else isSizeValid panelFlag rect.width rect.height display

def convertToWMSParam (panelFlag : PanelFlag) (layoutParams : EnhancedLayoutParams) :
    KeyboardLayoutParams :=
  { gravity := if panelFlag = .FLG_FIXED then .WINDOW_GRAVITY_BOTTOM else .WINDOW_GRAVITY_FLOAT
    landscapeKeyboardRect := layoutParams.landscape.rect
    landscapePanelRect := layoutParams.landscape.panelRect
    portraitKeyboardRect := layoutParams.portrait.rect
    portraitPanelRect := layoutParams.portrait.panelRect
    portraitAvoidHeight := layoutParams.portrait.avoidHeight.toInt32
    landscapeAvoidHeight := layoutParams.landscape.avoidHeight.toInt32
    displayId := layoutParams.screenId }

/-- The rectangles of a fixed panel stand at the bottom of the display; those of another one
follow the input. -/
def parseParam (panelFlag : PanelFlag) (adjustInfo : PanelAdjustInfo) (display : WindowSize)
    (input : Rect) :
    EnhancedLayoutParam :=
  let vertical := (adjustInfo.top + adjustInfo.bottom).toUInt32
  let horizontal := (adjustInfo.left + adjustInfo.right).toUInt32
  if panelFlag = .FLG_FIXED then
    let share := UInt32.ofNat (scaled display.height FIXED_SOFT_KEYBOARD_PANEL_RATIO / 2 ^ 24)
    let height := min (input.height + vertical) share
    let panelRect : Rect :=
      { posX := ORIGIN_POS_X, posY := (safeSubtract display.height height).toInt32,
        width := display.width, height }
    { rect :=
        { posX := panelRect.posX + adjustInfo.left, posY := panelRect.posY + adjustInfo.top
          width := safeSubtract panelRect.width horizontal,
          height := safeSubtract panelRect.height vertical }
      panelRect }
  else
    { rect := input
      panelRect :=
        { posX := input.posX - adjustInfo.left, posY := input.posY - adjustInfo.top
          width := input.width + horizontal, height := input.height + vertical } }

/-- `ParseParams`.  `adjustInfo` is what `GetAdjustInfo` gives where it is asked; a failure of it
leaves the default. -/
def parseParams (displaySize : Option DisplaySize) (adjustInfo : FullPanelAdjustInfo)
    (panelFlag : PanelFlag) (input : LayoutParams) : Except ErrorCode KeyboardLayoutParams :=
  match displaySize with
  | none => .error .errorWindowManager
  | some displaySize =>
      if !isRectValid panelFlag input.portraitRect displaySize.portrait then
        .error .errorParameterCheckFailed
      else if !isRectValid panelFlag input.landscapeRect displaySize.landscape then
        .error .errorParameterCheckFailed
      else
        let output := convertToWMSParam panelFlag
          { screenId := displaySize.screenId
            portrait := parseParam panelFlag adjustInfo.portrait displaySize.portrait input.portraitRect
            landscape := parseParam panelFlag adjustInfo.landscape displaySize.landscape
              input.landscapeRect }
        .ok { output with portraitAvoidHeight := DEFAULT_AVOID_HEIGHT, landscapeAvoidHeight :=
          DEFAULT_AVOID_HEIGHT }

/-! ## Enhanced layouts -/

def isEnhancedRectValid (rect : Rect) (display : WindowSize) : Bool :=
  if rect.posX < 0 ∨ rect.posY < 0 then false
  else if INT32_MAX < rect.width.toNat ∨ INT32_MAX < rect.height.toNat then false
  else if rect.width > display.width ∨ rect.height > display.height then false
  else true

def rectifyRect (isFullScreen : Bool) (layoutParam : EnhancedLayoutParam) (display : WindowSize)
    (panelFlag : PanelFlag) (adjustInfo : PanelAdjustInfo) : Except ErrorCode EnhancedLayoutParam :=
  if isFullScreen then
    let rect : Rect :=
      { posX := ORIGIN_POS_X, posY := ORIGIN_POS_Y, width := display.width, height := display.height }
    .ok { layoutParam with rect, panelRect := rect }
  else if !isEnhancedRectValid layoutParam.rect display then .error .errorParameterCheckFailed
  else
    let height := max layoutParam.rect.height adjustInfo.bottom.toUInt32
    let rect : Rect :=
      if panelFlag = .FLG_FIXED then
        { posX := FIXED_PANEL_POS_X, posY := (display.height - height).toInt32,
          width := display.width, height }
      else { layoutParam.rect with height }
    .ok { layoutParam with rect, panelRect := rect }

def calculateAvoidHeight (layoutParam : EnhancedLayoutParam) (display : WindowSize)
    (panelFlag : PanelFlag) (adjustInfo : PanelAdjustInfo) : Except ErrorCode EnhancedLayoutParam :=
  if layoutParam.avoidY < 0 then .error .errorParameterCheckFailed
  else if layoutParam.avoidY.toUInt32 > layoutParam.rect.height then .error .errorParameterCheckFailed
  else
    let avoidHeight := layoutParam.rect.height - layoutParam.avoidY.toUInt32
    if exceeds avoidHeight display.height (ratio panelFlag) then .error .errorParameterCheckFailed
    else if avoidHeight < adjustInfo.bottom.toUInt32 then
      let avoidHeight := adjustInfo.bottom.toUInt32
      .ok { layoutParam with
        avoidY := layoutParam.rect.height.toInt32 - avoidHeight.toInt32, avoidHeight }
    else .ok { layoutParam with avoidHeight }

def parseEnhancedParams (displaySize : Option DisplaySize) (panelFlag : PanelFlag)
    (adjustInfo : FullPanelAdjustInfo) (params : EnhancedLayoutParams) :
    Except ErrorCode EnhancedLayoutParams :=
  match displaySize with
  | none => .error .errorWindowManager
  | some display => do
      let portrait ← rectifyRect params.isFullScreen params.portrait display.portrait panelFlag
        adjustInfo.portrait
      let landscape ←
        rectifyRect params.isFullScreen params.landscape display.landscape panelFlag
          adjustInfo.landscape
      let portrait ← calculateAvoidHeight portrait display.portrait panelFlag adjustInfo.portrait
      let landscape ← calculateAvoidHeight landscape display.landscape panelFlag adjustInfo.landscape
      return { params with screenId := display.screenId, portrait, landscape }

/-! ## The gradient -/

/-- `FullScreenPrepare`, as far as it can fail: the avoid heights and positions are to be in range
with the gradient. -/
def fullScreenPrepare (param : KeyboardLayoutParams) (gradientHeight : UInt32) : ErrorCode :=
  if param.portraitAvoidHeight < 0 ∨ param.landscapeAvoidHeight < 0 ∨ param.portraitPanelRect.posY < 0 ∨
      param.landscapePanelRect.posY < 0 then .errorInvalidRange
  else
    let limit := Int32.maxValue - gradientHeight.toInt32
    if param.landscapeAvoidHeight > limit then .errorInvalidRange
    else if param.portraitAvoidHeight > limit then .errorInvalidRange
    else .noError

def normalImePrepare (param : KeyboardLayoutParams) : ErrorCode :=
  if param.portraitPanelRect.posY < 0 ∨ param.landscapePanelRect.posY < 0 then .errorInvalidRange
  else .noError

/-- `PrepareAdjustLayout`.  The copy of the layout that it enlarges is not sent. -/
def prepareAdjustLayout (param : KeyboardLayoutParams) (gradientHeight : UInt32) : ErrorCode :=
  if param.landscapeAvoidHeight ≠ DEFAULT_AVOID_HEIGHT ∧
      param.portraitAvoidHeight ≠ DEFAULT_AVOID_HEIGHT then
    fullScreenPrepare param gradientHeight
  else normalImePrepare param

/-- A fixed keyboard of 300 of the 1000 points of a display, and its share of 700. -/
example : isRectValid .FLG_FIXED { width := 500, height := 300 }
    { width := 500, height := 1000 } = true ∧
    scaled 1000 FIXED_SOFT_KEYBOARD_PANEL_RATIO / 2 ^ 24 = 700 := by
  decide

end Imf.Panel
