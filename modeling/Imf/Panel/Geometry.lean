/-
# Imf.Panel.Geometry -- where an enhanced layout puts a keyboard

`ParseEnhancedParams` checks the rectangles of a layout, stretches them to the inset at the
bottom of the display, puts a fixed keyboard at the bottom and a full-screen one over the whole
display, and takes the avoid height from what is left.  The share of the display that an avoid
height may take is a test of its own here, so that any cap can stand for it; with the panel's share
for the test it is the one of Imf.Panel.Layout (`parseEnhancedParams_ratio`).

`enhanced_layout_laid` says what comes out.  The inset is taken in after the cap and the rectangle
were tested, so that an inset above the cap is the avoid height, and one above the display takes
the layout off it; and a fixed or full-screen rectangle is set to its full width whether or not it
fitted before: `widened_and_raised` has a layout for each.
-/
import Imf.Panel.Gradient

namespace Imf.Panel

set_option autoImplicit false

open Lib

/-! ## Parsing with any cap -/

def DisplaySize.of (display : DisplaySize) : Orientation → WindowSize
  | .portrait => display.portrait
  | .landscape => display.landscape

def FullPanelAdjustInfo.of (adjustInfo : FullPanelAdjustInfo) : Orientation → PanelAdjustInfo
  | .portrait => adjustInfo.portrait
  | .landscape => adjustInfo.landscape

def EnhancedLayoutParams.of (params : EnhancedLayoutParams) : Orientation → EnhancedLayoutParam
  | .portrait => params.portrait
  | .landscape => params.landscape

namespace Geometry

/-- `CalculateAvoidHeight`, with any test that an avoid height is too high. -/
def calculateAvoidHeight (tooHigh : UInt32 → Bool) (layoutParam : EnhancedLayoutParam)
    (adjustInfo : PanelAdjustInfo) : Except ErrorCode EnhancedLayoutParam :=
  if layoutParam.avoidY < 0 then .error .errorParameterCheckFailed
  else if layoutParam.avoidY.toUInt32 > layoutParam.rect.height then .error .errorParameterCheckFailed
  else
    let avoidHeight := layoutParam.rect.height - layoutParam.avoidY.toUInt32
    if tooHigh avoidHeight then .error .errorParameterCheckFailed
    else if avoidHeight < adjustInfo.bottom.toUInt32 then
      let avoidHeight := adjustInfo.bottom.toUInt32
      .ok { layoutParam with
        avoidY := layoutParam.rect.height.toInt32 - avoidHeight.toInt32, avoidHeight }
    else .ok { layoutParam with avoidHeight }

def parseEnhancedParams (tooHigh : Orientation → UInt32 → Bool) (displaySize : Option DisplaySize)
    (panelFlag : PanelFlag) (adjustInfo : FullPanelAdjustInfo) (params : EnhancedLayoutParams) :
    Except ErrorCode EnhancedLayoutParams :=
  match displaySize with
  | none => .error .errorWindowManager
  | some display => do
      let portrait ← rectifyRect params.isFullScreen params.portrait display.portrait panelFlag
        adjustInfo.portrait
      let landscape ←
        rectifyRect params.isFullScreen params.landscape display.landscape panelFlag
          adjustInfo.landscape
      let portrait ← calculateAvoidHeight (tooHigh .portrait) portrait adjustInfo.portrait
      let landscape ← calculateAvoidHeight (tooHigh .landscape) landscape adjustInfo.landscape
      return { params with screenId := display.screenId, portrait, landscape }

/-- The panel takes its share of the display for the test. -/
theorem parseEnhancedParams_ratio (display : DisplaySize) (panelFlag : PanelFlag)
    (adjustInfo : FullPanelAdjustInfo) (params : EnhancedLayoutParams) :
    Panel.parseEnhancedParams (some display) panelFlag adjustInfo params =
      parseEnhancedParams (fun orientation avoidHeight =>
        exceeds avoidHeight (display.of orientation).height (ratio panelFlag))
        (some display) panelFlag adjustInfo params :=
  rfl

/-! ## What a good layout is -/

/-- One orientation: the display, the keyboard and the cap on its avoid height. -/
structure Setting where
  display : WindowSize
  panelFlag : PanelFlag
  isFullScreen : Bool
  bottom : Int32
  cap : Nat

variable (g : Setting)

/-- The inset is on the display. -/
def Setting.Low (g : Setting) : Prop := g.bottom.toInt ≤ g.display.height.toNat

/-- The rectangle is no wider than the display, and reaches down to its edge if it has to. -/
structure RectStands (rect : Rect) : Prop where
  posX : 0 ≤ rect.posX.toInt
  width : rect.width.toNat ≤ g.display.width.toNat
  edge : g.panelFlag = .FLG_FIXED ∨ g.isFullScreen = true →
    rect.posY.toInt + rect.height.toNat = g.display.height.toNat

/-- The rectangle is on the display altogether, and covers the inset. -/
structure RectFits (rect : Rect) : Prop extends RectStands g rect where
  posY : 0 ≤ rect.posY.toInt
  height : rect.height.toNat ≤ g.display.height.toNat
  inset : g.bottom.toInt ≤ rect.height.toNat

/-- The avoid height is what the rectangle has below `avoidY`, from the inset up to the cap. -/
structure AvoidStands (rect : Rect) (avoidY : Int32) (avoidHeight : UInt32) : Prop where
  sum : avoidY.toInt + avoidHeight.toNat = rect.height.toNat
  inset : g.bottom.toInt ≤ avoidHeight.toNat
  capped : avoidHeight.toNat ≤ g.cap

/-- The avoid height is the rest of the rectangle below an `avoidY` inside it. -/
structure AvoidFits (rect : Rect) (avoidY : Int32) (avoidHeight : UInt32) : Prop
    extends AvoidStands g rect avoidY avoidHeight where
  nonneg : 0 ≤ avoidY.toInt

/-- The layout is good, on the display altogether if `low`, and what was good before has been left
alone: a rectangle that was settled and an `avoidY` that fits the rectangle. -/
structure Laid (low : Prop) (settled : Rect → Prop) (input output : EnhancedLayoutParam) : Prop where
  stands : RectStands g output.rect ∧ AvoidStands g output.rect output.avoidY output.avoidHeight
  fits : low → RectFits g output.rect ∧ AvoidFits g output.rect output.avoidY output.avoidHeight
  rect_kept : settled input.rect → output.rect = input.rect
  avoidY_kept : (∃ avoidHeight, AvoidFits g output.rect input.avoidY avoidHeight) →
    output.avoidY = input.avoidY

/-- A fixed keyboard is as wide as the display and a full-screen one is the whole of it. -/
structure Spans (rect : Rect) : Prop where
  wide : g.panelFlag = .FLG_FIXED ∨ g.isFullScreen = true →
    rect.posX = 0 ∧ rect.width = g.display.width
  whole : g.isFullScreen = true → rect.height = g.display.height

/-- A rectangle that fits and spans what it has to. -/
def Settled (rect : Rect) : Prop := RectFits g rect ∧ Spans g rect

/-! ## One orientation -/

section Orientation

variable {g}

/-- A settled rectangle holds the inset, so the display does. -/
theorem Settled.low {rect : Rect} (settled : Settled g rect) : g.Low := by
  have inset := settled.1.inset
  have height := settled.1.height
  unfold Setting.Low
  omega

/-- The display is in range, the inset is at the bottom of it, and the cap is not below the inset. -/
structure Setting.Ok (g : Setting) : Prop where
  width : g.display.width.toNat ≤ 2147483647
  height : g.display.height.toNat ≤ 2147483647
  bottom : 0 ≤ g.bottom.toInt
  inset : g.bottom.toInt ≤ g.cap

theorem isEnhancedRectValid_iff {rect : Rect} {display : WindowSize} :
    isEnhancedRectValid rect display = true ↔
      0 ≤ rect.posX.toInt ∧ 0 ≤ rect.posY.toInt ∧ rect.width.toNat ≤ 2147483647 ∧
        rect.height.toNat ≤ 2147483647 ∧
        rect.width.toNat ≤ display.width.toNat ∧ rect.height.toNat ≤ display.height.toNat := by
  unfold isEnhancedRectValid INT32_MAX
  simp only [Word32.neg_iff, gt_iff_lt, Word32.ult_iff]
  split
  · simp only [Bool.false_eq_true, false_iff]
    omega
  · split
    · simp only [Bool.false_eq_true, false_iff]
      omega
    · split
      · simp only [Bool.false_eq_true, false_iff]
        omega
      · simp only [true_iff]
        omega

/-- The higher one of the rectangle and the inset. -/
theorem stretched_toNat (height : UInt32) {bottom : Int32} (nonneg : 0 ≤ bottom.toInt) :
    ((max height bottom.toUInt32).toNat : Int) = max (height.toNat : Int) bottom.toInt := by
  have unsigned := Word32.toNat_toUInt32_of_nonneg nonneg
  change ((if height ≤ bottom.toUInt32 then bottom.toUInt32 else height).toNat : Int) = _
  split
  · rename_i le
    rw [UInt32.le_iff_toNat_le] at le
    omega
  · rename_i gt
    rw [UInt32.le_iff_toNat_le] at gt
    omega

theorem stretched_eq {height : UInt32} {bottom : Int32} (nonneg : 0 ≤ bottom.toInt)
    (covered : bottom.toInt ≤ height.toNat) : max height bottom.toUInt32 = height := by
  have stretched := stretched_toNat height nonneg
  exact UInt32.toNat_inj.1 (by omega)

/-- The whole display, for a full-screen keyboard. -/
theorem whole_fits {rect : Rect} (full : g.isFullScreen = true) :
    let whole : Rect := ⟨ORIGIN_POS_X, ORIGIN_POS_Y, g.display.width, g.display.height⟩
    RectStands g whole ∧ (g.Low → RectFits g whole) ∧ (Settled g rect → whole = rect) := by
  intro whole
  have stands : RectStands g whole := ⟨Int.le_refl 0, Nat.le_refl _, fun _ => Int.zero_add _⟩
  refine ⟨stands, fun low => ⟨stands, Int.le_refl 0, Nat.le_refl _, low⟩, ?_⟩
  rintro ⟨fits, spans⟩
  obtain ⟨posX, width⟩ := spans.wide (.inr full)
  have height := spans.whole full
  have edge := fits.edge (.inr full)
  have posY : rect.posY = 0 :=
    Int32.toInt_inj.1 (by rw [height] at edge; rw [Int32.toInt_zero]; omega)
  obtain ⟨x, y, w, h⟩ := rect
  simp only at posX width height posY
  rw [posX, posY, width, height]
  rfl

/-- The rectangle of a keyboard that is not full-screen is no higher than the display or the inset. -/
theorem stretched_range (ok : g.Ok) {rect : Rect} (valid : isEnhancedRectValid rect g.display = true) :
    (max rect.height g.bottom.toUInt32).toNat ≤ 2147483647 ∧
      (g.Low → (max rect.height g.bottom.toUInt32).toNat ≤ g.display.height.toNat) := by
  obtain ⟨-, -, -, -, -, short⟩ := isEnhancedRectValid_iff.1 valid
  have stretched := stretched_toNat rect.height ok.bottom
  have range := Word32.toInt_range g.bottom
  have display := ok.height
  unfold Setting.Low
  omega

/-- A strip at the bottom of the display, for a fixed keyboard. -/
theorem strip_fits (ok : g.Ok) {rect : Rect} (valid : isEnhancedRectValid rect g.display = true)
    (fixed : g.panelFlag = .FLG_FIXED) :
    let height := max rect.height g.bottom.toUInt32
    let strip : Rect :=
      ⟨FIXED_PANEL_POS_X, (g.display.height - height).toInt32, g.display.width, height⟩
    RectStands g strip ∧ (g.Low → RectFits g strip) ∧ (Settled g rect → strip = rect) := by
  intro height strip
  have stretched : (height.toNat : Int) = _ := stretched_toNat rect.height ok.bottom
  have range := ok.height
  obtain ⟨short, inside⟩ : height.toNat ≤ 2147483647 ∧
      (g.Low → height.toNat ≤ g.display.height.toNat) := stretched_range ok valid
  -- The difference wraps around where the inset is above the display, and comes back negative.
  have above : (g.display.height - height).toInt32.toInt = g.display.height.toNat - height.toNat := by
    have display := Word32.toInt_toInt32_of_lt (u := g.display.height) (by omega)
    have strip := Word32.toInt_toInt32_of_lt (u := height) (Nat.lt_succ_of_le short)
    rw [UInt32.toInt32_sub, Word32.toInt_sub (by omega) (by omega), display, strip]
  have edge : (g.display.height - height).toInt32.toInt + (height.toNat : Int) =
      g.display.height.toNat := by omega
  have stands : RectStands g strip := ⟨Int.le_refl 0, Nat.le_refl _, fun _ => edge⟩
  refine ⟨stands, fun low => ⟨stands, ?_, inside low, ?_⟩, ?_⟩
  · have less := inside low
    change 0 ≤ (g.display.height - height).toInt32.toInt
    omega
  · change g.bottom.toInt ≤ height.toNat
    omega
  · rintro ⟨fits, spans⟩
    obtain ⟨posX, width⟩ := spans.wide (.inl fixed)
    have edge := fits.edge (.inl fixed)
    have same : height = rect.height := stretched_eq ok.bottom fits.inset
    have posY : (g.display.height - height).toInt32 = rect.posY :=
      Int32.toInt_inj.1 (by rw [above, same]; omega)
    change (⟨_, (g.display.height - height).toInt32, _, height⟩ : Rect) = rect
    rw [posY, same, ← width, show FIXED_PANEL_POS_X = rect.posX from posX.symm]

/-- The rectangle itself, stretched to the inset, for any other keyboard. -/
theorem stretched_fits (ok : g.Ok) {rect : Rect} (valid : isEnhancedRectValid rect g.display = true)
    (loose : ¬ (g.panelFlag = .FLG_FIXED ∨ g.isFullScreen = true)) :
    let stretched : Rect := { rect with height := max rect.height g.bottom.toUInt32 }
    RectStands g stretched ∧ (g.Low → RectFits g stretched) ∧
      (Settled g rect → stretched = rect) := by
  intro stretched
  obtain ⟨posX, posY, -, -, narrow, -⟩ := isEnhancedRectValid_iff.1 valid
  have higher := stretched_toNat rect.height ok.bottom
  have stands : RectStands g stretched := ⟨posX, narrow, fun bound => absurd bound loose⟩
  refine ⟨stands, fun low => ⟨stands, posY, (stretched_range ok valid).2 low, ?_⟩, ?_⟩
  · change g.bottom.toInt ≤ (max rect.height g.bottom.toUInt32).toNat
    omega
  · rintro ⟨fits, -⟩
    change { rect with height := max rect.height g.bottom.toUInt32 } = rect
    rw [stretched_eq ok.bottom fits.inset]

/-- What `RectifyRect` makes of a rectangle. -/
theorem rectifyRect_ok (ok : g.Ok) {layoutParam rectified : EnhancedLayoutParam}
    {adjustInfo : PanelAdjustInfo} (bottom : adjustInfo.bottom = g.bottom)
    (success :
      rectifyRect g.isFullScreen layoutParam g.display g.panelFlag adjustInfo = .ok rectified) :
    rectified.avoidY = layoutParam.avoidY ∧ rectified.rect.height.toNat ≤ 2147483647 ∧
      RectStands g rectified.rect ∧ (g.Low → RectFits g rectified.rect) ∧
      (Settled g layoutParam.rect → rectified.rect = layoutParam.rect) := by
  unfold rectifyRect at success
  rw [bottom] at success
  split at success
  · rename_i full
    obtain rfl := Except.ok.inj success
    exact ⟨rfl, ok.height, whole_fits full⟩
  · rename_i window
    split at success
    · cases success
    · rename_i checked
      have valid : isEnhancedRectValid layoutParam.rect g.display = true := by simpa using checked
      obtain ⟨short, -⟩ := stretched_range ok valid
      obtain rfl := Except.ok.inj success
      refine ⟨rfl, ?_⟩
      dsimp only
      split
      · rename_i fixed
        exact ⟨short, strip_fits ok valid fixed⟩
      · rename_i loose
        exact ⟨short, stretched_fits ok valid (not_or_intro loose window)⟩

/-- What `CalculateAvoidHeight` has tested, and the two layouts that come of it: the rest of the
rectangle is the avoid height, or the inset where it is higher. -/
theorem calculateAvoidHeight_cases {tooHigh : UInt32 → Bool} {layoutParam output : EnhancedLayoutParam}
    {adjustInfo : PanelAdjustInfo}
    (success : calculateAvoidHeight tooHigh layoutParam adjustInfo = .ok output) :
    0 ≤ layoutParam.avoidY.toInt ∧ layoutParam.avoidY.toUInt32.toNat ≤ layoutParam.rect.height.toNat ∧
      tooHigh (layoutParam.rect.height - layoutParam.avoidY.toUInt32) = false ∧
      ((layoutParam.rect.height - layoutParam.avoidY.toUInt32).toNat <
        adjustInfo.bottom.toUInt32.toNat ∧
          output =
            { layoutParam with
              avoidY := layoutParam.rect.height.toInt32 - adjustInfo.bottom.toUInt32.toInt32
              avoidHeight := adjustInfo.bottom.toUInt32 } ∨
        adjustInfo.bottom.toUInt32.toNat ≤
          (layoutParam.rect.height - layoutParam.avoidY.toUInt32).toNat ∧
          output = { layoutParam with
            avoidHeight := layoutParam.rect.height - layoutParam.avoidY.toUInt32 }) := by
  unfold calculateAvoidHeight at success
  split at success
  · cases success
  rename_i nonneg
  rw [Word32.neg_iff] at nonneg
  split at success
  · cases success
  rename_i inside
  rw [gt_iff_lt, Word32.ult_iff] at inside
  dsimp only at success
  split at success
  · cases success
  rename_i low
  refine ⟨Int.not_lt.1 nonneg, Nat.not_lt.1 inside, Bool.not_eq_true _ ▸ low, ?_⟩
  split at success
  · rename_i raised
    rw [Word32.ult_iff] at raised
    exact .inl ⟨raised, (Except.ok.inj success).symm⟩
  · rename_i enough
    rw [Word32.ult_iff] at enough
    exact .inr ⟨Nat.not_lt.1 enough, (Except.ok.inj success).symm⟩

/-- The inset stands as an avoid height, and is inside a rectangle that covers it. -/
theorem inset_stands (ok : g.Ok) {rect : Rect} (range : rect.height.toNat ≤ 2147483647) :
    AvoidStands g rect (rect.height.toInt32 - g.bottom.toUInt32.toInt32) g.bottom.toUInt32 ∧
      (g.bottom.toInt ≤ rect.height.toNat →
        0 ≤ (rect.height.toInt32 - g.bottom.toUInt32.toInt32).toInt) := by
  have unsigned := Word32.toNat_toUInt32_of_nonneg ok.bottom
  have bounds := Word32.toInt_range g.bottom
  have low := ok.inset
  have difference : (rect.height.toInt32 - g.bottom.toUInt32.toInt32).toInt =
      rect.height.toNat - g.bottom.toInt := by
    have height := Word32.toInt_toInt32_of_lt (u := rect.height) (by omega)
    have bottom := Word32.toInt_toInt32_of_lt (u := g.bottom.toUInt32) (by omega)
    rw [Word32.toInt_sub (by omega) (by omega)]
    omega
  refine ⟨⟨?_, Int.le_of_eq unsigned.symm, ?_⟩, ?_⟩ <;> omega

/-- What `CalculateAvoidHeight` makes of a rectangle. -/
theorem calculateAvoidHeight_ok (ok : g.Ok) {tooHigh : UInt32 → Bool}
    (capped : ∀ avoidHeight, tooHigh avoidHeight = false → avoidHeight.toNat ≤ g.cap)
    {rectified output : EnhancedLayoutParam} {adjustInfo : PanelAdjustInfo}
    (bottom : adjustInfo.bottom = g.bottom) (range : rectified.rect.height.toNat ≤ 2147483647)
    (success : calculateAvoidHeight tooHigh rectified adjustInfo = .ok output) :
    output.rect = rectified.rect ∧ AvoidStands g output.rect output.avoidY output.avoidHeight ∧
      (g.bottom.toInt ≤ output.rect.height.toNat → 0 ≤ output.avoidY.toInt) ∧
      ((∃ avoidHeight, AvoidFits g output.rect rectified.avoidY avoidHeight) →
        output.avoidY = rectified.avoidY) := by
  obtain ⟨nonneg, inside, low, result⟩ := calculateAvoidHeight_cases success
  rw [bottom] at result
  have unsigned := Word32.toNat_toUInt32_of_nonneg ok.bottom
  have avoidY := Word32.toNat_toUInt32_of_nonneg nonneg
  have rest : (rectified.rect.height - rectified.avoidY.toUInt32).toNat = _ :=
    Word32.toNat_sub inside
  obtain ⟨raised, rfl⟩ | ⟨enough, rfl⟩ := result
  · -- An `avoidY` that fits leaves at least the inset, so the rest was not below it.
    obtain ⟨stands, covered⟩ := inset_stands ok range
    refine ⟨rfl, stands, covered, ?_⟩
    rintro ⟨avoidHeight, already⟩
    have sum := already.sum
    have inset := already.inset
    change rectified.avoidY.toInt + (avoidHeight.toNat : Int) = rectified.rect.height.toNat at sum
    omega
  · refine ⟨rfl, ⟨?_, ?_, capped _ low⟩, fun _ => nonneg, fun _ => rfl⟩
    · change rectified.avoidY.toInt +
        ((rectified.rect.height - rectified.avoidY.toUInt32).toNat : Int) =
          rectified.rect.height.toNat
      omega
    · change g.bottom.toInt ≤ ((rectified.rect.height - rectified.avoidY.toUInt32).toNat : Int)
      omega

end Orientation

/-! ## Both orientations -/

/-- The steps of a parse that succeeds, for one orientation. -/
theorem parseEnhancedParams_ok {tooHigh : Orientation → UInt32 → Bool} {display : DisplaySize}
    {panelFlag : PanelFlag} {adjustInfo : FullPanelAdjustInfo} {params output : EnhancedLayoutParams}
    (success : parseEnhancedParams tooHigh (some display) panelFlag adjustInfo params = .ok output)
    (orientation : Orientation) :
    ∃ rectified,
      rectifyRect params.isFullScreen (params.of orientation) (display.of orientation) panelFlag
        (adjustInfo.of orientation) = .ok rectified ∧
      calculateAvoidHeight (tooHigh orientation) rectified (adjustInfo.of orientation) =
        .ok (output.of orientation) := by
  obtain ⟨upright, portrait, success⟩ := bind_eq_ok.1 success
  obtain ⟨flat, landscape, success⟩ := bind_eq_ok.1 success
  obtain ⟨laidUpright, first, success⟩ := bind_eq_ok.1 success
  obtain ⟨laidFlat, second, success⟩ := bind_eq_ok.1 success
  obtain rfl := Except.ok.inj success
  cases orientation with
  | portrait => exact ⟨upright, portrait, first⟩
  | landscape => exact ⟨flat, landscape, second⟩

/-- One orientation of a layout, with a bound on its avoid height. -/
def setting (bound : Orientation → Nat) (display : DisplaySize) (panelFlag : PanelFlag)
    (adjustInfo : FullPanelAdjustInfo) (params : EnhancedLayoutParams) (orientation : Orientation) :
    Setting :=
  { display := display.of orientation
    panelFlag
    isFullScreen := params.isFullScreen
    bottom := (adjustInfo.of orientation).bottom
    cap := bound orientation }

/-- The test of a cap. -/
def above (caps : Orientation → Nat) (orientation : Orientation) (avoidHeight : UInt32) : Bool :=
  decide (caps orientation < avoidHeight.toNat)

/-- The cap, or the inset where it is higher. -/
def raised (caps : Orientation → Nat) (adjustInfo : FullPanelAdjustInfo) (orientation : Orientation) :
    Nat :=
  max (caps orientation) (adjustInfo.of orientation).bottom.toInt.toNat

/-- **An enhanced layout is good in every orientation**, with an avoid height up to the cap or the
inset, on the display altogether where the inset is, and it leaves alone what was good before. -/
theorem enhanced_layout_laid (caps : Orientation → Nat) (display : DisplaySize) (panelFlag : PanelFlag)
    (adjustInfo : FullPanelAdjustInfo) (params output : EnhancedLayoutParams)
    (size : ∀ orientation, (display.of orientation).width.toNat ≤ INT32_MAX ∧
      (display.of orientation).height.toNat ≤ INT32_MAX)
    (nonneg : ∀ orientation, 0 ≤ (adjustInfo.of orientation).bottom.toInt)
    (success :
      parseEnhancedParams (above caps) (some display) panelFlag adjustInfo params = .ok output)
    (orientation : Orientation) :
    Laid (setting (raised caps adjustInfo) display panelFlag adjustInfo params orientation)
      ((adjustInfo.of orientation).bottom.toInt ≤ (display.of orientation).height.toNat)
      (Settled (setting (raised caps adjustInfo) display panelFlag adjustInfo params orientation))
      (params.of orientation) (output.of orientation) := by
  obtain ⟨rectified, first, second⟩ := parseEnhancedParams_ok success orientation
  have covered : (adjustInfo.of orientation).bottom.toInt ≤
      (raised caps adjustInfo orientation : Nat) := by
    have bottom := nonneg orientation
    unfold raised
    omega
  have ok : (setting (raised caps adjustInfo) display panelFlag adjustInfo params orientation).Ok :=
    ⟨(size orientation).1, (size orientation).2, nonneg orientation, covered⟩
  obtain ⟨avoidY, range, stands, fits, kept⟩ := rectifyRect_ok ok rfl first
  have capped : ∀ avoidHeight, above caps orientation avoidHeight = false →
      avoidHeight.toNat ≤
        (setting (raised caps adjustInfo) display panelFlag adjustInfo params orientation).cap :=
    fun avoidHeight low =>
      Nat.le_trans (Nat.le_of_not_lt (of_decide_eq_false low)) (Nat.le_max_left _ _)
  obtain ⟨rect, avoid, inside, avoidKept⟩ := calculateAvoidHeight_ok ok capped rfl range second
  rw [← rect] at stands fits kept
  constructor
  case stands => exact ⟨stands, avoid⟩
  case fits =>
    intro low
    have whole := fits low
    exact ⟨whole, avoid, inside whole.inset⟩
  case rect_kept => exact kept
  case avoidY_kept =>
    rw [← avoidY]
    exact avoidKept

/-! ## Poles -/

/-- A display of 500 by 1000 points, in both orientations. -/
def screen : DisplaySize :=
  { portrait := { width := 500, height := 1000 }, landscape := { width := 500, height := 1000 } }

/-- A keyboard of `width` by 300 points at the bottom of that display. -/
def strip (posX : Int32) (width : UInt32) (avoidY : Int32) : EnhancedLayoutParams :=
  { portrait := { rect := { posX, posY := 700, width, height := 300 }, avoidY }
    landscape := { rect := { posX, posY := 700, width, height := 300 }, avoidY } }

def insets (bottom : Int32) : FullPanelAdjustInfo :=
  { portrait := { bottom }, landscape := { bottom } }

/-- What a keyboard over the width of the display, with an inset of 50 points, becomes. -/
def laidStrip : EnhancedLayoutParams :=
  let laid : EnhancedLayoutParam :=
    { rect := { posY := 700, width := 500, height := 300 }
      panelRect := { posY := 700, width := 500, height := 300 }
      avoidY := 20
      avoidHeight := 280 }
  { portrait := laid, landscape := laid }

theorem strip_laid :
    let setting := setting (raised (fun _ => 700) (insets 50)) screen .FLG_FIXED (insets 50)
      (strip 0 500 20)
    parseEnhancedParams (above fun _ => 700) (some screen) .FLG_FIXED (insets 50) (strip 0 500 20) =
        .ok laidStrip ∧
      Laid (setting .portrait) (((insets 50).of .portrait).bottom.toInt ≤
          ((screen.of .portrait).height.toNat : Int)) (Settled (setting .portrait))
        ((strip 0 500 20).of .portrait) (laidStrip.of .portrait) := by
  intro setting
  have success : parseEnhancedParams (above fun _ => 700) (some screen) .FLG_FIXED (insets 50)
      (strip 0 500 20) = .ok laidStrip := rfl
  refine ⟨success, enhanced_layout_laid (fun _ => 700) screen .FLG_FIXED (insets 50)
    (strip 0 500 20) laidStrip ?_ ?_ success .portrait⟩
  · intro orientation
    cases orientation <;> decide
  · intro orientation
    cases orientation <;> decide

/-- The layouts of a parse are good up to `bound`, where `low` on the display altogether, and what
was `settled` is left alone. -/
def AllLaid (bound : (Orientation → Nat) → FullPanelAdjustInfo → Orientation → Nat)
    (low : Setting → Prop) (settled : Setting → Rect → Prop) : Prop :=
  ∀ (caps : Orientation → Nat) (display : DisplaySize) (panelFlag : PanelFlag)
    (adjustInfo : FullPanelAdjustInfo) (params output : EnhancedLayoutParams),
    (∀ orientation, (display.of orientation).width.toNat ≤ INT32_MAX ∧
      (display.of orientation).height.toNat ≤ INT32_MAX) →
    (∀ orientation, 0 ≤ (adjustInfo.of orientation).bottom.toInt) →
    (∀ orientation, caps orientation ≤ (display.of orientation).height.toNat) →
    parseEnhancedParams (above caps) (some display) panelFlag adjustInfo params = .ok output →
    ∀ orientation,
      let g := setting (bound caps adjustInfo) display panelFlag adjustInfo params orientation
      Laid g (low g) (settled g) (params.of orientation) (output.of orientation)

/-- A narrow fixed keyboard at the bottom of the display is widened although it fits, an inset
above the cap takes the avoid height above it, and one above the display takes the rectangle off
the display. -/
theorem widened_and_raised :
    ¬ AllLaid raised Setting.Low RectFits ∧
      ¬ AllLaid (fun caps _ => caps) Setting.Low Settled ∧
      ¬ AllLaid raised (fun _ => True) Settled := by
  have size : ∀ orientation, (screen.of orientation).width.toNat ≤ INT32_MAX ∧
      (screen.of orientation).height.toNat ≤ INT32_MAX := by
    intro orientation
    cases orientation <;> decide
  have within : ∀ orientation, 700 ≤ (screen.of orientation).height.toNat := by
    intro orientation
    cases orientation <;> decide
  refine ⟨?_, ?_, ?_⟩
  · intro all
    have laid := all (fun _ => 700) screen .FLG_FIXED (insets 50) (strip 10 300 20) laidStrip size
      (fun orientation => by cases orientation <;> decide) within rfl .portrait
    have fits : RectFits (setting (raised (fun _ => 700) (insets 50)) screen .FLG_FIXED (insets 50)
        (strip 10 300 20) .portrait) ((strip 10 300 20).of .portrait).rect :=
      ⟨⟨by decide, by decide, fun _ => by decide⟩, by decide, by decide, by decide⟩
    exact absurd (laid.rect_kept fits) (by decide)
  · intro all
    have laid := all (fun _ => 700) screen .FLG_FIXED (insets 800) (strip 0 500 100) _ size
      (fun orientation => by cases orientation <;> decide) within rfl .portrait
    exact absurd laid.stands.2.capped (by decide)
  · intro all
    have laid := all (fun _ => 700) screen .FLG_FIXED (insets 1100) (strip 0 500 600) _ size
      (fun orientation => by cases orientation <;> decide) within rfl .portrait
    exact absurd (laid.fits trivial).1.height (by decide)

end Geometry

end Imf.Panel
