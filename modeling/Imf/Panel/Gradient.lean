/-
# Imf.Panel.Gradient -- the gradient above a keyboard

A keyboard with an immersive effect shows a gradient above its panel.  `PrepareAdjustLayout`
enlarges a copy of the layout for it and stores by how much, in `changeY`; the hot areas of the
panel are later moved by that much.  A full-screen keyboard, one with avoid heights for both
orientations, grows only as far as the avoid height with the gradient asks; any other one
grows by the gradient.  Imf.Panel.Layout has the return codes alone, which are the same
(`prepareAdjustLayout_ret`).
-/
import Imf.Lib.Word32
import Imf.Panel.Cache

namespace Imf.Panel

set_option autoImplicit false

open Lib

/-! ## Orientations -/

inductive Orientation where
  | portrait
  | landscape
  deriving DecidableEq, Repr

structure ChangeY where
  portrait : UInt32 := 0
  landscape : UInt32 := 0
  deriving DecidableEq

def ChangeY.of (changeY : ChangeY) : Orientation → UInt32
  | .portrait => changeY.portrait
  | .landscape => changeY.landscape

def KeyboardLayoutParams.panelRect (param : KeyboardLayoutParams) : Orientation → Rect
  | .portrait => param.portraitPanelRect
  | .landscape => param.landscapePanelRect

def KeyboardLayoutParams.avoidHeight (param : KeyboardLayoutParams) : Orientation → Int32
  | .portrait => param.portraitAvoidHeight
  | .landscape => param.landscapeAvoidHeight

/-- The full-screen mode of `PrepareAdjustLayout`. -/
def KeyboardLayoutParams.FullScreen (param : KeyboardLayoutParams) : Prop :=
  param.landscapeAvoidHeight ≠ DEFAULT_AVOID_HEIGHT ∧ param.portraitAvoidHeight ≠ DEFAULT_AVOID_HEIGHT

instance (param : KeyboardLayoutParams) : Decidable param.FullScreen :=
  inferInstanceAs (Decidable (_ ∧ _))

namespace Gradient

/-! ## Preparing a layout -/

/-- What a preparation leaves: its return, the layout and the stored change. -/
structure Prepared where
  ret : ErrorCode
  param : KeyboardLayoutParams
  changeY : ChangeY
  deriving DecidableEq

/-- A panel that is to be `wanted` high grows upwards, and by how much. -/
def enlarge (rect : Rect) (wanted : UInt32) : Rect × UInt32 :=
  if rect.height < wanted then
    let change := wanted - rect.height
    ({ rect with height := wanted, posY := (safeSubtract rect.posY.toUInt32 change).toInt32 }, change)
  else (rect, 0)

section FullScreen

variable (param : KeyboardLayoutParams) (gradientHeight : UInt32)

/-- Both panels, as high as avoid height and gradient ask. -/
def enlarged : KeyboardLayoutParams :=
  { param with
    portraitPanelRect :=
      (enlarge param.portraitPanelRect (param.portraitAvoidHeight.toUInt32 + gradientHeight)).1
    landscapePanelRect :=
      (enlarge param.landscapePanelRect (param.landscapeAvoidHeight.toUInt32 + gradientHeight)).1 }

/-- By how much the panels grow. -/
def growth : ChangeY :=
  { portrait := (enlarge param.portraitPanelRect
    (param.portraitAvoidHeight.toUInt32 + gradientHeight)).2
    landscape := (enlarge param.landscapePanelRect
      (param.landscapeAvoidHeight.toUInt32 + gradientHeight)).2 }

/-- `FullScreenPrepare`: the change is stored and the panels are enlarged before the sums of the
avoid heights are checked. -/
def fullScreenPrepare : Prepared :=
  if param.portraitAvoidHeight < 0 ∨ param.landscapeAvoidHeight < 0 ∨ param.portraitPanelRect.posY < 0 ∨
      param.landscapePanelRect.posY < 0 then ⟨.errorInvalidRange, param, {}⟩
  else
    let changeY := growth param gradientHeight
    let param := enlarged param gradientHeight
    let gradientHeightTemp := gradientHeight.toInt32
    if param.landscapeAvoidHeight > Int32.maxValue - gradientHeightTemp then
      ⟨.errorInvalidRange, param, changeY⟩
    else
      let param := { param with
        landscapeAvoidHeight := param.landscapeAvoidHeight + gradientHeightTemp }
      if param.portraitAvoidHeight > Int32.maxValue - gradientHeightTemp then
        ⟨.errorInvalidRange, param, changeY⟩
      else
        ⟨.noError, { param with
          portraitAvoidHeight := param.portraitAvoidHeight + gradientHeightTemp }, changeY⟩

end FullScreen

/-- A panel with the gradient above it. -/
def raise (rect : Rect) (gradientHeight : UInt32) : Rect :=
  { rect with
    height := rect.height + gradientHeight
    posY := (safeSubtract rect.posY.toUInt32 gradientHeight).toInt32 }

def normalImePrepare (param : KeyboardLayoutParams) (gradientHeight : UInt32) (changeY : ChangeY) :
    Prepared :=
  if param.portraitPanelRect.posY < 0 ∨ param.landscapePanelRect.posY < 0 then
    ⟨.errorInvalidRange, param, changeY⟩
  else
    ⟨.noError,
      { param with
        portraitPanelRect := raise param.portraitPanelRect gradientHeight
        landscapePanelRect := raise param.landscapePanelRect gradientHeight },
      ⟨gradientHeight, gradientHeight⟩⟩

def prepareAdjustLayout (param : KeyboardLayoutParams) (gradientHeight : UInt32)
    (changeY : ChangeY) : Prepared :=
  if param.FullScreen then fullScreenPrepare param gradientHeight
  else normalImePrepare param gradientHeight changeY

/-! ## What a preparation can do -/

section Cases

variable {param : KeyboardLayoutParams} {gradientHeight : UInt32}

/-- Positions and avoid heights are not negative. -/
structure InRange (param : KeyboardLayoutParams) : Prop where
  portraitAvoid : 0 ≤ param.portraitAvoidHeight.toInt
  landscapeAvoid : 0 ≤ param.landscapeAvoidHeight.toInt
  portraitPosY : 0 ≤ param.portraitPanelRect.posY.toInt
  landscapePosY : 0 ≤ param.landscapePanelRect.posY.toInt

/-- The avoid height with the gradient is a signed word. -/
def Fits (avoidHeight : Int32) (gradientHeight : UInt32) : Prop :=
  avoidHeight.toInt + gradientHeight.toNat ≤ 2147483647

theorem not_inRange_iff :
    (param.portraitAvoidHeight < 0 ∨ param.landscapeAvoidHeight < 0 ∨ param.portraitPanelRect.posY < 0 ∨
      param.landscapePanelRect.posY < 0) ↔ ¬ InRange param := by
  simp only [Word32.neg_iff]
  constructor
  · intro negative ok
    obtain ⟨_, _, _, _⟩ := ok
    omega
  · intro bad
    by_contra none
    exact bad ⟨by omega, by omega, by omega, by omega⟩

/-- The check of the code, in which a gradient of half the range and more wraps twice. -/
theorem not_fits_iff {avoidHeight : Int32} :
    avoidHeight > Int32.maxValue - gradientHeight.toInt32 ↔ ¬ Fits avoidHeight gradientHeight := by
  have avoid := Word32.toInt_range avoidHeight
  have gradient := Word32.toNat_range gradientHeight
  have most : Int32.maxValue.toInt = 2147483647 := rfl
  have signed := Word32.toInt_toInt32 gradientHeight
  have limit : (Int32.maxValue - gradientHeight.toInt32).toInt = 2147483647 - gradientHeight.toNat := by
    rw [Int32.toInt_sub, most, signed]
    split
    · exact Word32.bmod_of_range (by omega) (by omega)
    · have again : (2147483647 : Int) - (gradientHeight.toNat - 4294967296) =
          2147483647 - gradientHeight.toNat + 4294967296 := by omega
      rw [again]
      exact (Int.add_bmod_right _ _).trans (Word32.bmod_of_range (by omega) (by omega))
  rw [gt_iff_lt, Word32.lt_iff, limit]
  unfold Fits
  omega

/-- The four ways through `FullScreenPrepare`. -/
theorem fullScreenPrepare_cases (param : KeyboardLayoutParams) (gradientHeight : UInt32) :
    (¬ InRange param ∧ fullScreenPrepare param gradientHeight = ⟨.errorInvalidRange, param, {}⟩) ∨
    (InRange param ∧ ¬ Fits param.landscapeAvoidHeight gradientHeight ∧
      fullScreenPrepare param gradientHeight =
        ⟨.errorInvalidRange, enlarged param gradientHeight, growth param gradientHeight⟩) ∨
    (InRange param ∧ Fits param.landscapeAvoidHeight gradientHeight ∧
      ¬ Fits param.portraitAvoidHeight gradientHeight ∧
      fullScreenPrepare param gradientHeight =
        ⟨.errorInvalidRange,
          { enlarged param gradientHeight with
            landscapeAvoidHeight := param.landscapeAvoidHeight + gradientHeight.toInt32 },
          growth param gradientHeight⟩) ∨
    (InRange param ∧ Fits param.landscapeAvoidHeight gradientHeight ∧
      Fits param.portraitAvoidHeight gradientHeight ∧
      fullScreenPrepare param gradientHeight =
        ⟨.noError,
          { enlarged param gradientHeight with
            landscapeAvoidHeight := param.landscapeAvoidHeight + gradientHeight.toInt32
            portraitAvoidHeight := param.portraitAvoidHeight + gradientHeight.toInt32 },
          growth param gradientHeight⟩) := by
  unfold fullScreenPrepare
  by_cases range : InRange param
  · rw [if_neg fun bad => not_inRange_iff.1 bad range]
    refine .inr ?_
    by_cases landscape : Fits param.landscapeAvoidHeight gradientHeight
    · refine .inr ?_
      have low : ¬ (enlarged param
        gradientHeight).landscapeAvoidHeight > Int32.maxValue - gradientHeight.toInt32 :=
        fun beyond => not_fits_iff.1 beyond landscape
      by_cases portrait : Fits param.portraitAvoidHeight gradientHeight
      · have short : ¬ (enlarged param gradientHeight).portraitAvoidHeight >
            Int32.maxValue - gradientHeight.toInt32 := fun beyond => not_fits_iff.1 beyond portrait
        exact .inr ⟨range, landscape, portrait, (if_neg low).trans (if_neg short)⟩
      · have long : (enlarged param gradientHeight).portraitAvoidHeight >
            Int32.maxValue - gradientHeight.toInt32 := not_fits_iff.2 portrait
        exact .inl ⟨range, landscape, portrait, (if_neg low).trans (if_pos long)⟩
    · have long : (enlarged param gradientHeight).landscapeAvoidHeight >
          Int32.maxValue - gradientHeight.toInt32 := not_fits_iff.2 landscape
      exact .inl ⟨range, landscape, if_pos long⟩
  · exact .inl ⟨range, if_pos (not_inRange_iff.2 range)⟩

/-- The two ways through `NormalImePrepare`. -/
theorem normalImePrepare_cases (param : KeyboardLayoutParams) (gradientHeight : UInt32)
    (changeY : ChangeY) :
    ((param.portraitPanelRect.posY.toInt < 0 ∨ param.landscapePanelRect.posY.toInt < 0) ∧
      normalImePrepare param gradientHeight changeY = ⟨.errorInvalidRange, param, changeY⟩) ∨
    (0 ≤ param.portraitPanelRect.posY.toInt ∧ 0 ≤ param.landscapePanelRect.posY.toInt ∧
      normalImePrepare param gradientHeight changeY =
        ⟨.noError,
          { param with
            portraitPanelRect := raise param.portraitPanelRect gradientHeight
            landscapePanelRect := raise param.landscapePanelRect gradientHeight },
          ⟨gradientHeight, gradientHeight⟩⟩) := by
  unfold normalImePrepare
  simp only [Word32.neg_iff]
  by_cases negative : param.portraitPanelRect.posY.toInt < 0 ∨ param.landscapePanelRect.posY.toInt < 0
  · exact .inl ⟨negative, if_pos negative⟩
  · exact .inr ⟨by omega, by omega, if_neg negative⟩

end Cases

/-- The return is the one that the layout cache sees. -/
theorem prepareAdjustLayout_ret (param : KeyboardLayoutParams) (gradientHeight : UInt32)
    (changeY : ChangeY) :
    (prepareAdjustLayout param gradientHeight changeY).ret =
      Panel.prepareAdjustLayout param gradientHeight := by
  unfold prepareAdjustLayout
  by_cases full : param.FullScreen
  · have code : Panel.prepareAdjustLayout param gradientHeight =
      Panel.fullScreenPrepare param gradientHeight :=
      if_pos full
    rw [if_pos full, code]
    unfold Panel.fullScreenPrepare
    obtain ⟨range, same⟩ | ⟨range, long, same⟩ | ⟨range, landscape, long, same⟩ |
      ⟨range, landscape, portrait, same⟩ := fullScreenPrepare_cases param gradientHeight
    · rw [same, if_pos (not_inRange_iff.2 range)]
    · rw [same, if_neg (mt not_inRange_iff.1 (not_not_intro range)), if_pos (not_fits_iff.2 long)]
    · rw [same, if_neg (mt not_inRange_iff.1 (not_not_intro range)),
        if_neg (mt not_fits_iff.1 (not_not_intro landscape)), if_pos (not_fits_iff.2 long)]
    · rw [same, if_neg (mt not_inRange_iff.1 (not_not_intro range)),
        if_neg (mt not_fits_iff.1 (not_not_intro landscape)),
        if_neg (mt not_fits_iff.1 (not_not_intro portrait))]
  · have code : Panel.prepareAdjustLayout param gradientHeight = Panel.normalImePrepare param :=
      if_neg full
    rw [if_neg full, code]
    unfold normalImePrepare Panel.normalImePrepare
    split <;> rfl

/-! ## Sending a layout -/

/-- What the window manager accepted: a layout for both orientations with the scene board, a
window otherwise. -/
inductive Handed where
  | layout (param : KeyboardLayoutParams)
  | window (gravity : WindowGravity) (rect : Rect)
  deriving DecidableEq

structure Outcome where
  state : State
  changeY : ChangeY
  ret : ErrorCode
  applied : Option Handed := none
  deriving DecidableEq

section AdjustLayout

variable (s : State) (answers : Answers) (isPortrait : Bool) (param : KeyboardLayoutParams)

/-- What `ExecuteAdjustLayout` hands over. -/
def handed : Handed :=
  if s.isScbEnable then .layout param
  else .window param.gravity
    (if isPortrait then param.portraitKeyboardRect else param.landscapeKeyboardRect)

/-- The copy of the layout and the change, where there is a gradient. -/
def prepare (changeY : ChangeY) : Prepared :=
  if answers.gradientHeight ≠ 0 then prepareAdjustLayout param answers.gradientHeight changeY
  else ⟨.noError, param, {}⟩

/-- `AdjustLayout`.  The prepared copy says whether there is a shadow; what is sent is the layout
itself. -/
def adjustLayout (changeY : ChangeY) (isColdStartRequest : Bool) : Outcome :=
  if !s.window then { state := s, changeY, ret := .errorNullPointer }
  else
    let prepared := prepare answers param changeY
    let changeY := prepared.changeY
    if prepared.ret ≠ .noError then { state := s, changeY, ret := prepared.ret }
    else if isColdStartRequest && s.hasJsAdjust then
      { state := { s with hasImfAdjust := true, hasJsAdjust := false }, changeY, ret := .noError }
    else
      let s := { s with hasImfAdjust := isColdStartRequest, hasJsAdjust := !isColdStartRequest }
      if s.executeAdjustLayout answers then
        { state := s, changeY, ret := .noError, applied := some (handed s isPortrait param) }
      else { state := s, changeY, ret := .errorWindowManager }

/-- Without change and layout it is the call that the layout cache sees. -/
theorem adjustLayout_forget (changeY : ChangeY) (isColdStartRequest : Bool) :
    let out := adjustLayout s answers isPortrait param changeY isColdStartRequest
    (⟨out.state, out.ret, out.applied.isSome⟩ : Panel.Outcome) =
      s.adjustLayout answers param isColdStartRequest := by
  have ret : (prepare answers param changeY).ret = answers.prepare param := by
    unfold prepare Answers.prepare
    split
    · exact prepareAdjustLayout_ret _ _ _
    · rfl
  unfold adjustLayout State.adjustLayout
  rw [← ret]
  dsimp only
  split
  · rfl
  · split
    · rfl
    · split
      · rfl
      · split <;> rfl

/-- A layout that was applied was sent as it came, after a preparation that succeeded. -/
theorem applied_layout {changeY : ChangeY} {isColdStartRequest : Bool} {sent : KeyboardLayoutParams}
    (applied : (adjustLayout s answers isPortrait param changeY isColdStartRequest).applied =
      some (.layout sent)) :
    sent = param ∧ (prepare answers param changeY).ret = .noError ∧
      (adjustLayout s answers isPortrait param changeY isColdStartRequest).changeY =
        (prepare answers param changeY).changeY := by
  unfold adjustLayout at applied ⊢
  dsimp only at applied ⊢
  split at applied
  · cases applied
  rename_i window
  rw [if_neg window]
  split at applied
  · cases applied
  rename_i prepared
  rw [if_neg prepared]
  split at applied
  · cases applied
  rename_i early
  rw [if_neg early]
  split at applied
  · rename_i executed
    rw [if_pos executed]
    refine ⟨?_, Decidable.not_not.1 prepared, rfl⟩
    have shown := Option.some.inj applied
    unfold handed at shown
    split at shown
    · exact (Handed.layout.inj shown).symm
    · cases shown
  · cases applied

end AdjustLayout

/-! ## The panel that is shown -/

def bottom (rect : Rect) : Int := rect.posY.toInt + rect.height.toNat

/-- The panel handed to the window manager has the gradient above it: it is higher by the stored
change, ends where it was asked to end, and in full-screen mode has room for the avoid height
with the gradient. -/
structure Shows (param sent : KeyboardLayoutParams) (gradientHeight : UInt32) (changeY : ChangeY)
    (orientation : Orientation) : Prop where
  height : (sent.panelRect orientation).height.toNat =
    (param.panelRect orientation).height.toNat + (changeY.of orientation).toNat
  bottom : ((changeY.of orientation).toNat : Int) ≤ (param.panelRect orientation).posY.toInt →
    bottom (sent.panelRect orientation) = bottom (param.panelRect orientation)
  room : param.FullScreen → (param.avoidHeight orientation).toInt + gradientHeight.toNat ≤
    (sent.panelRect orientation).height.toNat

/-- There is nothing to enlarge: the panels of a full-screen keyboard are as high as avoid height
and gradient together, and any other keyboard has no gradient. -/
def Untouched (param : KeyboardLayoutParams) (gradientHeight : UInt32) : Prop :=
  (param.FullScreen → ∀ orientation, (param.avoidHeight orientation).toInt + gradientHeight.toNat ≤
    (param.panelRect orientation).height.toNat) ∧
  (¬ param.FullScreen → gradientHeight = 0)

section Shown

variable {param : KeyboardLayoutParams} {gradientHeight : UInt32}

theorem growth_of (orientation : Orientation) :
    (growth param gradientHeight).of orientation =
      (enlarge (param.panelRect orientation)
        ((param.avoidHeight orientation).toUInt32 + gradientHeight)).2 := by
  cases orientation <;> rfl

/-- Where the sum fits, it is the height that the code computes. -/
theorem wanted_toNat {avoidHeight : Int32} (nonneg : 0 ≤ avoidHeight.toInt)
    (fits : Fits avoidHeight gradientHeight) :
    ((avoidHeight.toUInt32 + gradientHeight).toNat : Int) = avoidHeight.toInt +
      gradientHeight.toNat := by
  have unsigned := Word32.toNat_toUInt32_of_nonneg nonneg
  rw [Word32.toNat_add]
  unfold Fits at fits
  omega

theorem InRange.avoid (range : InRange param) (orientation : Orientation) :
    0 ≤ (param.avoidHeight orientation).toInt := by
  cases orientation with
  | portrait => exact range.portraitAvoid
  | landscape => exact range.landscapeAvoid

/-- A panel that is high enough does not grow. -/
theorem growth_zero (range : InRange param) {orientation : Orientation}
    (fits : Fits (param.avoidHeight orientation) gradientHeight)
    (enough : (param.avoidHeight orientation).toInt + gradientHeight.toNat ≤
      (param.panelRect orientation).height.toNat) :
    (growth param gradientHeight).of orientation = 0 := by
  have wanted := wanted_toNat (range.avoid orientation) fits
  rw [growth_of, enlarge, if_neg]
  rw [Word32.ult_iff]
  omega

/-- What a successful preparation stores where nothing is to be enlarged. -/
theorem prepare_untouched {answers : Answers} {changeY : ChangeY}
    (prepared : (prepare answers param changeY).ret = .noError)
    (untouched : Untouched param answers.gradientHeight) (orientation : Orientation) :
    (prepare answers param changeY).changeY.of orientation = 0 := by
  unfold prepare at prepared ⊢
  by_cases none : answers.gradientHeight = 0
  · rw [if_neg (not_not_intro none)]
    cases orientation <;> rfl
  · have full : param.FullScreen := by
      by_contra normal
      exact none (untouched.2 normal)
    rw [if_pos none, prepareAdjustLayout, if_pos full] at prepared ⊢
    obtain ⟨range, same⟩ | ⟨range, long, same⟩ | ⟨range, landscape, long, same⟩ |
      ⟨range, landscape, portrait, same⟩ := fullScreenPrepare_cases param answers.gradientHeight
    · rw [same] at prepared
      cases prepared
    · rw [same] at prepared
      cases prepared
    · rw [same] at prepared
      cases prepared
    · rw [same]
      refine growth_zero range ?_ (untouched.1 full orientation)
      cases orientation with
      | portrait => exact portrait
      | landscape => exact landscape

/-- A keyboard that is not full-screen stores the gradient itself. -/
theorem prepare_normal {answers : Answers} {changeY : ChangeY}
    (prepared : (prepare answers param changeY).ret = .noError) (normal : ¬ param.FullScreen)
    (orientation : Orientation) : (prepare answers param changeY).changeY.of orientation =
      answers.gradientHeight := by
  unfold prepare at prepared ⊢
  by_cases none : answers.gradientHeight = 0
  · rw [if_neg (not_not_intro none), none]
    cases orientation <;> rfl
  · rw [if_pos none, prepareAdjustLayout, if_neg normal] at prepared ⊢
    obtain ⟨negative, same⟩ | ⟨portrait, landscape, same⟩ :=
      normalImePrepare_cases param answers.gradientHeight changeY
    · rw [same] at prepared
      cases prepared
    · rw [same]
      cases orientation <;> rfl

end Shown

/-- **When the shown panel has its gradient.**  The layout is sent as it came, so stored change and
shown panel agree in both orientations exactly where the preparation has nothing to enlarge. -/
theorem gradient_shown (s : State) (answers : Answers) (isPortrait : Bool)
    (param : KeyboardLayoutParams)
    (changeY : ChangeY) (isColdStartRequest : Bool) (sent : KeyboardLayoutParams)
    (applied : (adjustLayout s answers isPortrait param changeY isColdStartRequest).applied =
      some (.layout sent)) :
    (∀ orientation, Shows param sent answers.gradientHeight
        (adjustLayout s answers isPortrait param changeY isColdStartRequest).changeY orientation) ↔
      Untouched param answers.gradientHeight := by
  obtain ⟨rfl, prepared, stored⟩ := applied_layout s answers isPortrait param applied
  rw [stored]
  constructor
  · intro shows
    refine ⟨fun full orientation => (shows orientation).room full, fun normal => ?_⟩
    have same := (shows .portrait).height
    rw [prepare_normal prepared normal .portrait] at same
    exact UInt32.toNat_inj.1 (by rw [UInt32.toNat_zero]; omega)
  · intro untouched orientation
    have zero := prepare_untouched prepared untouched orientation
    refine ⟨?_, fun _ => rfl, fun full => untouched.1 full orientation⟩
    rw [zero]
    rfl

/-! ## All or nothing -/

/-- No sum of the preparation leaves its 32 bits. -/
def NoWrap (param : KeyboardLayoutParams) (gradientHeight : UInt32)
    (orientation : Orientation) : Prop :=
  (param.FullScreen →
    (param.avoidHeight orientation).toUInt32.toNat + gradientHeight.toNat < 4294967296 ∧
    -2147483648 ≤ (param.avoidHeight orientation).toInt + gradientHeight.toInt32.toInt ∧
    (param.avoidHeight orientation).toInt + gradientHeight.toInt32.toInt < 2147483648) ∧
  (¬ param.FullScreen → (param.panelRect orientation).height.toNat + gradientHeight.toNat < 4294967296)

/-- A preparation that succeeds, for one orientation. -/
structure Sound (param : KeyboardLayoutParams) (gradientHeight : UInt32) (out : KeyboardLayoutParams)
    (orientation : Orientation) : Prop where
  noWrap : NoWrap param gradientHeight orientation
  height : (param.panelRect orientation).height.toNat ≤ (out.panelRect orientation).height.toNat
  posY : 0 ≤ (out.panelRect orientation).posY.toInt
  avoid : param.FullScreen →
    (out.avoidHeight orientation).toInt = (param.avoidHeight orientation).toInt + gradientHeight.toNat
  kept : ¬ param.FullScreen → out.avoidHeight orientation = param.avoidHeight orientation

/-- An error that leaves change and layout as they were, or a sound layout. -/
def AllOrNothing (param : KeyboardLayoutParams) (gradientHeight : UInt32) (changeY : ChangeY)
    (out : Prepared) : Prop :=
  (out.ret ≠ .noError ∧ out.changeY = changeY ∧ out.param = param) ∨
    (out.ret = .noError ∧ ∀ orientation, Sound param gradientHeight out.param orientation)

/-- In full-screen mode both sums fit, or the preparation fails with no change stored before it
and, if the range is kept, with the landscape sum and before a panel was enlarged.  Otherwise
a position is negative, or both heights have room for the gradient. -/
def Careful (param : KeyboardLayoutParams) (gradientHeight : UInt32) (changeY : ChangeY) : Prop :=
  (param.FullScreen →
    (¬ InRange param → changeY = {}) ∧
    (InRange param →
      (Fits param.landscapeAvoidHeight gradientHeight ∧ Fits param.portraitAvoidHeight gradientHeight) ∨
      (¬ Fits param.landscapeAvoidHeight gradientHeight ∧ changeY = {} ∧ ∀ orientation,
        ¬ (param.panelRect orientation).height < (param.avoidHeight orientation).toUInt32 +
          gradientHeight))) ∧
  (¬ param.FullScreen →
    (param.portraitPanelRect.posY.toInt < 0 ∨ param.landscapePanelRect.posY.toInt < 0) ∨
    ∀ orientation, (param.panelRect orientation).height.toNat + gradientHeight.toNat < 4294967296)

section AllOrNothing

variable {param : KeyboardLayoutParams} {gradientHeight : UInt32} {changeY : ChangeY}

theorem allOrNothing_error {out : Prepared} (invalid : out.ret = .errorInvalidRange) :
    AllOrNothing param gradientHeight changeY out ↔ out.changeY = changeY ∧ out.param = param := by
  have error : out.ret ≠ .noError := by
    rw [invalid]
    decide
  constructor
  · rintro (⟨-, kept⟩ | ⟨success, -⟩)
    · exact kept
    · exact absurd success error
  · exact fun kept => .inl ⟨error, kept⟩

theorem allOrNothing_success {out : Prepared} (success : out.ret = .noError) :
    AllOrNothing param gradientHeight changeY out ↔ ∀ orientation,
      Sound param gradientHeight out.param orientation := by
  constructor
  · rintro (⟨error, -⟩ | ⟨-, sound⟩)
    · exact absurd success error
    · exact sound
  · exact fun sound => .inr ⟨success, sound⟩

/-- What is left of a position is not negative. -/
theorem safeSubtract_nonneg {x : Int32} (nonneg : 0 ≤ x.toInt) (change : UInt32) :
    0 ≤ (safeSubtract x.toUInt32 change).toInt32.toInt := by
  have range := Word32.toInt_range x
  have unsigned := Word32.toNat_toUInt32_of_nonneg nonneg
  have less : (safeSubtract x.toUInt32 change).toNat ≤ x.toUInt32.toNat := by
    unfold safeSubtract
    split
    · exact Nat.zero_le _
    · rename_i enough
      rw [Word32.ult_iff] at enough
      rw [Word32.toNat_sub (by omega)]
      omega
  rw [Word32.toInt_toInt32_of_lt (by omega)]
  omega

theorem enlarge_height (rect : Rect) (wanted : UInt32) :
    rect.height.toNat ≤ (enlarge rect wanted).1.height.toNat := by
  unfold enlarge
  split
  · rename_i less
    exact Nat.le_of_lt (Word32.ult_iff.1 less)
  · exact Nat.le_refl _

theorem enlarge_posY {rect : Rect} (nonneg : 0 ≤ rect.posY.toInt) (wanted : UInt32) :
    0 ≤ (enlarge rect wanted).1.posY.toInt := by
  unfold enlarge
  split
  · exact safeSubtract_nonneg nonneg _
  · exact nonneg

/-- A panel is left as it is exactly where it is high enough. -/
theorem enlarge_eq_iff (rect : Rect) (wanted : UInt32) :
    (enlarge rect wanted).1 = rect ↔ ¬ rect.height < wanted := by
  unfold enlarge
  split
  · rename_i less
    refine iff_of_false (fun same => ?_) (not_not_intro less)
    have height : wanted = rect.height := congrArg Rect.height same
    rw [height, Word32.ult_iff] at less
    exact Nat.lt_irrefl _ less
  · rename_i enough
    exact iff_of_true rfl enough

theorem enlarged_eq_iff : enlarged param gradientHeight = param ↔ ∀ orientation,
    ¬ (param.panelRect orientation).height < (param.avoidHeight orientation).toUInt32 +
      gradientHeight := by
  constructor
  · intro same orientation
    rw [← enlarge_eq_iff]
    cases orientation with
    | portrait => exact congrArg KeyboardLayoutParams.portraitPanelRect same
    | landscape => exact congrArg KeyboardLayoutParams.landscapePanelRect same
  · intro enough
    have portrait := (enlarge_eq_iff _ _).2 (enough .portrait)
    have landscape := (enlarge_eq_iff _ _).2 (enough .landscape)
    simp only [KeyboardLayoutParams.panelRect, KeyboardLayoutParams.avoidHeight] at portrait landscape
    rw [enlarged, portrait, landscape]

/-- With the panels high enough no change is stored. -/
theorem growth_eq_of_enough (enough : ∀ orientation,
    ¬ (param.panelRect orientation).height < (param.avoidHeight orientation).toUInt32 +
      gradientHeight) :
    growth param gradientHeight = {} := by
  have portrait := enough .portrait
  have landscape := enough .landscape
  simp only [KeyboardLayoutParams.panelRect, KeyboardLayoutParams.avoidHeight] at portrait landscape
  rw [growth, enlarge, enlarge, if_neg portrait, if_neg landscape]

/-- The gradient of a sum that fits is a signed word, and the signed sum is the sum. -/
theorem avoid_sum {avoidHeight : Int32} (nonneg : 0 ≤ avoidHeight.toInt)
    (fits : Fits avoidHeight gradientHeight) :
    gradientHeight.toInt32.toInt = gradientHeight.toNat ∧
      (avoidHeight + gradientHeight.toInt32).toInt = avoidHeight.toInt + gradientHeight.toNat := by
  unfold Fits at fits
  have signed : gradientHeight.toInt32.toInt = gradientHeight.toNat :=
    Word32.toInt_toInt32_of_lt (by omega)
  refine ⟨signed, ?_⟩
  rw [Word32.toInt_add (by omega) (by omega), signed]

theorem sound_fullScreen (full : param.FullScreen) {out : KeyboardLayoutParams}
    {orientation : Orientation} (avoid : 0 ≤ (param.avoidHeight orientation).toInt)
    (posY : 0 ≤ (param.panelRect orientation).posY.toInt)
    (fits : Fits (param.avoidHeight orientation) gradientHeight)
    (panel : out.panelRect orientation =
      (enlarge (param.panelRect orientation)
        ((param.avoidHeight orientation).toUInt32 + gradientHeight)).1)
    (sum : out.avoidHeight orientation = param.avoidHeight orientation + gradientHeight.toInt32) :
    Sound param gradientHeight out orientation := by
  obtain ⟨signed, summed⟩ := avoid_sum avoid fits
  have unsigned := Word32.toNat_toUInt32_of_nonneg avoid
  constructor
  case noWrap =>
    unfold Fits at fits
    exact ⟨fun _ => ⟨by omega, by omega, by omega⟩, fun normal => absurd full normal⟩
  case height =>
    rw [panel]
    exact enlarge_height _ _
  case posY =>
    rw [panel]
    exact enlarge_posY posY _
  case avoid =>
    intro _
    rw [sum]
    exact summed
  case kept => exact fun normal => absurd full normal

theorem sound_normal (normal : ¬ param.FullScreen) {out : KeyboardLayoutParams}
    {orientation : Orientation} (posY : 0 ≤ (param.panelRect orientation).posY.toInt)
    (panel : out.panelRect orientation = raise (param.panelRect orientation) gradientHeight)
    (kept : out.avoidHeight orientation = param.avoidHeight orientation) :
    Sound param gradientHeight out orientation ↔
      (param.panelRect orientation).height.toNat + gradientHeight.toNat < 4294967296 := by
  constructor
  · exact fun sound => sound.noWrap.2 normal
  · intro small
    constructor
    case noWrap => exact ⟨fun full => absurd full normal, fun _ => small⟩
    case height =>
      have sum : (raise (param.panelRect orientation) gradientHeight).height.toNat =
          ((param.panelRect orientation).height.toNat + gradientHeight.toNat) % 4294967296 :=
        Word32.toNat_add _ _
      rw [panel, sum]
      omega
    case posY =>
      rw [panel]
      exact safeSubtract_nonneg posY _
    case avoid => exact fun full => absurd full normal
    case kept => exact fun _ => kept

theorem fullScreen_allOrNothing (full : param.FullScreen) :
    AllOrNothing param gradientHeight changeY (fullScreenPrepare param gradientHeight) ↔
      (¬ InRange param → changeY = {}) ∧
      (InRange param →
        (Fits param.landscapeAvoidHeight gradientHeight ∧
          Fits param.portraitAvoidHeight gradientHeight) ∨
        (¬ Fits param.landscapeAvoidHeight gradientHeight ∧ changeY = {} ∧ ∀ orientation,
          ¬ (param.panelRect orientation).height < (param.avoidHeight orientation).toUInt32 +
            gradientHeight)) := by
  obtain ⟨range, same⟩ | ⟨range, long, same⟩ | ⟨range, landscape, long, same⟩ |
    ⟨range, landscape, portrait, same⟩ := fullScreenPrepare_cases param gradientHeight
  · rw [same, allOrNothing_error rfl]
    constructor
    · exact fun kept => ⟨fun _ => kept.1.symm, fun inside => absurd inside range⟩
    · exact fun careful => ⟨(careful.1 range).symm, rfl⟩
  · rw [same, allOrNothing_error rfl]
    constructor
    · rintro ⟨stored, kept⟩
      have enough := enlarged_eq_iff.1 kept
      rw [growth_eq_of_enough enough] at stored
      exact ⟨fun outside => absurd range outside, fun _ => .inr ⟨long, stored.symm, enough⟩⟩
    · intro careful
      obtain ⟨fits, -⟩ | ⟨-, none, enough⟩ := careful.2 range
      · exact absurd fits long
      · exact ⟨(growth_eq_of_enough enough).trans none.symm, enlarged_eq_iff.2 enough⟩
  · -- The landscape sum has been stored by the time the portrait one fails.
    rw [same, allOrNothing_error rfl]
    refine iff_of_false ?_ ?_
    · rintro ⟨-, kept⟩
      have sum : param.landscapeAvoidHeight + gradientHeight.toInt32 = param.landscapeAvoidHeight :=
        congrArg KeyboardLayoutParams.landscapeAvoidHeight kept
      have summed := (avoid_sum range.landscapeAvoid landscape).2
      rw [sum] at summed
      have portrait := Word32.toInt_range param.portraitAvoidHeight
      exact long (by unfold Fits; omega)
    · intro careful
      obtain ⟨-, fits⟩ | ⟨short, -⟩ := careful.2 range
      · exact long fits
      · exact short landscape
  · rw [same, allOrNothing_success rfl]
    refine iff_of_true ?_ ⟨fun outside => absurd range outside, fun _ => .inl ⟨landscape, portrait⟩⟩
    intro orientation
    cases orientation with
    | portrait => exact sound_fullScreen full range.portraitAvoid range.portraitPosY portrait rfl rfl
    | landscape => exact sound_fullScreen full range.landscapeAvoid range.landscapePosY landscape rfl rfl

theorem normal_allOrNothing (normal : ¬ param.FullScreen) :
    AllOrNothing param gradientHeight changeY (normalImePrepare param gradientHeight changeY) ↔
      (param.portraitPanelRect.posY.toInt < 0 ∨ param.landscapePanelRect.posY.toInt < 0) ∨
      ∀ orientation, (param.panelRect orientation).height.toNat + gradientHeight.toNat <
        4294967296 := by
  obtain ⟨negative, same⟩ | ⟨portrait, landscape, same⟩ :=
    normalImePrepare_cases param gradientHeight changeY
  · rw [same, allOrNothing_error rfl]
    exact iff_of_true ⟨rfl, rfl⟩ (.inl negative)
  · rw [same, allOrNothing_success rfl]
    have each : ∀ orientation, Sound param gradientHeight
        { param with
          portraitPanelRect := raise param.portraitPanelRect gradientHeight
          landscapePanelRect := raise param.landscapePanelRect gradientHeight } orientation ↔
        (param.panelRect orientation).height.toNat + gradientHeight.toNat < 4294967296 := by
      intro orientation
      cases orientation with
      | portrait => exact sound_normal normal portrait rfl rfl
      | landscape => exact sound_normal normal landscape rfl rfl
    constructor
    · exact fun sound => .inr fun orientation => (each orientation).1 (sound orientation)
    · rintro (negative | small)
      · omega
      · exact fun orientation => (each orientation).2 (small orientation)

end AllOrNothing

/-- **When a preparation is all or nothing**, for every layout, gradient and stored change. -/
theorem prepare_all_or_nothing (param : KeyboardLayoutParams) (gradientHeight : UInt32)
    (changeY : ChangeY) :
    AllOrNothing param gradientHeight changeY (prepareAdjustLayout param gradientHeight changeY) ↔
      Careful param gradientHeight changeY := by
  unfold prepareAdjustLayout Careful
  by_cases full : param.FullScreen
  · rw [if_pos full, fullScreen_allOrNothing full]
    exact ⟨fun careful => ⟨fun _ => careful, fun normal => absurd full normal⟩,
      fun careful => careful.1 full⟩
  · rw [if_neg full, normal_allOrNothing full]
    exact ⟨fun careful => ⟨fun impossible => absurd impossible full, fun _ => careful⟩,
      fun careful => careful.2 full⟩

/-! ## Poles -/

/-- A panel of 300 points at 700, in both orientations. -/
def plain : KeyboardLayoutParams :=
  { portraitPanelRect := { posY := 700, width := 500, height := 300 }
    landscapePanelRect := { posY := 700, width := 500, height := 300 } }

/-- A full-screen keyboard that is high enough for its gradient. -/
def roomy : KeyboardLayoutParams :=
  { plain with portraitAvoidHeight := 200, landscapeAvoidHeight := 250 }

theorem roomy_shown :
    (adjustLayout {} { gradientHeight := 40 } true roomy {} false).applied = some (.layout roomy) ∧
      ∀ orientation, Shows roomy roomy 40
        (adjustLayout {} { gradientHeight := 40 } true roomy {} false).changeY
        orientation := by
  have applied : (adjustLayout {} { gradientHeight := 40 } true roomy {} false).applied =
    some (.layout roomy) := by
    decide
  refine ⟨applied, (gradient_shown {} { gradientHeight := 40 } true roomy {} false roomy applied).2
    ⟨?_, ?_⟩⟩
  · intro _ orientation
    cases orientation <;> decide
  · exact fun normal => absurd (by decide : roomy.FullScreen) normal

/-- A gradient of 40 points is stored and not shown. -/
theorem plain_not_shown :
    ¬ ∀ (s : State) (answers : Answers) (isPortrait : Bool) (param : KeyboardLayoutParams)
    (changeY : ChangeY)
      (isColdStartRequest : Bool) (sent : KeyboardLayoutParams),
      (adjustLayout s answers isPortrait param changeY isColdStartRequest).applied =
        some (.layout sent) →
      ∀ orientation, Shows param sent answers.gradientHeight
        (adjustLayout s answers isPortrait param changeY isColdStartRequest).changeY orientation := by
  intro all
  have shows := all {} { gradientHeight := 40 } true plain {} false plain (by decide) .portrait
  exact absurd shows.height (by decide)

/-- The portrait sum does not fit: the landscape one is stored already, and so is a change. -/
theorem half_prepared :
    ¬ ∀ (param : KeyboardLayoutParams) (gradientHeight : UInt32) (changeY : ChangeY),
      AllOrNothing param gradientHeight changeY (prepareAdjustLayout param gradientHeight changeY) := by
  intro all
  have kept := all { plain with portraitAvoidHeight := 2147483647, landscapeAvoidHeight := 290 } 40 {}
  rw [allOrNothing_error (by decide)] at kept
  exact absurd kept (by decide)

end Gradient

end Imf.Panel
