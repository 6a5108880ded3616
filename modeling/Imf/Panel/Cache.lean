/-
# Imf.Panel.Cache -- what a panel remembers of its layout

A panel keeps the layout it has sent to the window manager, and moves, resizes and rotations
start from what it keeps.  It writes the new layout down before it sends it.  Then the gradient
can be out of range, the request can be one of a cold start that comes too late, and the window
manager can refuse; an enhanced layout is reported as failed when its hot areas are refused,
after it has been applied; and without the scene board `ChangePanelFlag` writes the flag before
the parameters are checked.  None of these puts the old layout back.

`cache_kept` says that these are the cases in which the cache goes wrong, and the only ones
(`Clean`).  The pole `refused_layout_cached` has a run for three of them.
-/
import Imf.Panel.Layout

namespace Imf.Panel

set_option autoImplicit false

open Lib (Meets meets_iff_meets)

/-! ## The panel -/

/-- The four cached values. -/
structure Layout where
  keyboardLayoutParams : KeyboardLayoutParams := {}
  enhancedLayoutParams : EnhancedLayoutParams := {}
  isInEnhancedAdjust : Bool := false
  panelFlag : PanelFlag := .FLG_FIXED
  deriving DecidableEq

/-- The panel, with the layout that the window manager last accepted. -/
structure State where
  /-- The window is there. -/
  window : Bool := true
  isScbEnable : Bool := true
  hasImfAdjust : Bool := false
  hasJsAdjust : Bool := false
  cache : Layout := {}
  accepted : Layout := {}
  deriving DecidableEq

/-- What the panel is told in one call. -/
structure Answers where
  displaySize : Option DisplaySize := none
  isNeedConfig : Bool := false
  getAdjustInfo : Except ErrorCode FullPanelAdjustInfo := .ok {}
  gradientHeight : UInt32 := 0
  /-- `AdjustKeyboardLayout`, with the scene board. -/
  adjustKeyboardLayout : Bool := true
  /-- `SetWindowGravity`, `Resize` and `MoveTo`, without it. -/
  setWindowGravity : Bool := true
  resize : Bool := true
  moveTo : Bool := true
  setKeyboardTouchHotAreas : Bool := true
  surfaceNode : Bool := true
  /-- `SetWindowGravity` of `UpdatePanelFLagToWindow`. -/
  setFlagGravity : Bool := true

/-- How a call ends: the state, what it returns, and whether its layout has been applied. -/
structure Outcome where
  state : State
  ret : ErrorCode
  applied : Bool := false
  deriving DecidableEq

inductive Call where
  | adjustPanelRect (panelFlag : PanelFlag) (layoutParams : LayoutParams)
      (needConfig isColdStartRequest : Bool)
      (answers : Answers)
  | adjustEnhancedPanelRect (panelFlag : PanelFlag) (params : EnhancedLayoutParams)
      (isColdStartRequest : Bool)
      (answers : Answers)
  | changePanelFlag (panelFlag : PanelFlag) (answers : Answers)

/-- `GetAdjustInfo` as `ParseParams` asks for it. -/
def Answers.plainAdjustInfo (answers : Answers) (needConfig : Bool) : FullPanelAdjustInfo :=
  if needConfig && answers.isNeedConfig then
    match answers.getAdjustInfo with
    | .ok adjustInfo => adjustInfo
    | .error _ => {}
  else {}

/-- The gradient of the panel fits the layout. -/
def Answers.prepare (answers : Answers) (param : KeyboardLayoutParams) : ErrorCode :=
  if answers.gradientHeight ≠ 0 then prepareAdjustLayout param answers.gradientHeight else .noError

/-- What `UpdateLayoutInfo` writes. -/
def layoutInfo (panelFlag : PanelFlag) (params : LayoutParams) (enhancedParams : EnhancedLayoutParams)
    (wmsParams : KeyboardLayoutParams) (isEnhanced : Bool) : Layout :=
  { keyboardLayoutParams := wmsParams
    enhancedLayoutParams :=
      if isEnhanced then enhancedParams
      else
        { isFullScreen := false, portrait := { rect := params.portraitRect }
          landscape := { rect := params.landscapeRect } }
    isInEnhancedAdjust := isEnhanced
    panelFlag }

namespace State

variable (s : State) (answers : Answers)

/-- `ExecuteAdjustLayout`: the window manager accepts the layout. -/
def executeAdjustLayout : Bool :=
  if !s.isScbEnable then answers.setWindowGravity && answers.resize && answers.moveTo
  else answers.adjustKeyboardLayout

/-- `AdjustLayout`.  Of a cold start and a request of the input method, the one that comes second
notices the other; a cold start is then left out. -/
def adjustLayout (param : KeyboardLayoutParams) (isColdStartRequest : Bool) : Outcome :=
  if !s.window then ⟨s, .errorNullPointer, false⟩
  else if answers.prepare param ≠ .noError then ⟨s, answers.prepare param, false⟩
  else if isColdStartRequest && s.hasJsAdjust then
    ⟨{ s with hasImfAdjust := true, hasJsAdjust := false }, .noError, false⟩
  else
    let s := { s with hasImfAdjust := isColdStartRequest, hasJsAdjust := !isColdStartRequest }
    if s.executeAdjustLayout answers then ⟨s, .noError, true⟩ else ⟨s, .errorWindowManager, false⟩

/-- The layout is written down and sent. -/
def sendLayout (layout : Layout) (isColdStartRequest : Bool) : Outcome :=
  let s := { s with cache := layout }
  let sent := s.adjustLayout answers layout.keyboardLayoutParams isColdStartRequest
  let s := if sent.applied then { sent.state with accepted := layout } else sent.state
  if sent.ret ≠ .noError then ⟨s, .errorWindowManager, false⟩ else ⟨s, .noError, sent.applied⟩

def adjustPanelRect (panelFlag : PanelFlag) (layoutParams : LayoutParams)
    (needConfig isColdStartRequest : Bool) :
    Outcome :=
  if !s.window then ⟨s, .errorWindowManager, false⟩
  else
    match parseParams answers.displaySize
      (answers.plainAdjustInfo needConfig) panelFlag layoutParams with
    | .error ret => ⟨s, ret, false⟩
    | .ok wmsParams =>
        s.sendLayout answers (layoutInfo panelFlag layoutParams {} wmsParams false) isColdStartRequest

/-- The hot areas follow the layout, applied or not. -/
def setHotAreasOnAdjust (sent : Outcome) : Outcome :=
  if sent.ret ≠ .noError then sent
  else if answers.setKeyboardTouchHotAreas then sent
  else { sent with ret := .errorWindowManager }

def adjustEnhancedPanelRect (panelFlag : PanelFlag) (params : EnhancedLayoutParams)
    (isColdStartRequest : Bool) :
    Outcome :=
  if !s.window then ⟨s, .errorWindowManager, false⟩
  else
    match answers.getAdjustInfo with
    | .error ret => ⟨s, ret, false⟩
    | .ok adjustInfo =>
        match parseEnhancedParams answers.displaySize panelFlag adjustInfo params with
        | .error ret => ⟨s, ret, false⟩
        | .ok params =>
            let wmsParams := convertToWMSParam panelFlag params
            setHotAreasOnAdjust answers
              (s.sendLayout answers (layoutInfo panelFlag {} params wmsParams true) isColdStartRequest)

def updatePanelFlag (panelFlag : PanelFlag) : State := { s with cache := { s.cache with panelFlag } }

/-- `UpdatePanelFLagToWindow`.  Without the scene board it also updates the cached flag. -/
def updatePanelFlagToWindow (panelFlag : PanelFlag) : State × ErrorCode :=
  if !s.window then (s, .errorNullPointer)
  else if panelFlag ≠ .FLG_FIXED ∧ answers.surfaceNode = false then (s, .errorNullPointer)
  else if !s.isScbEnable then
    if answers.setFlagGravity then (s.updatePanelFlag panelFlag, .noError) else (s, .errorOperatePanel)
  else (s, .noError)

/-- The rectangles that a change of the flag starts from. -/
def cachedRects : LayoutParams :=
  { landscapeRect := s.cache.enhancedLayoutParams.landscape.rect
    portraitRect := s.cache.enhancedLayoutParams.portrait.rect }

/-- `ChangePanelFlag` once the window has taken the flag. -/
def adjustToFlag (panelFlag : PanelFlag) : Outcome :=
  let adjusted := s.adjustPanelRect answers panelFlag s.cachedRects true false
  if adjusted.ret = .noError then ⟨adjusted.state.updatePanelFlag panelFlag, .noError, adjusted.applied⟩
  else ⟨adjusted.state, .errorOperatePanel, adjusted.applied⟩

def changePanelFlag (panelFlag : PanelFlag) : Outcome :=
  if !s.window then ⟨s, .errorNullPointer, false⟩
  else if s.cache.panelFlag = panelFlag then ⟨s, .noError, false⟩
  else
    match s.updatePanelFlagToWindow answers panelFlag with
    | (s, .noError) => s.adjustToFlag answers panelFlag
    | (s, ret) => ⟨s, ret, false⟩

def outcome (s : State) : Call → Outcome
  | .adjustPanelRect panelFlag layoutParams needConfig isColdStartRequest answers =>
      s.adjustPanelRect answers panelFlag layoutParams needConfig isColdStartRequest
  | .adjustEnhancedPanelRect panelFlag params isColdStartRequest answers =>
      s.adjustEnhancedPanelRect answers panelFlag params isColdStartRequest
  | .changePanelFlag panelFlag answers => s.changePanelFlag answers panelFlag

def step (s : State) (call : Call) : State := (s.outcome call).state

/-! ## What is to hold, and when it does -/

/-- The cache is the layout that the window manager last accepted, and it is the one from before
unless the call has succeeded and applied its layout. -/
def Keeps (out : Outcome) : Prop :=
  out.state.cache = out.state.accepted ∧
    (out.ret ≠ .noError ∨ out.applied = false → out.state.cache = s.cache)

def Kept (call : Call) : Prop := s.Keeps (s.outcome call)

/-- The layout goes through: the gradient is in range, the request is not a cold start after one
of the input method, and the window manager accepts it. -/
def Applies (param : KeyboardLayoutParams) (isColdStartRequest : Bool) : Prop :=
  answers.prepare param = .noError ∧
    ¬ (isColdStartRequest = true ∧ s.hasJsAdjust = true) ∧ s.executeAdjustLayout answers = true

/-- The window takes the flag. -/
def TakesFlag (panelFlag : PanelFlag) : Prop :=
  ¬ (panelFlag ≠ .FLG_FIXED ∧ answers.surfaceNode = false) ∧
    (s.isScbEnable = false → answers.setFlagGravity = true)

/-- A layout that passes the checks goes through, unless it is the cached one already; an enhanced
one also has its hot areas taken.  A new flag that the window takes passes the checks and goes
through; with the scene board it may fail the checks. -/
def Clean (s : State) : Call → Prop
  | .adjustPanelRect panelFlag layoutParams needConfig isColdStartRequest answers =>
      s.window = true → ∀ wmsParams,
        parseParams answers.displaySize
          (answers.plainAdjustInfo needConfig) panelFlag layoutParams = .ok wmsParams →
        s.Applies answers wmsParams isColdStartRequest ∨
          layoutInfo panelFlag layoutParams {} wmsParams false = s.cache
  | .adjustEnhancedPanelRect panelFlag params isColdStartRequest answers =>
      s.window = true → ∀ adjustInfo, answers.getAdjustInfo = .ok adjustInfo → ∀ parsed,
        parseEnhancedParams answers.displaySize panelFlag adjustInfo params = .ok parsed →
        (s.Applies answers (convertToWMSParam panelFlag parsed) isColdStartRequest ∧
            answers.setKeyboardTouchHotAreas = true) ∨
          layoutInfo panelFlag {} parsed (convertToWMSParam panelFlag parsed) true = s.cache
  | .changePanelFlag panelFlag answers =>
      s.window = true → s.cache.panelFlag ≠ panelFlag → s.TakesFlag answers panelFlag →
        match parseParams answers.displaySize
          (answers.plainAdjustInfo true) panelFlag s.cachedRects with
        | .error _ => s.isScbEnable = true
        | .ok wmsParams => s.Applies answers wmsParams false

/-! ## Steps -/

/-- What sending a layout does to the cache and to the window manager. -/
structure Sent (layout : Layout) (applies : Prop) (out : Outcome) : Prop where
  cached : out.state.cache = layout
  applied : out.applied = true ↔ applies
  taken : applies → out.ret = .noError ∧ out.state.accepted = layout
  refused : ¬ applies → out.state.accepted = s.accepted

variable {s}

/-- What `AdjustLayout` leaves, and when it applies the layout. -/
structure Adjusted (applies : Prop) (out : Outcome) : Prop where
  cache : out.state.cache = s.cache
  accepted : out.state.accepted = s.accepted
  applied : out.applied = true ↔ applies
  taken : out.applied = true → out.ret = .noError

theorem not_applied {applies : Prop} (refused : ¬ applies) : false = true ↔ applies :=
  iff_of_false Bool.false_ne_true refused

theorem adjustLayout_adjusted (s : State) (window : s.window = true) (param : KeyboardLayoutParams)
    (isColdStartRequest : Bool) :
    s.Adjusted (s.Applies answers param isColdStartRequest)
      (s.adjustLayout answers param isColdStartRequest) := by
  unfold adjustLayout
  rw [if_neg (by simp [window])]
  split
  · rename_i unprepared
    exact ⟨rfl, rfl, not_applied fun applies => unprepared applies.1, by simp⟩
  · rename_i prepared
    have prepared : answers.prepare param = .noError := Decidable.not_not.1 prepared
    split
    · rename_i late
      refine ⟨rfl, rfl, not_applied fun applies => applies.2.1 ?_, fun _ => rfl⟩
      simpa using late
    · rename_i early
      have early : ¬ (isColdStartRequest = true ∧ s.hasJsAdjust = true) := by simpa using early
      -- The window manager does not see the marks of the arbitration.
      show s.Adjusted _ (if s.executeAdjustLayout answers then _ else _)
      split
      · rename_i executes
        exact ⟨rfl, rfl, iff_of_true rfl ⟨prepared, early, executes⟩, fun _ => rfl⟩
      · rename_i refuses
        exact ⟨rfl, rfl, not_applied fun applies => refuses applies.2.2, by simp⟩

theorem sendLayout_sent (s : State) (window : s.window = true) (layout : Layout)
    (isColdStartRequest : Bool) :
    s.Sent layout (s.Applies answers layout.keyboardLayoutParams isColdStartRequest)
      (s.sendLayout answers layout isColdStartRequest) := by
  have adjusted := adjustLayout_adjusted answers
    { s with cache := layout } window layout.keyboardLayoutParams
    isColdStartRequest
  unfold sendLayout
  dsimp only
  generalize State.adjustLayout
    { s with cache := layout } answers layout.keyboardLayoutParams isColdStartRequest
    = sent at adjusted
  cases applied : sent.applied with
  | true =>
      have applies := adjusted.applied.1 applied
      rw [adjusted.taken applied]
      exact ⟨adjusted.cache, iff_of_true rfl applies, fun _ => ⟨rfl, rfl⟩, absurd applies⟩
  | false =>
      have refused : ¬ State.Applies { s with cache := layout } answers layout.keyboardLayoutParams
          isColdStartRequest := fun applies => by simp [adjusted.applied.2 applies] at applied
      split
      · exact ⟨adjusted.cache, not_applied refused,
          fun applies => absurd applies refused, fun _ => adjusted.accepted⟩
      · exact ⟨adjusted.cache, not_applied refused,
          fun applies => absurd applies refused, fun _ => adjusted.accepted⟩

/-- A call that returns before it writes anything. -/
theorem keeps_same (coherent : s.cache = s.accepted) (ret : ErrorCode) (applied : Bool) :
    s.Keeps ⟨s, ret, applied⟩ :=
  ⟨coherent, fun _ => rfl⟩

/-- A layout that is not applied is no harm if it is cached already. -/
theorem keeps_refused (coherent : s.cache = s.accepted) {layout : Layout} {out : Outcome}
    (cached : out.state.cache = layout) (accepted : out.state.accepted = s.accepted)
    (applied : out.applied = false) :
    s.Keeps out ↔ layout = s.cache := by
  constructor
  · intro keeps
    rw [← cached]
    exact keeps.2 (.inr applied)
  · intro same
    have unchanged : out.state.cache = s.cache := cached.trans same
    exact ⟨unchanged.trans (coherent.trans accepted.symm), fun _ => unchanged⟩

theorem keeps_sent (coherent : s.cache = s.accepted) {layout : Layout} {applies : Prop} {out : Outcome}
    (sent : s.Sent layout applies out) : s.Keeps out ↔ applies ∨ layout = s.cache := by
  by_cases applies : applies
  · obtain ⟨ret, accepted⟩ := sent.taken applies
    refine iff_of_true ⟨sent.cached.trans accepted.symm, ?_⟩ (.inl applies)
    rintro (failed | skipped)
    · exact absurd ret failed
    · simp [sent.applied.2 applies] at skipped
  · have skipped : out.applied = false := Bool.eq_false_iff.2 fun applied =>
      applies (sent.applied.1 applied)
    rw [keeps_refused coherent sent.cached (sent.refused applies) skipped]
    simp [applies]

theorem setHotAreasOnAdjust_state (out : Outcome) :
    (setHotAreasOnAdjust answers out).state = out.state ∧
      (setHotAreasOnAdjust answers out).applied = out.applied := by
  unfold setHotAreasOnAdjust
  split
  · exact ⟨rfl, rfl⟩
  · split <;> exact ⟨rfl, rfl⟩

theorem keeps_hotAreas (coherent : s.cache = s.accepted) {layout : Layout}
    {applies : Prop} {out : Outcome} (sent : s.Sent layout applies out) :
    s.Keeps (setHotAreasOnAdjust answers out) ↔
      (applies ∧ answers.setKeyboardTouchHotAreas = true) ∨ layout = s.cache := by
  obtain ⟨state, applied⟩ := setHotAreasOnAdjust_state answers out
  by_cases applies : applies
  · obtain ⟨ret, accepted⟩ := sent.taken applies
    cases taken : answers.setKeyboardTouchHotAreas with
    | true =>
        have same : setHotAreasOnAdjust answers out = out := by simp [setHotAreasOnAdjust, ret, taken]
        rw [same, keeps_sent coherent sent]
        simp [applies]
    | false =>
        -- The layout is applied and the call fails: only a cached layout is unchanged.
        have failed : (setHotAreasOnAdjust answers out).ret ≠ .noError := by
          simp [setHotAreasOnAdjust, ret, taken]
        have cached : (setHotAreasOnAdjust answers out).state.cache = layout := by
          rw [state, sent.cached]
        simp only [Bool.false_eq_true, and_false, false_or]
        constructor
        · intro keeps
          rw [← cached]
          exact keeps.2 (.inl failed)
        · intro same
          refine ⟨?_, fun _ => cached.trans same⟩
          rw [state, sent.cached, accepted]
  · have skipped : out.applied = false := Bool.eq_false_iff.2 fun applied =>
      applies (sent.applied.1 applied)
    rw [keeps_refused coherent (by rw [state, sent.cached]) (by rw [state, sent.refused applies])
      (applied.trans skipped)]
    simp [applies]

theorem kept_adjustPanelRect (coherent : s.cache = s.accepted) (panelFlag : PanelFlag)
    (layoutParams : LayoutParams) (needConfig isColdStartRequest : Bool) :
    s.Kept (.adjustPanelRect panelFlag layoutParams needConfig isColdStartRequest answers) ↔
      s.Clean (.adjustPanelRect panelFlag layoutParams needConfig isColdStartRequest answers) := by
  simp only [Kept, outcome, Clean, adjustPanelRect]
  cases window : s.window with
  | false => simpa using keeps_same coherent _ _
  | true =>
      simp only [Bool.not_true, Bool.false_eq_true, if_false, forall_const]
      cases parseParams answers.displaySize
        (answers.plainAdjustInfo needConfig) panelFlag layoutParams with
      | error ret => simpa using keeps_same coherent ret false
      | ok wmsParams =>
          simp only [Except.ok.injEq, forall_eq']
          exact keeps_sent coherent (sendLayout_sent answers s window _ isColdStartRequest)

theorem kept_adjustEnhancedPanelRect (coherent : s.cache = s.accepted) (panelFlag : PanelFlag)
    (params : EnhancedLayoutParams) (isColdStartRequest : Bool) :
    s.Kept (.adjustEnhancedPanelRect panelFlag params isColdStartRequest answers) ↔
      s.Clean (.adjustEnhancedPanelRect panelFlag params isColdStartRequest answers) := by
  simp only [Kept, outcome, Clean, adjustEnhancedPanelRect]
  cases window : s.window with
  | false => simpa using keeps_same coherent _ _
  | true =>
      simp only [Bool.not_true, Bool.false_eq_true, if_false, forall_const]
      cases answers.getAdjustInfo with
      | error ret => simpa using keeps_same coherent ret false
      | ok adjustInfo =>
          simp only [Except.ok.injEq, forall_eq']
          cases parseEnhancedParams answers.displaySize panelFlag adjustInfo params with
          | error ret => simpa using keeps_same coherent ret false
          | ok parsed =>
              simp only [Except.ok.injEq, forall_eq']
              exact keeps_hotAreas answers coherent
                (sendLayout_sent answers s window _ isColdStartRequest)

theorem parseParams_error {displaySize : Option DisplaySize} {adjustInfo : FullPanelAdjustInfo}
    {panelFlag : PanelFlag} {input : LayoutParams} {ret : ErrorCode}
    (failed : parseParams displaySize adjustInfo panelFlag input = .error ret) : ret ≠ .noError := by
  unfold parseParams at failed
  split at failed
  · cases failed
    decide
  · split at failed
    · cases failed
      decide
    · split at failed
      · cases failed
        decide
      · cases failed

/-- The state in which the new flag is laid out. -/
def flagged (s : State) (panelFlag : PanelFlag) :
    State := if s.isScbEnable then s else s.updatePanelFlag panelFlag

theorem updatePanelFlagToWindow_cases (window : s.window = true) (panelFlag : PanelFlag) :
    (¬ s.TakesFlag answers panelFlag ∧
        ∃ ret, ret ≠ .noError ∧ s.updatePanelFlagToWindow answers panelFlag = (s, ret)) ∨
      (s.TakesFlag answers panelFlag ∧
        s.updatePanelFlagToWindow answers panelFlag = (s.flagged panelFlag, .noError)) := by
  unfold updatePanelFlagToWindow flagged TakesFlag
  rw [if_neg (by simp [window])]
  split
  · rename_i absent
    exact .inl ⟨fun takes => takes.1 absent, _, by simp, rfl⟩
  · rename_i present
    cases board : s.isScbEnable with
    | true => exact .inr ⟨⟨present, by simp⟩, rfl⟩
    | false =>
        cases gravity : answers.setFlagGravity with
        | true => exact .inr ⟨⟨present, by simp⟩, rfl⟩
        | false => exact .inl ⟨fun takes => by simp at takes, _, by simp, rfl⟩

/-- Apart from its flag the state is the one from before. -/
theorem flagged_eq (s : State) (panelFlag : PanelFlag) :
    s.flagged panelFlag = s ∨ s.flagged panelFlag = s.updatePanelFlag panelFlag := by
  unfold flagged
  split
  · exact .inl rfl
  · exact .inr rfl

/-- The flag of a layout that has been written is the one that is updated after it. -/
theorem changed_sent {panelFlag : PanelFlag} {layout : Layout} (flag : layout.panelFlag = panelFlag)
    {applies : Prop} {out : Outcome} (sent : (s.flagged panelFlag).Sent layout applies out) :
    s.Sent layout applies
      (if out.ret = .noError then ⟨out.state.updatePanelFlag panelFlag, .noError, out.applied⟩
        else ⟨out.state, .errorOperatePanel, out.applied⟩) := by
  have accepted : (s.flagged panelFlag).accepted = s.accepted := by
    rcases flagged_eq s panelFlag with same | same <;> rw [same]
    rfl
  split
  · refine ⟨?_, sent.applied, fun applies => ⟨rfl, (sent.taken applies).2⟩, fun refused => ?_⟩
    · show { out.state.cache with panelFlag } = layout
      rw [sent.cached, ← flag]
    · exact (sent.refused refused).trans accepted
  · rename_i failed
    refine ⟨sent.cached, sent.applied,
      fun applies => absurd (sent.taken applies).1 failed, fun refused => ?_⟩
    exact (sent.refused refused).trans accepted

theorem flagged_window (window : s.window = true) (panelFlag : PanelFlag) :
    (s.flagged panelFlag).window = true := by
  rcases flagged_eq s panelFlag with same | same <;> rw [same] <;> exact window

theorem flagged_cachedRects (s : State) (panelFlag : PanelFlag) :
    (s.flagged panelFlag).cachedRects = s.cachedRects := by
  rcases flagged_eq s panelFlag with same | same <;> rw [same]
  rfl

theorem flagged_applies (s : State) (panelFlag : PanelFlag) (wmsParams : KeyboardLayoutParams) :
    (s.flagged panelFlag).Applies answers wmsParams false = s.Applies answers wmsParams false := by
  rcases flagged_eq s panelFlag with same | same <;> rw [same]
  rfl

/-- Parameters that fail the checks leave the flag where the window has put it. -/
theorem keeps_flagged (coherent : s.cache = s.accepted) {panelFlag : PanelFlag}
    (new : s.cache.panelFlag ≠ panelFlag) :
    s.Keeps ⟨s.flagged panelFlag, .errorOperatePanel, false⟩ ↔ s.isScbEnable = true := by
  unfold flagged
  cases s.isScbEnable with
  | true => simpa using keeps_same coherent .errorOperatePanel false
  | false =>
      refine iff_of_false (fun keeps => new ?_) Bool.false_ne_true
      have same : { s.cache with panelFlag } = s.cache := keeps.2 (.inr rfl)
      rw [← same]

theorem keeps_adjustToFlag (coherent : s.cache = s.accepted) (window : s.window = true)
    {panelFlag : PanelFlag} (new : s.cache.panelFlag ≠ panelFlag) :
    s.Keeps ((s.flagged panelFlag).adjustToFlag answers panelFlag) ↔
      match parseParams answers.displaySize (answers.plainAdjustInfo true) panelFlag s.cachedRects with
      | .error _ => s.isScbEnable = true
      | .ok wmsParams => s.Applies answers wmsParams false := by
  have window' := flagged_window window panelFlag
  unfold adjustToFlag adjustPanelRect
  simp only [flagged_cachedRects, window', Bool.not_true, Bool.false_eq_true, if_false]
  cases parsed : parseParams answers.displaySize
    (answers.plainAdjustInfo true) panelFlag s.cachedRects with
  | error ret =>
      have failed := parseParams_error parsed
      simp only [failed, if_false]
      exact keeps_flagged coherent new
  | ok wmsParams =>
      have flag : (layoutInfo panelFlag s.cachedRects {} wmsParams false).panelFlag = panelFlag := rfl
      have sent := changed_sent flag (sendLayout_sent answers _ window' _ false)
      rw [flagged_applies] at sent
      dsimp only
      rw [keeps_sent coherent sent]
      refine or_iff_left fun same => new ?_
      rw [← same]
      rfl

theorem kept_changePanelFlag (coherent : s.cache = s.accepted) (panelFlag : PanelFlag) :
    s.Kept (.changePanelFlag panelFlag answers) ↔ s.Clean (.changePanelFlag panelFlag answers) := by
  simp only [Kept, outcome, Clean, changePanelFlag]
  cases window : s.window with
  | false => simpa using keeps_same coherent _ _
  | true =>
      simp only [Bool.not_true, Bool.false_eq_true, if_false, forall_const]
      by_cases same : s.cache.panelFlag = panelFlag
      · simpa [same] using keeps_same coherent .noError false
      · simp only [same, if_false, ne_eq, not_false_eq_true, forall_const]
        rcases updatePanelFlagToWindow_cases answers window panelFlag
          with ⟨refuses, ret, failed, eq⟩ | ⟨takes, eq⟩
        · rw [eq]
          have kept : s.Keeps ⟨s, ret, false⟩ := keeps_same coherent ret false
          cases ret <;> simp_all
        · rw [eq]
          simp only [takes, forall_const]
          exact keeps_adjustToFlag answers coherent window same

/-- A call keeps the cache exactly when it is clean. -/
theorem kept_iff_clean (coherent : s.cache = s.accepted) (call : Call) :
    s.Kept call ↔ s.Clean call := by
  cases call with
  | adjustPanelRect panelFlag layoutParams needConfig isColdStartRequest answers =>
      exact kept_adjustPanelRect answers coherent panelFlag layoutParams needConfig isColdStartRequest
  | adjustEnhancedPanelRect panelFlag params isColdStartRequest answers =>
      exact kept_adjustEnhancedPanelRect answers coherent panelFlag params isColdStartRequest
  | changePanelFlag panelFlag answers => exact kept_changePanelFlag answers coherent panelFlag

end State

/-- **The cached layout.** Started from a panel whose cache is what the window manager has
accepted, every call of a run keeps the cache exactly when every call of it is clean. -/
theorem cache_kept (s : State) (calls : List Call) :
    Meets State.step State.Kept { s with accepted := s.cache } calls ↔
      Meets State.step State.Clean { s with accepted := s.cache } calls :=
  meets_iff_meets (P := fun s => s.cache = s.accepted) (fun _ _ _ kept => kept.1)
    (fun _ call coherent => State.kept_iff_clean coherent call) rfl

/-! ## Poles -/

def display : DisplaySize :=
  { portrait := { width := 500, height := 1000 }, landscape := { width := 1000, height := 500 } }

def rects (height : UInt32) : LayoutParams :=
  { portraitRect := { width := 500, height }, landscapeRect := { width := 1000, height } }

/-- A layout that the window manager refuses is cached; so is one of a cold start that comes after
a request of the input method; and an enhanced layout whose hot areas are refused is reported as
failed and cached. -/
theorem refused_layout_cached :
    ¬ Meets State.step State.Kept {}
        [.adjustPanelRect .FLG_FLOATING (rects 300) true false
          { displaySize := some display, adjustKeyboardLayout := false }] ∧
      ¬ Meets State.step State.Kept {}
        [.adjustPanelRect .FLG_FIXED (rects 300) true false { displaySize := some display },
          .adjustPanelRect .FLG_FLOATING (rects 200) true true { displaySize := some display }] ∧
      ¬ Meets State.step State.Kept {}
        [.adjustEnhancedPanelRect .FLG_FIXED { isFullScreen := true, portrait := { avoidY := 700 }
                                               landscape := { avoidY := 200 } } false
          { displaySize := some display, setKeyboardTouchHotAreas := false }] := by
  refine ⟨fun kept => ?_, fun kept => ?_, fun kept => ?_⟩
  · exact absurd (kept.1.2 (.inl (by decide))) (by decide)
  · exact absurd (kept.2.1.2 (.inr (by decide))) (by decide)
  · exact absurd (kept.1.2 (.inl (by decide))) (by decide)

end Imf.Panel
