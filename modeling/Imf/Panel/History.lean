/-
# Imf.Panel.History -- hot areas over a run of layouts

A panel keeps one list of areas for each orientation.  What an input method asked for and what
a layout left of it stand in the same place: the rectified areas are stored, and the next layout
starts from them.  `AdjustKeyboard` and moves of an enhanced panel hand the stored areas to the
next computation, so an area that one layout cuts away does not come back with the next.  To the
panel a layout does what Imf.Panel.Cache says (`adjustPanelRect_panel`).

Beside the stored areas the state carries where they come from, a `Trace` for each orientation:
the region that was asked for last and the views of the layouts since whose areas were taken.
`areas_traced` says that the trace accounts for what is stored in every run.  `history_independent`
is about two runs that set the same region last, go on by `AdjustKeyboard` and moves (`Passes`) and
end with the same layout, adjust info and shift (`SameEnd`): they cover the same points where the
areas of the final layout were taken and no layout on the way cut off what it leaves (`Calm`).
-/
import Imf.Panel.HotAreas

namespace Imf.Panel

set_option autoImplicit false

open Lib

def HotAreas.of (hotAreas : HotAreas) : Orientation → HotArea
  | .portrait => hotAreas.portrait
  | .landscape => hotAreas.landscape

namespace History

/-! ## Traces -/

/-- A region and the layouts that have cut it down since it was asked for. -/
structure Trace where
  region : List Rect
  views : List View
  deriving DecidableEq

namespace Trace

/-- The areas that are left. -/
def left (t : Trace) : List Rect := t.views.foldl (fun areas view => view.rectified areas) t.region

/-- One more layout. -/
def cut (t : Trace) (view : View) : Trace := { t with views := t.views ++ [view] }

theorem left_cut (t : Trace) (view : View) : (t.cut view).left = view.rectified t.left := by
  simp [cut, left]

/-- What is asked for: a region, or for none as much as there is. -/
def asked (t : Trace) : Set (Int × Int) := if t.region.isEmpty then Set.univ else extents t.region

/-- What the last layout alone would leave. -/
def direct (t : Trace) (last : View) : Set (Int × Int) := t.asked ∩ extents last.available

/-- Every layout on the way leaves all that the last one leaves, and with no region the first
keyboard covers it. -/
def Undisturbed (t : Trace) : Prop :=
  ∀ last, t.views.getLast? = some last →
    (t.region = [] → ∀ first, t.views.head? = some first → t.direct last ⊆ first.whole.extent) ∧
    ∀ view ∈ t.views, t.direct last ⊆ extents view.available

/-- Where the areas begin: the region, or the first keyboard. -/
def origin (region : List Rect) (first : View) : Set (Int × Int) :=
  extents (if region.isEmpty then [first.whole] else region)

/-- Behind the first layout the areas are rectified ones. -/
theorem left_rectified (region : List Rect) (first : View) (views : List View) :
    ∃ (view : View) (areas : List Rect),
      Trace.left ⟨region, first :: views⟩ = view.rectified areas := by
  induction views using List.reverseRecOn with
  | nil => exact ⟨first, region, rfl⟩
  | append_singleton views view _ => exact ⟨view, _, left_cut ⟨region, first :: views⟩ view⟩

/-- What is left is what every layout leaves. -/
theorem mem_left {region : List Rect} {first : View} (views : List View) {p : Int × Int} :
    p ∈ covered (Trace.left ⟨region, first :: views⟩) ↔
      p ∈ origin region first ∧ ∀ view ∈ first :: views, p ∈ extents view.available := by
  induction views using List.reverseRecOn with
  | nil =>
      change p ∈ covered (first.rectified region) ↔ _
      rw [covered_rectified, Set.mem_inter_iff, List.forall_mem_singleton]
      rfl
  | append_singleton views view ih =>
      obtain ⟨before, areas, same⟩ := left_rectified region first views
      have grown : Trace.left ⟨region, first :: (views ++ [view])⟩ = _ :=
        left_cut ⟨region, first :: views⟩ view
      rw [grown, same, covered_rectified_again, Set.mem_inter_iff, ← same, ih, ← List.cons_append,
        List.forall_mem_append, List.forall_mem_singleton, and_assoc]

/-- A trace leaves what the last layout alone would leave exactly where no layout disturbed it. -/
theorem left_eq_direct_iff {t : Trace} {last : View} (ends : t.views.getLast? = some last) :
    covered t.left = t.direct last ↔ t.Undisturbed := by
  obtain ⟨region, views⟩ := t
  cases views with
  | nil => cases ends
  | cons first views =>
      have inside : last ∈ first :: views := List.mem_of_getLast? ends
      have begins : ∀ {p}, p ∈ origin region first ↔
          p ∈ (Trace.mk region (first :: views)).asked ∧ (region = [] → p ∈ first.whole.extent) := by
        intro p
        unfold origin asked
        cases region with
        | nil => simp [extents]
        | cons area areas => simp
      constructor
      · intro same final ends'
        obtain rfl : last = final := Option.some.inj (ends.symm.trans ends')
        constructor
        · intro none first' begun p there
          obtain rfl : first = first' := Option.some.inj begun
          rw [← same, mem_left] at there
          exact (begins.1 there.1).2 none
        · intro view member p there
          rw [← same, mem_left] at there
          exact there.2 view member
      · intro calm
        obtain ⟨wide, open_⟩ := calm last ends
        ext p
        rw [mem_left, begins]
        constructor
        · rintro ⟨⟨wanted, -⟩, all⟩
          exact ⟨wanted, all last inside⟩
        · intro there
          refine ⟨⟨there.1, fun none => wide none first rfl there⟩, fun view member =>
            open_ view member there⟩

end Trace

/-! ## The panel -/

/-- The panel with its hot areas, and where they come from. -/
structure State where
  panel : Panel.State := {}
  changeY : ChangeY := {}
  hotAreas : HotAreas := {}
  traces : Orientation → Trace := fun _ => ⟨[], []⟩

/-- Areas that an input method hands over are asked for as they are. -/
def handedTraces (hotAreas : HotAreas) (orientation : Orientation) : Trace :=
  ⟨(hotAreas.of orientation).keyboardHotArea, []⟩

/-- The keyboard in one orientation of the layout in use. -/
def view (isInEnhancedAdjust : Bool) (enhancedParams : EnhancedLayoutParams)
    (params : KeyboardLayoutParams) (adjustInfo : FullPanelAdjustInfo) : Orientation → View
  | .portrait =>
      if isInEnhancedAdjust then enhancedView enhancedParams.portrait adjustInfo.portrait
      else plainView params.portraitKeyboardRect
  | .landscape =>
      if isInEnhancedAdjust then enhancedView enhancedParams.landscape adjustInfo.landscape
      else plainView params.landscapeKeyboardRect

namespace State

variable (s : State) (answers : Answers)

def calculateHotAreas (enhancedParams : EnhancedLayoutParams) (params : KeyboardLayoutParams)
    (adjustInfo : FullPanelAdjustInfo) (hotAreas : HotAreas) : HotAreas :=
  if s.panel.cache.isInEnhancedAdjust then
    { screenId := enhancedParams.screenId
      portrait := calculateEnhancedHotArea enhancedParams.portrait adjustInfo.portrait hotAreas.portrait
        s.changeY.portrait
      landscape := calculateEnhancedHotArea enhancedParams.landscape adjustInfo.landscape
        hotAreas.landscape
        s.changeY.landscape
      isSet := true }
  else
    { screenId := params.displayId
      portrait := calculateHotArea params.portraitKeyboardRect params.portraitPanelRect
        adjustInfo.portrait
        hotAreas.portrait s.changeY.portrait
      landscape := calculateHotArea params.landscapeKeyboardRect params.landscapePanelRect
        adjustInfo.landscape
        hotAreas.landscape s.changeY.landscape
      isSet := true }

/-- Hot areas are stored once the window manager has taken them. -/
def setHotAreas (hotAreas : HotAreas) (traces : Orientation → Trace) : State :=
  if answers.setKeyboardTouchHotAreas then { s with hotAreas, traces } else s

/-- `CalculateHotAreas` and `SetHotAreasOnAdjust`. -/
def rectify (enhancedParams : EnhancedLayoutParams) (params : KeyboardLayoutParams)
    (adjustInfo : FullPanelAdjustInfo)
    (hotAreas : HotAreas) (traces : Orientation → Trace) : State :=
  s.setHotAreas answers (s.calculateHotAreas enhancedParams params adjustInfo hotAreas)
    fun orientation =>
    (traces orientation).cut
      (view s.panel.cache.isInEnhancedAdjust enhancedParams params adjustInfo orientation)

/-- The layout is written down and sent; whether that worked. -/
def sendLayout (isPortrait : Bool) (layout : Layout) (isColdStartRequest : Bool) : State × Bool :=
  let out := Gradient.adjustLayout
    { s.panel with cache := layout } answers isPortrait layout.keyboardLayoutParams
    s.changeY isColdStartRequest
  ({ s with
      panel := if out.applied.isSome then { out.state with accepted := layout } else out.state
      changeY := out.changeY }, out.ret = .noError)

/-- `AdjustPanelRect` of an enhanced layout, with hot areas and where they come from. -/
def adjustEnhancedPanelRect (isPortrait : Bool) (panelFlag : PanelFlag) (params : EnhancedLayoutParams)
    (hotAreas : HotAreas) (traces : Orientation → Trace) (isColdStartRequest : Bool) : State :=
  if !s.panel.window then s
  else
    match answers.getAdjustInfo with
    | .error _ => s
    | .ok adjustInfo =>
        match parseEnhancedParams answers.displaySize panelFlag adjustInfo params with
        | .error _ => s
        | .ok params =>
            let wmsParams := convertToWMSParam panelFlag params
            match s.sendLayout answers isPortrait
              (layoutInfo panelFlag {} params wmsParams true) isColdStartRequest with
            | (s, true) => s.rectify answers params wmsParams adjustInfo hotAreas traces
            | (s, false) => s

/-- `UpdateHotAreas`: after a plain layout, customised areas give way to the whole keyboard. -/
def updateHotAreas : State :=
  if !s.hotAreas.isSet then s
  else
    match answers.getAdjustInfo with
    | .error _ => s
    | .ok adjustInfo =>
        let params := s.panel.cache.keyboardLayoutParams
        s.setHotAreas answers
          { s.hotAreas with
            screenId := params.displayId
            portrait := calculateDefaultHotArea params.portraitKeyboardRect params.portraitPanelRect
              adjustInfo.portrait s.changeY.portrait
            landscape := calculateDefaultHotArea params.landscapeKeyboardRect params.landscapePanelRect
              adjustInfo.landscape s.changeY.landscape }
          fun orientation => ⟨[(view false {} params adjustInfo orientation).whole], []⟩

/-- `AdjustPanelRect` of a plain layout. -/
def adjustPanelRect (isPortrait : Bool) (panelFlag : PanelFlag) (layoutParams : LayoutParams)
    (needUpdateRegion needConfig isColdStartRequest : Bool) : State :=
  if !s.panel.window then s
  else
    match parseParams answers.displaySize
      (answers.plainAdjustInfo needConfig) panelFlag layoutParams with
    | .error _ => s
    | .ok wmsParams =>
        match s.sendLayout answers isPortrait (layoutInfo panelFlag layoutParams {} wmsParams false)
            isColdStartRequest with
        | (s, true) => if needUpdateRegion then s.updateHotAreas answers else s
        | (s, false) => s

/-- A region for the orientation of the display; the areas of the other one are rectified again. -/
def updateRegion (isPortrait : Bool) (region : List Rect) : State :=
  if !s.panel.window then s
  else if s.panel.cache.panelFlag ≠ .FLG_FIXED ∧ s.panel.cache.panelFlag ≠ .FLG_FLOATING then s
  else
    match answers.getAdjustInfo with
    | .error _ => s
    | .ok adjustInfo =>
        let asked : HotAreas :=
          if isPortrait then { s.hotAreas with
            portrait := { s.hotAreas.portrait with keyboardHotArea := region } }
          else { s.hotAreas with landscape := { s.hotAreas.landscape with keyboardHotArea := region } }
        s.rectify answers s.panel.cache.enhancedLayoutParams s.panel.cache.keyboardLayoutParams
          adjustInfo asked
          fun orientation =>
            if orientation = (if isPortrait then .portrait else .landscape) then ⟨region, []⟩
            else s.traces orientation

/-- `AdjustKeyboard`: the cached layout again, with the stored areas. -/
def adjustKeyboard (isPortrait : Bool) : State :=
  let params := s.panel.cache.enhancedLayoutParams
  if s.panel.cache.isInEnhancedAdjust then
    match answers.displaySize with
    | none => s
    | some displaySize =>
        if displaySize.portrait.height < params.portrait.avoidHeight ∨
            displaySize.landscape.height < params.landscape.avoidHeight then s
        else
          s.adjustEnhancedPanelRect answers isPortrait s.panel.cache.panelFlag params
            s.hotAreas s.traces false
  else
    s.adjustPanelRect answers isPortrait s.panel.cache.panelFlag
      { landscapeRect := params.landscape.rect, portraitRect := params.portrait.rect } true true false

def moveEnhancedPanelRect (isPortrait : Bool) (x y : Int32) : State :=
  let params := s.panel.cache.enhancedLayoutParams
  let params :=
    if isPortrait then
      { params with portrait := { params.portrait with
        rect := { params.portrait.rect with posX := x, posY := y } } }
    else
      { params with landscape := { params.landscape with
        rect := { params.landscape.rect with posX := x, posY := y } } }
  s.adjustEnhancedPanelRect answers isPortrait s.panel.cache.panelFlag params s.hotAreas s.traces false

def movePanelRect (isPortrait : Bool) (x y : Int32) : State :=
  let params := s.panel.cache.enhancedLayoutParams
  let rects : LayoutParams :=
    if isPortrait then
      { landscapeRect := params.landscape.rect,
        portraitRect := { params.portrait.rect with posX := x, posY := y } }
    else
      { landscapeRect := { params.landscape.rect with
        posX := x, posY := y }, portraitRect := params.portrait.rect }
  s.adjustPanelRect answers isPortrait s.panel.cache.panelFlag rects false true false

/-- `MoveTo` of a soft keyboard. -/
def moveTo (isPortrait : Bool) (x y : Int32) : State :=
  if !s.panel.window then s
  else if s.panel.cache.panelFlag = .FLG_FIXED then s
  else if !s.panel.isScbEnable then s
  else if s.panel.cache.isInEnhancedAdjust then s.moveEnhancedPanelRect answers isPortrait x y
  else s.movePanelRect answers isPortrait x y

end State

/-- What an input method and the system ask of a panel; `isPortrait` is the display at the time. -/
inductive Call where
  | adjustEnhancedPanelRect (panelFlag : PanelFlag) (params : EnhancedLayoutParams)
      (hotAreas : HotAreas)
      (isColdStartRequest : Bool)
  | adjustPanelRect (panelFlag : PanelFlag) (layoutParams : LayoutParams)
      (needUpdateRegion needConfig isColdStartRequest : Bool)
  | updateRegion (region : List Rect)
  | adjustKeyboard
  | moveTo (x y : Int32)

/-- A call with what the panel is told during it. -/
structure Event where
  call : Call
  answers : Answers
  isPortrait : Bool

def step (s : State) (event : Event) : State :=
  match event.call with
  | .adjustEnhancedPanelRect panelFlag params hotAreas isColdStartRequest =>
      s.adjustEnhancedPanelRect event.answers event.isPortrait panelFlag params hotAreas
        (handedTraces hotAreas)
        isColdStartRequest
  | .adjustPanelRect panelFlag layoutParams needUpdateRegion needConfig isColdStartRequest =>
      s.adjustPanelRect event.answers event.isPortrait panelFlag layoutParams
        needUpdateRegion needConfig
        isColdStartRequest
  | .updateRegion region => s.updateRegion event.answers event.isPortrait region
  | .adjustKeyboard => s.adjustKeyboard event.answers event.isPortrait
  | .moveTo x y => s.moveTo event.answers event.isPortrait x y

/-! ## The layout is the one of the cache -/

section Cached

variable (s : State) (answers : Answers)

/-- Sending a layout does to the panel what the layout cache sees. -/
theorem sendLayout_panel (isPortrait : Bool) (layout : Layout) (isColdStartRequest : Bool) :
    (s.sendLayout answers isPortrait layout isColdStartRequest).1.panel =
      (s.panel.sendLayout answers layout isColdStartRequest).state := by
  have forget := Gradient.adjustLayout_forget { s.panel with cache := layout } answers isPortrait
    layout.keyboardLayoutParams s.changeY isColdStartRequest
  unfold State.sendLayout Panel.State.sendLayout
  dsimp only at forget ⊢
  generalize Gradient.adjustLayout
    { s.panel with cache := layout } answers isPortrait layout.keyboardLayoutParams
    s.changeY isColdStartRequest = out at forget ⊢
  generalize Panel.State.adjustLayout
    { s.panel with cache := layout } answers layout.keyboardLayoutParams
    isColdStartRequest = sent at forget ⊢
  obtain rfl := forget
  by_cases failed : out.ret ≠ .noError
  · rw [if_pos failed]
  · rw [if_neg failed]

theorem setHotAreas_panel (hotAreas : HotAreas) (traces : Orientation → Trace) :
    (s.setHotAreas answers hotAreas traces).panel = s.panel := by
  unfold State.setHotAreas
  split <;> rfl

theorem updateHotAreas_panel : (s.updateHotAreas answers).panel = s.panel := by
  unfold State.updateHotAreas
  split
  · rfl
  · split
    · rfl
    · exact setHotAreas_panel _ _ _ _

/-- A plain layout does to the panel what the layout cache sees. -/
theorem adjustPanelRect_panel (isPortrait : Bool) (panelFlag : PanelFlag) (layoutParams : LayoutParams)
    (needUpdateRegion needConfig isColdStartRequest : Bool) :
    (s.adjustPanelRect answers isPortrait panelFlag layoutParams needUpdateRegion needConfig
        isColdStartRequest).panel =
      (s.panel.adjustPanelRect answers panelFlag layoutParams needConfig isColdStartRequest).state := by
  unfold State.adjustPanelRect Panel.State.adjustPanelRect
  by_cases window : (!s.panel.window) = true
  · rw [if_pos window, if_pos window]
  rw [if_neg window, if_neg window]
  cases parseParams answers.displaySize (answers.plainAdjustInfo needConfig) panelFlag layoutParams with
  | error => rfl
  | ok wmsParams =>
      have sent := sendLayout_panel s answers isPortrait
        (layoutInfo panelFlag layoutParams {} wmsParams false) isColdStartRequest
      dsimp only
      rw [← sent]
      split
      · rename_i after eq
        rw [eq]
        split
        · exact updateHotAreas_panel _ _
        · rfl
      · rename_i after eq
        rw [eq]

/-- An enhanced layout does to the panel what the layout cache sees. -/
theorem adjustEnhancedPanelRect_panel (isPortrait : Bool) (panelFlag : PanelFlag)
    (params : EnhancedLayoutParams)
    (hotAreas : HotAreas) (traces : Orientation → Trace) (isColdStartRequest : Bool) :
    (s.adjustEnhancedPanelRect answers isPortrait panelFlag params hotAreas traces
      isColdStartRequest).panel =
      (s.panel.adjustEnhancedPanelRect answers panelFlag params isColdStartRequest).state := by
  unfold State.adjustEnhancedPanelRect Panel.State.adjustEnhancedPanelRect
  by_cases window : (!s.panel.window) = true
  · rw [if_pos window, if_pos window]
  rw [if_neg window, if_neg window]
  cases answers.getAdjustInfo with
  | error => rfl
  | ok adjustInfo =>
      dsimp only
      cases parseEnhancedParams answers.displaySize panelFlag adjustInfo params with
      | error => rfl
      | ok params =>
          have sent := sendLayout_panel s answers isPortrait
            (layoutInfo panelFlag {} params (convertToWMSParam panelFlag params) true)
              isColdStartRequest
          dsimp only
          rw [(Panel.State.setHotAreasOnAdjust_state _ _).1, ← sent]
          split
          · rename_i after eq
            rw [eq]
            exact setHotAreas_panel _ _ _ _
          · rename_i after eq
            rw [eq]

end Cached

/-! ## The traces account for the areas -/

/-- The areas are what the traces leave. -/
def Accounts (hotAreas : HotAreas) (traces : Orientation → Trace) : Prop :=
  ∀ orientation, (hotAreas.of orientation).keyboardHotArea = (traces orientation).left

def Traced (s : State) : Prop := Accounts s.hotAreas s.traces

section Steps

variable {s : State} {answers : Answers}

theorem calculateHotAreas_keyboard (s : State) (enhancedParams : EnhancedLayoutParams)
    (params : KeyboardLayoutParams)
    (adjustInfo : FullPanelAdjustInfo) (hotAreas : HotAreas) (orientation : Orientation) :
    ((s.calculateHotAreas enhancedParams params adjustInfo hotAreas).of orientation).keyboardHotArea =
      (view s.panel.cache.isInEnhancedAdjust enhancedParams params adjustInfo orientation).rectified
        (hotAreas.of orientation).keyboardHotArea := by
  unfold State.calculateHotAreas
  cases s.panel.cache.isInEnhancedAdjust <;> cases orientation <;> rfl

theorem traced_setHotAreas (traced : Traced s) {hotAreas : HotAreas} {traces : Orientation → Trace}
    (accounts : Accounts hotAreas traces) : Traced (s.setHotAreas answers hotAreas traces) := by
  unfold State.setHotAreas
  split
  · exact accounts
  · exact traced

/-- A layout cuts areas and traces alike. -/
theorem traced_rectify (traced : Traced s) (enhancedParams : EnhancedLayoutParams)
    (params : KeyboardLayoutParams)
    (adjustInfo : FullPanelAdjustInfo) {hotAreas : HotAreas} {traces : Orientation → Trace}
    (accounts : Accounts hotAreas traces) :
    Traced (s.rectify answers enhancedParams params adjustInfo hotAreas traces) := by
  refine traced_setHotAreas traced fun orientation => ?_
  rw [calculateHotAreas_keyboard, accounts orientation, Trace.left_cut]

/-- Sending a layout leaves the areas alone. -/
theorem traced_sendLayout (answers : Answers) (traced : Traced s) (isPortrait : Bool)
    (layout : Layout) (isColdStartRequest : Bool) :
    Traced (s.sendLayout answers isPortrait layout isColdStartRequest).1 := traced

theorem traced_adjustEnhanced (traced : Traced s) (isPortrait : Bool) (panelFlag : PanelFlag)
    (params : EnhancedLayoutParams) {hotAreas : HotAreas} {traces : Orientation → Trace}
    (accounts : Accounts hotAreas traces) (isColdStartRequest : Bool) :
    Traced (s.adjustEnhancedPanelRect answers isPortrait panelFlag params hotAreas traces
      isColdStartRequest) := by
  unfold State.adjustEnhancedPanelRect
  split
  · exact traced
  · split
    · exact traced
    · split
      · exact traced
      · rename_i params _
        have sent := traced_sendLayout answers traced isPortrait
          (layoutInfo panelFlag {} params (convertToWMSParam panelFlag params) true) isColdStartRequest
        dsimp only
        split
        · rename_i after eq
          rw [eq] at sent
          exact traced_rectify sent _ _ _ accounts
        · rename_i after eq
          rw [eq] at sent
          exact sent

/-- The whole keyboard is asked for and not cut yet. -/
theorem traced_updateHotAreas (traced : Traced s) : Traced (s.updateHotAreas answers) := by
  unfold State.updateHotAreas
  split
  · exact traced
  · split
    · exact traced
    · refine traced_setHotAreas traced fun orientation => ?_
      cases orientation <;> rfl

theorem traced_adjustPanelRect (traced : Traced s) (isPortrait : Bool) (panelFlag : PanelFlag)
    (layoutParams : LayoutParams) (needUpdateRegion needConfig isColdStartRequest : Bool) :
    Traced (s.adjustPanelRect answers isPortrait panelFlag layoutParams needUpdateRegion needConfig
      isColdStartRequest) := by
  unfold State.adjustPanelRect
  split
  · exact traced
  · split
    · exact traced
    · rename_i wmsParams _
      have sent := traced_sendLayout answers traced isPortrait
        (layoutInfo panelFlag layoutParams {} wmsParams false) isColdStartRequest
      split
      · rename_i after eq
        rw [eq] at sent
        split
        · exact traced_updateHotAreas sent
        · exact sent
      · rename_i after eq
        rw [eq] at sent
        exact sent

theorem traced_updateRegion (traced : Traced s) (isPortrait : Bool) (region : List Rect) :
    Traced (s.updateRegion answers isPortrait region) := by
  unfold State.updateRegion
  split
  · exact traced
  · split
    · exact traced
    · split
      · exact traced
      · refine traced_rectify traced _ _ _ fun orientation => ?_
        cases isPortrait <;> cases orientation
        · exact traced .portrait
        · rfl
        · rfl
        · exact traced .landscape

theorem traced_adjustKeyboard (traced : Traced s) (isPortrait : Bool) :
    Traced (s.adjustKeyboard answers isPortrait) := by
  unfold State.adjustKeyboard
  dsimp only
  split
  · split
    · exact traced
    · split
      · exact traced
      · exact traced_adjustEnhanced traced _ _ _ traced _
  · exact traced_adjustPanelRect traced _ _ _ _ _ _

theorem traced_moveTo (traced : Traced s) (isPortrait : Bool) (x y : Int32) :
    Traced (s.moveTo answers isPortrait x y) := by
  unfold State.moveTo
  split
  · exact traced
  · split
    · exact traced
    · split
      · exact traced
      · split
        · exact traced_adjustEnhanced traced _ _ _ traced _
        · exact traced_adjustPanelRect traced _ _ _ _ _ _

theorem traced_step (s : State) (event : Event) (traced : Traced s) : Traced (step s event) := by
  unfold step
  split
  · refine traced_adjustEnhanced traced _ _ _ (fun orientation => ?_) _
    rfl
  · exact traced_adjustPanelRect traced _ _ _ _ _ _
  · exact traced_updateRegion traced _ _
  · exact traced_adjustKeyboard traced _
  · exact traced_moveTo traced _ _ _

end Steps

/-- A panel whose hot areas nobody has touched. -/
def fresh (panel : Panel.State) : State := { panel }

/-- **The traces account for the stored areas in every run.** -/
theorem areas_traced (panel : Panel.State) (events : List Event) :
    Traced (run step (fresh panel) events) := by
  refine run_always traced_step ?_ events
  intro orientation
  cases orientation <;> rfl

/-- A run ends with the areas that its last layout alone would have left exactly where no layout
since the region was asked for disturbed them. -/
theorem covers_direct_iff (panel : Panel.State) (events : List Event)
    {orientation : Orientation} {last : View}
    (ends : ((run step (fresh panel) events).traces orientation).views.getLast? = some last) :
    covered ((run step (fresh panel) events).hotAreas.of orientation).keyboardHotArea =
        ((run step (fresh panel) events).traces orientation).direct last ↔
      ((run step (fresh panel) events).traces orientation).Undisturbed := by
  rw [areas_traced panel events orientation]
  exact Trace.left_eq_direct_iff ends

/-! ## Runs that pass by the same layouts -/

/-- The region that a call asks for in an orientation, if it customises it. -/
def Event.asks (event : Event) (orientation : Orientation) : Option (List Rect) :=
  match event.call with
  | .adjustEnhancedPanelRect _ _ hotAreas _ => some (hotAreas.of orientation).keyboardHotArea
  | .updateRegion region =>
      if orientation = (if event.isPortrait then .portrait else .landscape) then some region else none
  | _ => none

namespace State

variable (s : State) (answers : Answers)

/-- `AdjustPanelRect` of an enhanced layout succeeds. -/
def layoutTaken (isPortrait : Bool) (panelFlag : PanelFlag) (params : EnhancedLayoutParams)
    (isColdStartRequest : Bool) : Bool :=
  s.panel.window &&
    match answers.getAdjustInfo with
    | .error _ => false
    | .ok adjustInfo =>
        match parseEnhancedParams answers.displaySize panelFlag adjustInfo params with
        | .error _ => false
        | .ok params =>
            (s.sendLayout answers isPortrait
              (layoutInfo panelFlag {} params (convertToWMSParam panelFlag params) true)
                isColdStartRequest).2 &&
                answers.setKeyboardTouchHotAreas

/-- So does `UpdateRegion`. -/
def regionTaken : Bool :=
  s.panel.window && decide
    (s.panel.cache.panelFlag = .FLG_FIXED ∨ s.panel.cache.panelFlag = .FLG_FLOATING) &&
    match answers.getAdjustInfo with
    | .error _ => false
    | .ok _ => answers.setKeyboardTouchHotAreas

end State

/-- A call that customises a region succeeds. -/
def Event.taken (s : State) (event : Event) : Bool :=
  match event.call with
  | .adjustEnhancedPanelRect panelFlag params _ isColdStartRequest =>
      s.layoutTaken event.answers event.isPortrait panelFlag params isColdStartRequest
  | .updateRegion _ => s.regionTaken event.answers
  | _ => false

/-- An adjustment or a move, or a call that customises nothing here because it fails or is about the
other orientation. -/
def Passing (orientation : Orientation) (s : State) (event : Event) : Prop :=
  match event.call with
  | .adjustPanelRect _ _ _ _ _ => False
  | .adjustKeyboard => True
  | .moveTo _ _ => True
  | _ => event.asks orientation = none ∨ event.taken s = false

/-- The last call that customises the orientation sets the region, or none does and there is none;
the keyboard is then an enhanced one, and what follows passes by. -/
structure Passes (panel : Panel.State) (before after : List Event) (orientation : Orientation)
    (region : List Rect) :
    Prop where
  asked : before = [] ∧ region = [] ∨
    ∃ earlier event, before = earlier ++ [event] ∧ event.asks orientation = some region ∧
      event.taken (run step (fresh panel) earlier) = true
  enhanced : (run step (fresh panel) before).panel.cache.isInEnhancedAdjust = true
  passing : Meets step (Passing orientation) (run step (fresh panel) before) after

/-- What `GetAdjustInfo` says in the last call. -/
def finalAdjustInfo (events : List Event) : Option FullPanelAdjustInfo :=
  events.getLast?.bind fun event => event.answers.getAdjustInfo.toOption

/-- Two runs end with the same enhanced layout, adjust info and shift. -/
structure SameEnd (panel : Panel.State) (events : List Event) (panel' : Panel.State)
    (events' : List Event) : Prop where
  enhancedLayoutParams : (run step (fresh panel) events).panel.cache.enhancedLayoutParams =
    (run step (fresh panel') events').panel.cache.enhancedLayoutParams
  adjustInfo : finalAdjustInfo events = finalAdjustInfo events'
  changeY : (run step (fresh panel) events).changeY = (run step (fresh panel') events').changeY

/-- The final layout with the final adjust info. -/
def finalView (panel : Panel.State) (events : List Event) (orientation : Orientation) : Option View :=
  (finalAdjustInfo events).map fun adjustInfo =>
    view true (run step (fresh panel) events).panel.cache.enhancedLayoutParams {} adjustInfo orientation

/-- The areas of the final layout were taken, and no layout whose areas were taken since the region
was asked for has cut off what it leaves. -/
structure Calm (panel : Panel.State) (events : List Event) (orientation : Orientation) : Prop where
  settled : ∃ final, finalView panel events orientation = some final ∧
    ((run step (fresh panel) events).traces orientation).views.getLast? = some final
  undisturbed : ((run step (fresh panel) events).traces orientation).Undisturbed

section Regions

variable {s : State} {orientation : Orientation}

/-- Areas that are taken come from the traces that are handed over, cut once more. -/
theorem rectify_region (s : State) (answers : Answers) (enhancedParams : EnhancedLayoutParams)
    (params : KeyboardLayoutParams) (adjustInfo : FullPanelAdjustInfo) (hotAreas : HotAreas)
    (traces : Orientation → Trace) (orientation : Orientation) :
    ((s.rectify answers enhancedParams params adjustInfo hotAreas traces).traces orientation).region =
      bif answers.setKeyboardTouchHotAreas then (traces orientation).region
      else (s.traces orientation).region := by
  unfold State.rectify State.setHotAreas
  cases answers.setKeyboardTouchHotAreas <;> rfl

/-- The region after an enhanced layout: the one that is handed over, if the call succeeds. -/
theorem adjustEnhanced_region (s : State) (answers : Answers) (isPortrait : Bool)
    (panelFlag : PanelFlag)
    (params : EnhancedLayoutParams) (hotAreas : HotAreas) (traces : Orientation → Trace)
    (isColdStartRequest : Bool) (orientation : Orientation) :
    ((s.adjustEnhancedPanelRect answers isPortrait panelFlag params hotAreas traces
        isColdStartRequest).traces orientation).region =
      bif s.layoutTaken answers isPortrait panelFlag params isColdStartRequest then
        (traces orientation).region
      else (s.traces orientation).region := by
  unfold State.adjustEnhancedPanelRect State.layoutTaken
  cases s.panel.window with
  | false => rfl
  | true =>
      cases answers.getAdjustInfo with
      | error => rfl
      | ok adjustInfo =>
          dsimp only
          cases parseEnhancedParams answers.displaySize panelFlag adjustInfo params with
          | error => rfl
          | ok params =>
              dsimp only
              cases sent : s.sendLayout answers isPortrait
                (layoutInfo panelFlag {} params (convertToWMSParam panelFlag params) true)
                  isColdStartRequest with
              | mk after applied =>
                  have same : after.traces = s.traces := congrArg (fun sent => sent.1.traces) sent.symm
                  cases applied with
                  | false => exact congrArg (fun traces => (traces orientation).region) same
                  | true =>
                      refine (rectify_region after answers _ _ _ _ _ orientation).trans ?_
                      rw [same]
                      rfl

/-- Handed its own traces, an enhanced layout keeps the region. -/
theorem adjustEnhanced_own_region (s : State) (answers : Answers) (isPortrait : Bool)
    (panelFlag : PanelFlag)
    (params : EnhancedLayoutParams) (hotAreas : HotAreas) (isColdStartRequest : Bool)
    (orientation : Orientation) :
    ((s.adjustEnhancedPanelRect answers isPortrait panelFlag params hotAreas s.traces
        isColdStartRequest).traces orientation).region = (s.traces orientation).region := by
  rw [adjustEnhanced_region, Bool.cond_self]

theorem adjustEnhanced_enhanced (enhanced : s.panel.cache.isInEnhancedAdjust = true) (answers : Answers)
    (isPortrait : Bool) (panelFlag : PanelFlag) (params : EnhancedLayoutParams) (hotAreas : HotAreas)
    (traces : Orientation → Trace) (isColdStartRequest : Bool) :
    (s.adjustEnhancedPanelRect answers isPortrait panelFlag params hotAreas traces
      isColdStartRequest).panel.cache.isInEnhancedAdjust = true := by
  rw [adjustEnhancedPanelRect_panel]
  unfold Panel.State.adjustEnhancedPanelRect
  cases window : s.panel.window with
  | false => exact enhanced
  | true =>
      cases answers.getAdjustInfo with
      | error => exact enhanced
      | ok adjustInfo =>
          dsimp only
          cases parseEnhancedParams answers.displaySize panelFlag adjustInfo params with
          | error => exact enhanced
          | ok params =>
              have sent := Panel.State.sendLayout_sent answers s.panel window
                (layoutInfo panelFlag {} params (convertToWMSParam panelFlag params) true)
                  isColdStartRequest
              show (Panel.State.setHotAreasOnAdjust answers _).state.cache.isInEnhancedAdjust = true
              rw [(Panel.State.setHotAreasOnAdjust_state _ _).1, sent.cached]
              rfl

theorem updateRegion_panel (s : State) (answers : Answers) (isPortrait : Bool) (region : List Rect) :
    (s.updateRegion answers isPortrait region).panel = s.panel := by
  unfold State.updateRegion
  split
  · rfl
  · split
    · rfl
    · split
      · rfl
      · exact setHotAreas_panel _ _ _ _

/-- The region after `UpdateRegion`: the new one in the orientation of the display, if it succeeds. -/
theorem updateRegion_region (s : State) (answers : Answers) (isPortrait : Bool) (region : List Rect)
    (orientation : Orientation) :
    ((s.updateRegion answers isPortrait region).traces orientation).region =
      if s.regionTaken answers = true ∧
        orientation = (if isPortrait then .portrait else .landscape) then region
      else (s.traces orientation).region := by
  unfold State.updateRegion State.regionTaken
  cases s.panel.window with
  | false => rfl
  | true =>
      by_cases flag : s.panel.cache.panelFlag = .FLG_FIXED ∨ s.panel.cache.panelFlag = .FLG_FLOATING
      · rw [if_neg (by decide), if_neg (by simpa [or_iff_not_imp_left] using flag)]
        cases answers.getAdjustInfo with
        | error => simp
        | ok adjustInfo =>
            refine (rectify_region s answers _ _ _ _ _ orientation).trans ?_
            cases answers.setKeyboardTouchHotAreas with
            | false => simp
            | true =>
                by_cases here : orientation = (if isPortrait then .portrait else .landscape)
                · simp [here, flag]
                · simp [here]
      · rw [if_neg (by decide), if_pos (by simpa [not_or] using flag)]
        simp [flag]

theorem asks_updateRegion (region : List Rect) (answers : Answers) (isPortrait : Bool)
    (orientation : Orientation) :
    Event.asks ⟨.updateRegion region, answers, isPortrait⟩ orientation =
      if orientation = (if isPortrait then .portrait else .landscape) then some region else none := rfl

/-- What passes by keeps the region, and the keyboard enhanced. -/
theorem passing_step {event : Event} (passing : Passing orientation s event)
    (enhanced : s.panel.cache.isInEnhancedAdjust = true) :
    ((step s event).traces orientation).region = (s.traces orientation).region ∧
      (step s event).panel.cache.isInEnhancedAdjust = true := by
  obtain ⟨call, answers, isPortrait⟩ := event
  cases call with
  | adjustEnhancedPanelRect panelFlag params hotAreas isColdStartRequest =>
      refine ⟨?_, adjustEnhanced_enhanced enhanced _ _ _ _ _ _ _⟩
      have failed : s.layoutTaken answers isPortrait panelFlag params isColdStartRequest = false := by
        rcases passing with nothing | failed
        · cases nothing
        · exact failed
      refine (adjustEnhanced_region s answers isPortrait panelFlag params hotAreas _ _
        orientation).trans ?_
      rw [failed]
      rfl
  | adjustPanelRect => exact passing.elim
  | updateRegion region =>
      have kept : (step s ⟨.updateRegion region, answers, isPortrait⟩).panel = s.panel :=
        updateRegion_panel s answers isPortrait region
      refine ⟨?_, by rw [kept]; exact enhanced⟩
      refine (updateRegion_region s answers isPortrait region orientation).trans (if_neg ?_)
      rintro ⟨taken, here⟩
      rcases passing with nothing | failed
      · rw [asks_updateRegion, if_pos here] at nothing
        cases nothing
      · exact absurd (taken.symm.trans failed) (by decide)
  | adjustKeyboard =>
      have on : s.adjustKeyboard answers isPortrait = s ∨ s.adjustKeyboard answers isPortrait =
          s.adjustEnhancedPanelRect answers isPortrait s.panel.cache.panelFlag
            s.panel.cache.enhancedLayoutParams
            s.hotAreas s.traces false := by
        unfold State.adjustKeyboard
        dsimp only
        rw [if_pos enhanced]
        split
        · exact .inl rfl
        · split
          · exact .inl rfl
          · exact .inr rfl
      show ((s.adjustKeyboard answers isPortrait).traces orientation).region = _ ∧
        (s.adjustKeyboard answers isPortrait).panel.cache.isInEnhancedAdjust = true
      rcases on with same | adjusted
      · rw [same]
        exact ⟨rfl, enhanced⟩
      · rw [adjusted]
        exact ⟨adjustEnhanced_own_region _ _ _ _ _ _ _ _,
          adjustEnhanced_enhanced enhanced _ _ _ _ _ _ _⟩
  | moveTo x y =>
      show ((s.moveTo answers isPortrait x y).traces orientation).region = _ ∧
        (s.moveTo answers isPortrait x y).panel.cache.isInEnhancedAdjust = true
      unfold State.moveTo
      split
      · exact ⟨rfl, enhanced⟩
      · split
        · exact ⟨rfl, enhanced⟩
        · split
          · exact ⟨rfl, enhanced⟩
          · exact ⟨adjustEnhanced_own_region _ _ _ _ _ _ _ _,
              adjustEnhanced_enhanced enhanced _ _ _ _ _ _ _⟩

/-- A call that customises the orientation and succeeds leaves its region. -/
theorem asked_region {event : Event} {region : List Rect} (asks : event.asks orientation = some region)
    (taken : event.taken s = true) : ((step s event).traces orientation).region = region := by
  obtain ⟨call, answers, isPortrait⟩ := event
  cases call with
  | adjustEnhancedPanelRect panelFlag params hotAreas isColdStartRequest =>
      cases asks
      exact (adjustEnhanced_region s answers isPortrait panelFlag params hotAreas _ _ orientation).trans
        (congrArg (fun taken => bif taken then _ else _) taken)
  | adjustPanelRect => cases asks
  | updateRegion asked =>
      by_cases here : orientation = (if isPortrait then .portrait else .landscape)
      · rw [asks_updateRegion, if_pos here] at asks
        cases asks
        exact (updateRegion_region s answers isPortrait region orientation).trans (if_pos ⟨taken, here⟩)
      · rw [asks_updateRegion, if_neg here] at asks
        cases asks
  | adjustKeyboard => cases asks
  | moveTo => cases asks

/-- The region of the last customising call is the one that the trace begins with. -/
theorem Passes.region {panel : Panel.State} {before after : List Event} {region : List Rect}
    (passes : Passes panel before after orientation region) :
    ((run step (fresh panel) (before ++ after)).traces orientation).region = region := by
  have begun : ((run step (fresh panel) before).traces orientation).region = region := by
    rcases passes.asked with ⟨rfl, rfl⟩ | ⟨earlier, event, rfl, asks, taken⟩
    · rfl
    · rw [run_append]
      exact asked_region asks taken
  rw [run_append]
  refine (run_keeps (P := fun s : State => (s.traces orientation).region = region ∧
    s.panel.cache.isInEnhancedAdjust = true) ?_ ⟨begun, passes.enhanced⟩ passes.passing).1
  intro s event kept passing
  obtain ⟨same, enhanced⟩ := passing_step passing kept.2
  exact ⟨same.trans kept.1, enhanced⟩

end Regions

/-- **When hot areas do not depend on the history.**  Two runs that set the same region last, go on
by adjustments and moves and end with the same enhanced layout, adjust info and shift cover the same
points, where the areas of the final layout were taken and nothing that it leaves was cut off on the
way. -/
theorem history_independent {panel panel' : Panel.State} {before after before' after' : List Event}
    {orientation : Orientation} {region : List Rect}
    (passes : Passes panel before after orientation region)
    (passes' : Passes panel' before' after' orientation region)
    (ends : SameEnd panel (before ++ after) panel' (before' ++ after'))
    (calm : Calm panel (before ++ after) orientation)
    (calm' : Calm panel' (before' ++ after') orientation) :
    covered ((run step (fresh panel) (before ++ after)).hotAreas.of orientation).keyboardHotArea =
      covered ((run step (fresh panel') (before' ++ after')).hotAreas.of
        orientation).keyboardHotArea := by
  obtain ⟨final, shown, last⟩ := calm.settled
  obtain ⟨final', shown', last'⟩ := calm'.settled
  have same : final = final' := by
    rw [finalView, ends.enhancedLayoutParams, ends.adjustInfo] at shown
    exact Option.some.inj (shown.symm.trans shown')
  rw [(covers_direct_iff panel _ last).2 calm.undisturbed,
    (covers_direct_iff panel' _ last').2 calm'.undisturbed,
    Trace.direct, Trace.direct, Trace.asked, Trace.asked, passes.region, passes'.region, same]

/-! ## Poles -/

/-- A display of 500 by 1000 points. -/
def displayed : DisplaySize :=
  { portrait := { width := 500, height := 1000 }, landscape := { width := 500, height := 1000 } }

/-- A fixed keyboard, 300 points high. -/
def keyboard : EnhancedLayoutParams :=
  { portrait := { rect := { width := 500, height := 300 } },
    landscape := { rect := { width := 500, height := 300 } } }

/-- The upper 100 points of the keyboard. -/
def upperAreas : HotAreas :=
  { portrait := { keyboardHotArea := [{ width := 500, height := 100 }] }
    landscape := { keyboardHotArea := [{ width := 500, height := 100 }] } }

/-- The keyboard and its areas are asked for. -/
def asks : Event :=
  { call := .adjustEnhancedPanelRect .FLG_FIXED keyboard upperAreas false
    answers := { displaySize := some displayed }
    isPortrait := true }

/-- The system adjusts the keyboard, with an inset on the left; the window manager takes the areas or
not. -/
def adjusts (left : Int32) (setKeyboardTouchHotAreas : Bool) : Event :=
  { call := .adjustKeyboard
    answers :=
      { displaySize := some displayed
        getAdjustInfo := .ok { portrait := { left }, landscape := { left } }
        setKeyboardTouchHotAreas }
    isPortrait := true }

/-- After the region was asked for there are only adjustments. -/
theorem passes_adjusts {after : List Event} (adjusted : ∀ event ∈ after, event.call = .adjustKeyboard) :
    Passes {} [asks] after .portrait [{ width := 500, height := 100 }] := by
  have all : ∀ s, Meets step (Passing .portrait) s after := by
    induction after with
    | nil => exact fun _ => trivial
    | cons event after ih =>
        intro s
        refine ⟨?_, ih (fun event member => adjusted event (List.mem_cons_of_mem _ member)) _⟩
        rw [Passing, adjusted event List.mem_cons_self]
        trivial
  exact ⟨.inr ⟨[], asks, rfl, rfl, by decide⟩, by decide, all _⟩

/-- Adjustments that leave the same of the region do not disturb it. -/
theorem undisturbed_of_steady {t : Trace} (asked : t.region ≠ [])
    (steady : ∀ last, t.views.getLast? = some last → ∀ view ∈ t.views, view = last) :
    t.Undisturbed := by
  intro last ends
  refine ⟨fun none => absurd none asked, fun view member => ?_⟩
  rw [steady last ends view member]
  exact Set.inter_subset_right

theorem once_calm : Calm {} ([asks] ++ [adjusts 0 true]) .portrait :=
  ⟨⟨_, rfl, by decide⟩, undisturbed_of_steady (by decide) (by decide)⟩

theorem twice_calm : Calm {} ([asks] ++ [adjusts 0 true, adjusts 0 true]) .portrait :=
  ⟨⟨_, rfl, by decide⟩, undisturbed_of_steady (by decide) (by decide)⟩

theorem twice_ends :
    SameEnd {} ([asks] ++ [adjusts 0 true]) {} ([asks] ++ [adjusts 0 true, adjusts 0 true]) :=
  ⟨by decide, rfl, by decide⟩

/-- Without an inset nothing is lost. -/
theorem no_inset_kept :
    covered ((run step (fresh {}) ([asks] ++ [adjusts 0 true])).hotAreas.of .portrait).keyboardHotArea =
      covered ((run step (fresh {}) ([asks] ++ [adjusts 0 true, adjusts 0 true])).hotAreas.of
        .portrait).keyboardHotArea :=
  history_independent (passes_adjusts (by simp [adjusts]))
    (passes_adjusts (by simp [adjusts])) twice_ends once_calm
    twice_calm

/-- Two runs that differ only in the layouts on the way cover the same points. -/
def Agree (after after' : List Event) : Prop :=
  Passes {} [asks] after .portrait [{ width := 500, height := 100 }] →
    Passes {} [asks] after' .portrait [{ width := 500, height := 100 }] →
      SameEnd {} ([asks] ++ after) {} ([asks] ++ after') →
        covered ((run step (fresh {}) ([asks] ++ after)).hotAreas.of .portrait).keyboardHotArea =
          covered ((run step (fresh {}) ([asks] ++ after')).hotAreas.of .portrait).keyboardHotArea

theorem upper_covers : ((50, 50) : Int × Int) ∈ covered [({ width := 500, height := 100 } : Rect)] := by
  simp [covered, Rect.points]

theorem cut_misses :
    ((50, 50) : Int × Int) ∉ covered [({ posX := 100, width := 400, height := 100 } : Rect)] := by
  simp [covered, Rect.points]

/-- Runs of which one keeps the region whole and the other has lost its left end do not agree. -/
theorem not_agree {after after' : List Event}
    (adjusted : ∀ event ∈ after ++ after', event.call = .adjustKeyboard)
    (ends : SameEnd {} ([asks] ++ after) {} ([asks] ++ after'))
    (whole : ((run step (fresh {}) ([asks] ++ after)).hotAreas.of .portrait).keyboardHotArea =
      [{ width := 500, height := 100 }])
    (cut : ((run step (fresh {}) ([asks] ++ after')).hotAreas.of .portrait).keyboardHotArea =
      [{ posX := 100, width := 400, height := 100 }]) : ¬ Agree after after' := by
  intro agree
  have same := agree (passes_adjusts fun event member => adjusted event (List.mem_append_left _ member))
    (passes_adjusts fun event member => adjusted event (List.mem_append_right _ member)) ends
  rw [whole, cut] at same
  exact cut_misses (same ▸ upper_covers)

theorem inset_ends :
    SameEnd {} ([asks] ++ [adjusts 0 true]) {} ([asks] ++ [adjusts 100 true, adjusts 0 true]) :=
  ⟨by decide, rfl, by decide⟩

theorem refused_ends : SameEnd {} ([asks] ++ [adjusts 100 false]) {} ([asks] ++ [adjusts 100 true]) :=
  ⟨by decide, rfl, by decide⟩

/-- What an inset cuts away does not come back when the inset goes; and areas that are refused stay
those of the layout before. -/
theorem inset_stays_cut :
    ¬ Agree [adjusts 0 true] [adjusts 100 true, adjusts 0 true] ∧ ¬ Agree [adjusts 100 false]
    [adjusts 100 true] :=
  ⟨not_agree (by simp [adjusts]) inset_ends (by decide) (by decide),
    not_agree (by simp [adjusts]) refused_ends (by decide) (by decide)⟩

end History

end Imf.Panel
