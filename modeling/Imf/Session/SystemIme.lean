/-
# Imf.Session.SystemIme -- the way back of a system input method that has died

`OnImeDied` starts the system input method again, or leaves that to one of two others.  Where an
image of it is to be made first, the start is up to `OnSysImeImageCreated` and, if that does not
come, to a timeout task.  Where memory is low, `isBlockStartedByLowMem_` leaves it to `TryStartIme`
when memory has recovered, which may make an image itself.

`WayBack` says that one of the three holds while there is no input method.  `MakeImage` breaks it
where it is told that an image is being made already: it reports an image under way and posts no
timeout task.  `system_ime_way_back` says that nothing else breaks it but the death of an input
method that is being stopped (`Covered`).
-/
import Imf.Lib.Run
import Imf.Session.ImeData

namespace Imf.SystemIme

set_option autoImplicit false

open Lib (Meets prefixes_iff_meets run)

/-! ## The session -/

/-- The session, and since the last death: whether there was one, and whether `StartCurrentIme` has
been called. -/
structure State where
  realImeData : Option ImeData := none
  isBlockStartedByLowMem : Bool := false
  disconnectedByRss : Bool := false
  imageTimeout : Bool := false
  died : Bool := false
  started : Bool := false
  deriving DecidableEq, Repr

inductive ImageFailedReason where
  | none
  | hasRunningIme
  | others
  deriving DecidableEq, Repr

/-- What `NotifyMakeImage` answers: done, `E_IMAGE_CREATING`, or another error. -/
inductive MakeAnswer where
  | done
  | creating
  | failed
  deriving DecidableEq, Repr

/-- What a call is told by the rest of the system.  `imeToStart` is whether `GetRealCurrentIme`
finds an input method, and whether it is installed; `lowMem` and `lowMemLater` are the first and the
second answer of `IsInLowMemWaterMark`; `next` is what `StartCurrentIme` makes of `realImeData_`. -/
structure Scene where
  foreground : Bool
  wmsReady : Bool
  largeMemory : Bool
  dynamicStartIme : Bool
  requestOverLimit : Bool
  eventHandler : Bool
  currentImeCfg : Option String
  userCfgIme : String
  defaultIme : String
  defaultExt : String
  imeToStart : Option Bool
  currentClientBound : Bool
  verified : Bool
  runningIme : Bool
  memoryWatermarkEnabled : Bool
  lowMem : Bool
  lowMemLater : Bool
  notifyMakeImage : MakeAnswer
  attachCount : Nat
  boundRealIme : Bool
  abilityMgr : Bool
  disconnected : Bool
  next : Option ImeData
  deriving DecidableEq, Repr

section Session

variable (scene : Scene)

/-- `StartCurrentIme`. -/
def startCurrentIme (s : State) : State := { s with realImeData := scene.next, started := true }

/-- `StartImeIfInstalled`. -/
def startImeIfInstalled (s : State) : State :=
  match scene.imeToStart with
  | some true => startCurrentIme scene s
  | _ => s

/-- `StartImeInImeDied`. -/
def startImeInImeDied (s : State) : State :=
  if scene.requestOverLimit then s
  else if !scene.wmsReady then s
  else if scene.largeMemory then s
  else startImeIfInstalled scene s

/-- `RemoveRealImeData` of a process. -/
def removeRealImeData (pid : Int32) (s : State) : State :=
  if s.realImeData.any fun data => decide (data.pid = pid) then { s with realImeData := none } else s

/-- `NeedStartIme(MAKE_IMAGE)`, which is all that `NeedStartIme` asks before memory. -/
def needStartIme : Bool :=
  !scene.dynamicStartIme && !scene.largeMemory && scene.foreground && scene.wmsReady

/-- `NeedStartIme(NORMAL_START)`. -/
def needNormalStart (s : State) : Bool × State :=
  if !needStartIme scene then (false, s)
  else if scene.memoryWatermarkEnabled && scene.lowMem then
    (false, { s with isBlockStartedByLowMem := true })
  else (true, s)

/-- `IsSysIme`. -/
def isSysIme (bundleName : String) : Bool := decide (bundleName ≠ "" ∧ bundleName = scene.defaultIme)

/-- `NeedMakeImage`. -/
def needMakeImage (bundleName : String) (s : State) : Bool × ImageFailedReason :=
  if !isSysIme scene bundleName then (false, .others)
  else if !scene.verified then (false, .others)
  else if !needStartIme scene then (false, .others)
  else if (s.realImeData.any fun data => decide (data.ime.1 = bundleName)) || scene.runningIme then
    (false, .hasRunningIme)
  else (true, .none)

/-- `StartImageTimeoutTask`: a task that is pending makes room for the new one. -/
def startImageTimeoutTask (s : State) : State :=
  if scene.eventHandler then { s with imageTimeout := true } else s

/-- `StopImageTimeoutTask`. -/
def stopImageTimeoutTask (s : State) : State :=
  if scene.eventHandler then { s with imageTimeout := false } else s

/-- `MakeImage`. -/
def makeImage (bundleName : String) (s : State) : (Bool × ImageFailedReason) × State :=
  let makeRet := needMakeImage scene bundleName s
  if !makeRet.1 then (makeRet, s)
  else
    match scene.notifyMakeImage with
    | .creating => ((true, .none), s)
    | .failed => ((false, .others), s)
    | .done => ((true, .none), startImageTimeoutTask scene s)

/-- `StartImeInSysImageChanged`. -/
def startImeInSysImageChanged (s : State) : ErrorCode × State :=
  if s.realImeData.isSome then (.errorImeHasStarted, s)
  else if ¬ (scene.defaultIme ≠ "" ∧ scene.defaultIme = scene.userCfgIme) then (.noError, s)
  else
    match needNormalStart scene s with
    | (false, s) => (.errorSceneUnsupported, s)
    | (true, s) => (.noError, startCurrentIme scene s)

/-- `OnSysImeImageCreated`. -/
def onSysImeImageCreated (s : State) : ErrorCode × State :=
  startImeInSysImageChanged scene (stopImageTimeoutTask scene s)

/-- The timeout task, if it is pending. -/
def imageTimeoutTask (s : State) : ErrorCode × State :=
  if s.imageTimeout then startImeInSysImageChanged scene { s with imageTimeout := false }
  else (.noError, s)

/-- `TryDisconnectIme`. -/
def tryDisconnectIme (s : State) : ErrorCode :=
  if ¬ s.realImeData.any fun data => decide (data.imeStatus ≠ .starting) then .errorImeNotStarted
  else if scene.attachCount ≠ 0 then .errorOperationNotAllowed
  else if scene.boundRealIme then .errorOperationNotAllowed
  else if !scene.abilityMgr then .errorImsaNullptr
  else if !scene.disconnected then .errorImsaImeDisconnectFailed
  else .noError

/-- `OnMakeSysImeImage`. -/
def onMakeSysImeImage (s : State) : ErrorCode × State :=
  match makeImage scene scene.defaultIme s with
  | ((true, _), s) => (.noError, s)
  | ((false, failedReason), s) =>
      if (scene.defaultIme ≠ "" ∧ scene.defaultIme = scene.userCfgIme) ∧ failedReason = .hasRunningIme ∧
          scene.lowMem = false then
        (.noError, if tryDisconnectIme scene s = .noError then
          { s with disconnectedByRss := true } else s)
      else (.noError, s)

/-- `TryStartIme`. -/
def tryStartIme (s : State) : ErrorCode × State :=
  if !s.isBlockStartedByLowMem then (.errorOperationNotAllowed, s)
  else
    match makeImage scene scene.defaultIme { s with isBlockStartedByLowMem := false } with
    | ((true, _), s) => (.noError, s)
    | ((false, _), s) =>
        if s.realImeData.isSome then (.errorImeHasStarted, s)
        else if scene.currentImeCfg ≠ some scene.defaultIme then (.errorOperationNotAllowed, s)
        else if !scene.dynamicStartIme && scene.wmsReady then (.noError, startImeIfInstalled scene s)
        else (.noError, s)

/-- `HandleSysImeInDied` of a real input method. -/
def handleSysImeInDied (disconnectedByRss : Bool) (s : State) : ErrorCode × State :=
  match scene.currentImeCfg with
  | none => (.errorExIllegalState, s)
  | some currentIme =>
      if scene.defaultIme = "" ∨ scene.defaultExt = "" then (.errorExIllegalState, s)
      else if currentIme ≠ scene.defaultIme then (.noError, s)
      else
        let (making, s) :=
          if !scene.lowMem && disconnectedByRss then
            ((makeImage scene scene.defaultIme s).1.1, (makeImage scene scene.defaultIme s).2)
          else (false, s)
        if making then (.noError, s)
        else
          let isInLowMem := scene.memoryWatermarkEnabled && scene.lowMemLater
          let s := { s with isBlockStartedByLowMem := isInLowMem }
          (.noError, if isInLowMem then s else startImeInImeDied scene s)

/-- `OnImeDied` of a real input method. -/
def onImeDied (pid : Int32) (s : State) : State :=
  let disconnectedByRss := s.disconnectedByRss
  let s := { s with isBlockStartedByLowMem := false, disconnectedByRss := false, died := true, started := false }
  if s.realImeData.any fun data => decide (data.pid = pid ∧ data.imeStatus = .exiting) then
    removeRealImeData pid s
  else
    let s := removeRealImeData pid s
    if !scene.foreground then s
    else if scene.currentClientBound then startImeInImeDied scene s
    else (handleSysImeInDied scene disconnectedByRss s).2

end Session

/-! ## Runs -/

inductive Call where
  | onImeDied (pid : Int32)
  | tryStartIme
  | onMakeSysImeImage
  | onSysImeImageCreated
  | imageTimeoutTask
  deriving DecidableEq, Repr

/-- The user is in the foreground with the window manager ready, outside the scenes in which nothing
is started and below the limit of restarts; the system input method is configured and installed. -/
structure Scene.Fit (scene : Scene) : Prop where
  foreground : scene.foreground = true
  wmsReady : scene.wmsReady = true
  largeMemory : scene.largeMemory = false
  dynamicStartIme : scene.dynamicStartIme = false
  requestOverLimit : scene.requestOverLimit = false
  eventHandler : scene.eventHandler = true
  named : scene.defaultIme ≠ "" ∧ scene.defaultExt ≠ ""
  current : scene.currentImeCfg = some scene.defaultIme
  configured : scene.userCfgIme = scene.defaultIme
  installed : scene.imeToStart = some true

/-- The scenes of the runs. -/
abbrev FitScene := { scene : Scene // scene.Fit }

def step (s : State) : FitScene × Call → State
  | (scene, .onImeDied pid) => onImeDied scene.1 pid s
  | (scene, .tryStartIme) => (tryStartIme scene.1 s).2
  | (scene, .onMakeSysImeImage) => (onMakeSysImeImage scene.1 s).2
  | (scene, .onSysImeImageCreated) => (onSysImeImageCreated scene.1 s).2
  | (scene, .imageTimeoutTask) => (imageTimeoutTask scene.1 s).2

/-- After a death, while there is no input method: it has been started, or will be, by the timeout
task or when memory has recovered. -/
def WayBack (s : State) : Prop :=
  s.died = true → s.realImeData = none →
    s.started = true ∨ s.imageTimeout = true ∨ s.isBlockStartedByLowMem = true

/-- An input method that is being stopped dies, or a call that is to make an image is told that one
is being made: then the timeout task is pending, or there is another way.  A death leaves no other
but an input method of another process. -/
def Covered (s : State) : FitScene × Call → Prop
  | (scene, .onImeDied pid) =>
      if s.realImeData.any fun data => decide (data.pid = pid ∧ data.imeStatus = .exiting) then
        s.imageTimeout = true
      else
        scene.1.currentClientBound = false → s.disconnectedByRss = true → scene.1.lowMem = false →
          (needMakeImage scene.1 scene.1.defaultIme (removeRealImeData pid s)).1 = true →
            scene.1.notifyMakeImage = .creating →
              s.imageTimeout = true ∨ (removeRealImeData pid s).realImeData ≠ none
  | (scene, .tryStartIme) =>
      s.isBlockStartedByLowMem = true → (needMakeImage scene.1 scene.1.defaultIme s).1 = true →
        scene.1.notifyMakeImage = .creating →
          s.imageTimeout = true ∨ s.realImeData ≠ none ∨ s.started = true ∨ s.died = false
  | _ => True

/-! ## The routes -/

section Routes

variable {scene : Scene} (fit : scene.Fit) {s : State}

theorem wayBack_started (scene : Scene) (s : State) : WayBack (startCurrentIme scene s) :=
  fun _ _ => .inl rfl

theorem wayBack_blocked (blocked : s.isBlockStartedByLowMem = true) : WayBack s := fun _ _ =>
    .inr (.inr blocked)

theorem wayBack_pending (pending : s.imageTimeout = true) : WayBack s := fun _ _ => .inr (.inl pending)

theorem wayBack_running (running : s.realImeData ≠ none) : WayBack s := fun _ gone =>
    absurd gone running

theorem removeRealImeData_afterDeath (pid : Int32) (s : State) :
    removeRealImeData pid { s with
        isBlockStartedByLowMem := false, disconnectedByRss := false, died := true, started := false } =
      { removeRealImeData pid s with
        isBlockStartedByLowMem := false, disconnectedByRss := false, died := true,
        started := false } := by
  unfold removeRealImeData
  split <;> rfl

theorem removeRealImeData_imageTimeout (pid : Int32) (s : State) :
    (removeRealImeData pid s).imageTimeout = s.imageTimeout := by
  unfold removeRealImeData
  split <;> rfl

include fit

theorem Scene.Fit.needStartIme : SystemIme.needStartIme scene = true := by
  rw [SystemIme.needStartIme, fit.dynamicStartIme, fit.largeMemory, fit.foreground, fit.wmsReady]
  rfl

theorem startImeIfInstalled_fit (s : State) :
    startImeIfInstalled scene s = startCurrentIme scene s := by
  rw [startImeIfInstalled, fit.installed]

theorem startImeInImeDied_fit (s : State) : startImeInImeDied scene s = startCurrentIme scene s := by
  rw [startImeInImeDied, fit.requestOverLimit, fit.wmsReady, fit.largeMemory]
  exact startImeIfInstalled_fit fit s

/-- After an image, and after the timeout. -/
theorem startImeInSysImageChanged_wayBack (s : State) :
    WayBack (startImeInSysImageChanged scene s).2 := by
  have configured : scene.defaultIme ≠ "" ∧ scene.defaultIme = scene.userCfgIme :=
    ⟨fit.named.1, fit.configured.symm⟩
  by_cases running : s.realImeData.isSome = true
  · rw [startImeInSysImageChanged, if_pos running]
    exact wayBack_running (Option.ne_none_iff_isSome.2 running)
  rw [startImeInSysImageChanged, if_neg running, if_neg (not_not.2 configured), needNormalStart,
    fit.needStartIme]
  cases low : scene.memoryWatermarkEnabled && scene.lowMem with
  | true => exact wayBack_blocked rfl
  | false => exact wayBack_started scene s

/-- What `MakeImage` does: it is told that an image is being made, it has one made, or neither. -/
theorem makeImage_cases (bundleName : String) (s : State) :
    ((needMakeImage scene bundleName s).1 = true ∧ scene.notifyMakeImage = .creating ∧
        makeImage scene bundleName s = ((true, .none), s)) ∨
      (scene.notifyMakeImage = .done ∧
        makeImage scene bundleName s = ((true, .none), { s with imageTimeout := true })) ∨
      (¬ ((needMakeImage scene bundleName s).1 = true ∧ scene.notifyMakeImage = .creating) ∧
        ∃ reason, makeImage scene bundleName s = ((false, reason), s)) := by
  unfold makeImage
  dsimp only
  cases need : (needMakeImage scene bundleName s).1 with
  | false =>
      refine .inr (.inr ⟨fun told => Bool.noConfusion told.1, (needMakeImage scene bundleName s).2, ?_⟩)
      generalize needMakeImage scene bundleName s = makeRet at need
      obtain ⟨needed, reason⟩ := makeRet
      cases need
      rfl
  | true =>
      cases answer : scene.notifyMakeImage with
      | creating => exact .inl ⟨rfl, rfl, rfl⟩
      | failed => exact .inr (.inr ⟨nofun, .others, rfl⟩)
      | done =>
          refine .inr (.inl ⟨rfl, ?_⟩)
          rw [startImageTimeoutTask, fit.eventHandler]
          rfl

/-- The end of `HandleSysImeInDied`: the start is blocked, or made. -/
theorem blockOrStart_wayBack (isInLowMem : Bool) (s : State) :
    WayBack (if isInLowMem then { s with isBlockStartedByLowMem := isInLowMem }
      else startImeInImeDied scene { s with isBlockStartedByLowMem := isInLowMem }) := by
  cases isInLowMem with
  | true => exact wayBack_blocked rfl
  | false =>
      rw [startImeInImeDied_fit fit]
      exact wayBack_started scene _

theorem handleSysImeInDied_wayBack_iff (disconnectedByRss : Bool) (died : s.died = true)
    (unstarted : s.started = false) (unblocked : s.isBlockStartedByLowMem = false) :
    WayBack (handleSysImeInDied scene disconnectedByRss s).2 ↔
      (disconnectedByRss = true → scene.lowMem = false →
        (needMakeImage scene scene.defaultIme s).1 = true →
        scene.notifyMakeImage = .creating → s.imageTimeout = true ∨ s.realImeData ≠ none) := by
  have named : ¬ (scene.defaultIme = "" ∨ scene.defaultExt = "") := not_or.2 fit.named
  rw [handleSysImeInDied, fit.current]
  dsimp only
  rw [if_neg named, if_neg (not_not.2 rfl)]
  cases disconnectedByRss with
  | false =>
      rw [Bool.and_false]
      exact iff_of_true (blockOrStart_wayBack fit _ s) nofun
  | true =>
      cases low : scene.lowMem with
      | true => exact iff_of_true (blockOrStart_wayBack fit _ s) nofun
      | false =>
          rcases makeImage_cases fit scene.defaultIme s
            with ⟨need, creating, made⟩ | ⟨done, made⟩ | ⟨no, reason, made⟩
          · rw [made]
            show WayBack s ↔ _
            constructor
            · intro back _ _ _ _
              by_contra neither
              obtain ⟨idle, gone⟩ := not_or.1 neither
              rcases back died (not_not.1 gone) with started | pending | blocked
              · rw [unstarted] at started
                cases started
              · exact idle pending
              · rw [unblocked] at blocked
                cases blocked
            · intro covered
              rcases covered rfl rfl need creating with pending | running
              · exact wayBack_pending pending
              · exact wayBack_running running
          · rw [made]
            refine iff_of_true (wayBack_pending rfl) fun _ _ _ creating => ?_
            rw [done] at creating
            cases creating
          · rw [made]
            refine iff_of_true (blockOrStart_wayBack fit _ s) ?_
            intro _ _ need creating
            exact absurd ⟨need, creating⟩ no

theorem tryStartIme_wayBack_iff (back : WayBack s) :
    WayBack (tryStartIme scene s).2 ↔
      (s.isBlockStartedByLowMem = true → (needMakeImage scene scene.defaultIme s).1 = true →
        scene.notifyMakeImage = .creating →
          s.imageTimeout = true ∨ s.realImeData ≠ none ∨ s.started = true ∨ s.died = false) := by
  unfold tryStartIme
  cases blocked : s.isBlockStartedByLowMem with
  | false => exact iff_of_true back nofun
  | true =>
      rw [if_neg (by exact nofun)]
      rcases makeImage_cases fit scene.defaultIme { s with isBlockStartedByLowMem := false } with
        ⟨need, creating, made⟩ | ⟨done, made⟩ | ⟨no, reason, made⟩
      · rw [made]
        constructor
        · intro back _ _ _
          by_contra neither
          simp only [not_or] at neither
          obtain ⟨idle, gone, unstarted, alive⟩ := neither
          rcases back (by simpa using alive) (not_not.1 gone) with started | pending | impossible
          · exact unstarted started
          · exact idle pending
          · cases impossible
        · intro covered died gone
          rcases covered rfl need creating with pending | running | started | alive
          · exact .inr (.inl pending)
          · exact absurd gone running
          · exact .inl started
          · exact absurd died (by rw [alive]; exact nofun)
      · rw [made]
        refine iff_of_true (wayBack_pending rfl) fun _ _ creating => ?_
        rw [done] at creating
        cases creating
      · rw [made]
        refine iff_of_true ?_ fun _ need creating => absurd ⟨need, creating⟩ no
        dsimp only
        by_cases running : s.realImeData.isSome = true
        · rw [if_pos running]
          exact wayBack_running (Option.ne_none_iff_isSome.2 running)
        · rw [if_neg running, if_neg (not_not.2 fit.current), fit.dynamicStartIme, fit.wmsReady]
          show WayBack (startImeIfInstalled scene _)
          rw [startImeIfInstalled_fit fit]
          exact wayBack_started scene _

theorem onMakeSysImeImage_wayBack (back : WayBack s) : WayBack (onMakeSysImeImage scene s).2 := by
  unfold onMakeSysImeImage
  rcases makeImage_cases fit scene.defaultIme s with ⟨-, -, made⟩ | ⟨-, made⟩ | ⟨-, reason, made⟩
  · rw [made]
    exact back
  · rw [made]
    exact wayBack_pending rfl
  · rw [made]
    dsimp only
    split
    · dsimp only
      split
      · exact back
      · exact back
    · exact back

theorem onImeDied_wayBack_iff (pid : Int32) (s : State) :
    WayBack (onImeDied scene pid s) ↔ Covered s (⟨scene, fit⟩, .onImeDied pid) := by
  unfold onImeDied Covered
  dsimp only
  split
  · -- The input method is being stopped: its data goes, and nothing else happens.
    rename_i stopping
    have itself : (s.realImeData.any fun data => decide (data.pid = pid)) = true := by
      obtain ⟨data, there, exiting⟩ := (Option.any_eq_true ..).1 stopping
      exact (Option.any_eq_true ..).2 ⟨data, there, decide_eq_true (of_decide_eq_true exiting).1⟩
    rw [removeRealImeData, if_pos itself]
    constructor
    · intro back
      rcases back rfl rfl with impossible | pending | impossible
      · cases impossible
      · exact pending
      · cases impossible
    · intro pending
      exact wayBack_pending pending
  · rw [fit.foreground, if_neg (by exact nofun), removeRealImeData_afterDeath]
    cases bound : scene.currentClientBound with
    | true =>
        rw [startImeInImeDied_fit fit]
        exact iff_of_true (wayBack_started scene _) nofun
    | false =>
        refine (handleSysImeInDied_wayBack_iff fit s.disconnectedByRss rfl rfl rfl).trans ?_
        dsimp only
        rw [removeRealImeData_imageTimeout]
        exact ⟨fun covered _ => covered, fun covered => covered rfl⟩

end Routes

theorem step_wayBack_iff (s : State) (e : FitScene × Call) (back : WayBack s) :
    WayBack (step s e) ↔ Covered s e := by
  obtain ⟨⟨scene, fit⟩, call⟩ := e
  cases call with
  | onImeDied pid => exact onImeDied_wayBack_iff fit pid s
  | tryStartIme => exact tryStartIme_wayBack_iff fit back
  | onMakeSysImeImage => exact iff_of_true (onMakeSysImeImage_wayBack fit back) trivial
  | onSysImeImageCreated =>
      exact iff_of_true (startImeInSysImageChanged_wayBack fit (stopImageTimeoutTask scene s)) trivial
  | imageTimeoutTask =>
      refine iff_of_true ?_ trivial
      show WayBack (imageTimeoutTask scene s).2
      unfold imageTimeoutTask
      split
      · exact startImeInSysImageChanged_wayBack fit _
      · exact back

/-- **In every run the system input method has a way back all along, exactly when the timeout task is
pending, or another way open, whenever an input method dies that is being stopped and whenever a call
is told that an image is being made.** -/
theorem system_ime_way_back (s : State) (start : WayBack s) (es : List (FitScene × Call)) :
    (∀ fs, fs <+: es → WayBack (run step s fs)) ↔ Meets step Covered s es :=
  prefixes_iff_meets step_wayBack_iff start

/-! ## Poles -/

def fitScene : Scene where
  foreground := true
  wmsReady := true
  largeMemory := false
  dynamicStartIme := false
  requestOverLimit := false
  eventHandler := true
  currentImeCfg := some "com.example.system"
  userCfgIme := "com.example.system"
  defaultIme := "com.example.system"
  defaultExt := "SystemExt"
  imeToStart := some true
  currentClientBound := false
  verified := true
  runningIme := false
  memoryWatermarkEnabled := true
  lowMem := false
  lowMemLater := false
  notifyMakeImage := .done
  attachCount := 0
  boundRealIme := false
  abilityMgr := true
  disconnected := true
  next := some { pid := 2, ime := ("com.example.system", ""), imeStatus := .ready }

theorem fitScene_fit : fitScene.Fit := ⟨rfl, rfl, rfl, rfl, rfl, rfl, by decide, rfl, rfl, rfl⟩

/-- `NotifyMakeImage` answers that an image is being made. -/
theorem creatingScene_fit : { fitScene with notifyMakeImage := .creating }.Fit :=
  ⟨rfl, rfl, rfl, rfl, rfl, rfl, by decide, rfl, rfl, rfl⟩

def creatingScene : FitScene := ⟨_, creatingScene_fit⟩

/-- The input method runs. -/
def running : State where
  realImeData := some { pid := 1, ime := ("com.example.system", ""), imeStatus := .ready }

/-- An image is asked for while the input method runs, it is disconnected and dies, the image is made
or not: the timeout task starts it. -/
theorem dies_for_an_image :
    let es : List (FitScene × Call) :=
      [(⟨_, fitScene_fit⟩, .onMakeSysImeImage), (⟨_, fitScene_fit⟩, .onImeDied 1),
        (creatingScene, .onMakeSysImeImage), (⟨_, fitScene_fit⟩, .imageTimeoutTask)]
    WayBack running ∧ (run step running es).realImeData =
      some { pid := 2, ime := ("com.example.system", ""), imeStatus := .ready } ∧
      ∀ fs, fs <+: es → WayBack (run step running fs) := by
  intro es
  have alive : WayBack running := nofun
  refine ⟨alive, by decide,
    (system_ime_way_back running alive es).2 ⟨trivial, ?_, trivial, trivial, trivial⟩⟩
  intro _ _ _ _ creating
  cases creating

/-- The same, but another image is being made when the input method dies: nothing is pending. -/
theorem dies_while_creating :
    let es : List (FitScene × Call) :=
      [(⟨_, fitScene_fit⟩, .onMakeSysImeImage), (creatingScene, .onImeDied 1)]
    WayBack running ∧ ¬ WayBack (run step running es) := by
  intro es
  refine ⟨nofun, fun back => ?_⟩
  rcases back (by decide) (by decide) with started | pending | blocked
  · exact absurd started (by decide)
  · exact absurd pending (by decide)
  · exact absurd blocked (by decide)

end Imf.SystemIme
