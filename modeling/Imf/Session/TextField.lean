/-
# Imf.Session.TextField -- a text field and the input method it is left to

* `startIme_outcome`: what any start leaves, and what one that succeeds leaves ready.
* `guarded_run`: while an input type is started, nothing but an input method of the system
  configuration is there in the session it was started in, in every run.
* `password_served`: who takes a password field.
* `field_served`: who takes any other new text field; a case for each branch.

`InputTypeManager` is one for all users, and nothing resets it when the user is switched: while a
type is started, another user's password field finds it started and is left to whatever input
method runs in that user's session.  So `password_served` is about runs in which, while a type is
started, only the session it was started in starts anything (`Turns`).
-/
import Mathlib.Tactic.SplitIfs
import Imf.Lib.Run
import Imf.Session.InputTypes

namespace Imf.InputTypes

set_option autoImplicit false

open Lib (Meets meets_append run run_keeps)
open Lifecycle (ImeAction ImeEvent imeEventConverter)

/-- While a type is started, its input method and the one that is there are both named by the
system configuration. -/
def Guarded (config : Config) (s : State) : Prop :=
  s.isStarted = true →
    config.isInputTypeBundle s.currentTypeIme.bundleName = true ∧
      ∀ data, s.realImeData = some data → config.Named data.ime.1

/-! ## What a start does -/

/-- What a stop leaves: the session as it was or ended, the data as it was or gone. -/
structure Stops (s s' : State) : Prop where
  session : s'.isStarted = true → s.isStarted = true ∧ s'.currentTypeIme = s.currentTypeIme
  data : ∀ data', s'.realImeData = some data' → ∃ data, s.realImeData = some data ∧ data.ime = data'.ime
  currentImeCfg : s'.currentImeCfg = s.currentImeCfg
  locked : s'.isDeviceLockAndScreenLocked = s.isDeviceLockAndScreenLocked

theorem Stops.refl (s : State) : Stops s s :=
  ⟨fun on => ⟨on, rfl⟩, fun data there => ⟨data, there, rfl⟩, rfl, rfl⟩

theorem Stops.trans {s t u : State} (first : Stops s t) (next : Stops t u) : Stops s u where
  session on := by
    obtain ⟨on, same⟩ := next.session on
    exact ⟨(first.session on).1, same.trans (first.session on).2⟩
  data data' there := by
    obtain ⟨middle, there, same⟩ := next.data data' there
    obtain ⟨data, there, before⟩ := first.data middle there
    exact ⟨data, there, before.trans same⟩
  currentImeCfg := next.currentImeCfg.trans first.currentImeCfg
  locked := next.locked.trans first.locked

variable {config : Config} {scene : Scene} {s : State}

theorem stops_removeRealImeData (s : State) : Stops s s.removeRealImeData :=
  ⟨fun on => ⟨on, rfl⟩, nofun, rfl, rfl⟩

theorem stops_exitingImeDied (s : State) : Stops s s.exitingImeDied where
  session on := by simp [State.exitingImeDied, State.set] at on
  data := nofun
  currentImeCfg := rfl
  locked := rfl

/-- What the data is asked for a start, a stop, a timeout and a registration. -/
theorem getImeAction_stopIme {data : ImeData} (there : s.realImeData = some data) :
    s.getImeAction .stopIme =
      (if data.imeStatus = .ready then .stopReadyIme else .forceStopIme,
        { s with realImeData := some { data with imeStatus := .exiting } }) := by
  obtain ⟨core, agent, deathRecipient, pid, uid, type, imeStatus, ime, isStartedInScreenLocked⟩ := data
  unfold State.getImeAction
  rw [there]
  cases imeStatus <;> rfl

theorem getImeAction_startIme {data : ImeData} (there : s.realImeData = some data) :
    s.getImeAction .startIme =
      (match data.imeStatus with
        | .ready => .doNothing
        | .starting => .handleStartingIme
        | .exiting => .startAfterForceStop, s) := by
  obtain ⟨core, agent, deathRecipient, pid, uid, type, imeStatus, ime, isStartedInScreenLocked⟩ := data
  obtain ⟨isStarted, currentTypeIme, realImeData, currentImeCfg, runningIme, retry, locked, exam⟩ := s
  cases there
  cases imeStatus <;> rfl

theorem getImeAction_startImeTimeout {data : ImeData} (there : s.realImeData = some data)
    (starting : data.imeStatus = .starting) :
    s.getImeAction .startImeTimeout =
      (.startAfterForceStop, { s with realImeData := some { data with imeStatus := .exiting } }) := by
  obtain ⟨core, agent, deathRecipient, pid, uid, type, imeStatus, ime, isStartedInScreenLocked⟩ := data
  cases starting
  unfold State.getImeAction
  rw [there]
  rfl

theorem getImeAction_setCoreAndAgent {data : ImeData} (there : s.realImeData = some data) :
    s.getImeAction .setCoreAndAgent =
      if data.imeStatus = .starting then
        (.doSetCoreAndAgent, { s with realImeData := some { data with imeStatus := .ready } })
      else (.doNothing, s) := by
  obtain ⟨core, agent, deathRecipient, pid, uid, type, imeStatus, ime, isStartedInScreenLocked⟩ := data
  obtain ⟨isStarted, currentTypeIme, realImeData, currentImeCfg, runningIme, retry, locked, exam⟩ := s
  cases there
  cases imeStatus <;> rfl

theorem getImeAction_none (event : ImeEvent) (gone : s.realImeData = none) :
    s.getImeAction event = (.doActionInNullImeData, s) := by
  unfold State.getImeAction
  rw [gone]

theorem stops_status {data : ImeData} (there : s.realImeData = some data) (imeStatus : ImeStatus) :
    Stops s { s with realImeData := some { data with imeStatus } } :=
  ⟨fun on => ⟨on, rfl⟩, fun data' same => ⟨data, there, by cases same; rfl⟩, rfl, rfl⟩

theorem stops_forceStopCurrentIme (isNeedWait : Bool) :
    Stops s (forceStopCurrentIme scene isNeedWait s).2 := by
  have died : Stops s (if scene.diesInForce then s.exitingImeDied else s) := by
    split
    · exact stops_exitingImeDied s
    · exact .refl s
  unfold forceStopCurrentIme
  split
  · exact .refl s
  split
  · exact stops_removeRealImeData s
  split
  · exact .refl s
  split
  · exact .refl s
  dsimp only
  split
  · exact died
  · exact died.trans (stops_removeRealImeData _)

/-- A stop by force that succeeds leaves no data. -/
theorem gone_forceStopCurrentIme {isNeedWait : Bool}
    (done : (forceStopCurrentIme scene isNeedWait s).1 = .noError) :
    (forceStopCurrentIme scene isNeedWait s).2.realImeData = none := by
  unfold forceStopCurrentIme at done ⊢
  dsimp only at done ⊢
  split_ifs at done ⊢ <;> first | assumption | rfl

theorem stops_stopReadyCurrentIme : Stops s (stopReadyCurrentIme scene s).2 := by
  unfold stopReadyCurrentIme
  split
  · exact .refl s
  split
  · exact stops_forceStopCurrentIme true
  split
  · exact stops_forceStopCurrentIme true
  split
  · exact stops_forceStopCurrentIme true
  · exact stops_exitingImeDied s

theorem gone_stopReadyCurrentIme (done : (stopReadyCurrentIme scene s).1 = .noError) :
    (stopReadyCurrentIme scene s).2.realImeData = none := by
  unfold stopReadyCurrentIme at done ⊢
  split at done
  · rwa [if_pos ‹_›]
  rw [if_neg ‹_›]
  split at done
  · rw [if_pos ‹_›]
    exact gone_forceStopCurrentIme done
  rw [if_neg ‹_›]
  split at done
  · rw [if_pos ‹_›]
    exact gone_forceStopCurrentIme done
  rw [if_neg ‹_›]
  split at done
  · rw [if_pos ‹_›]
    exact gone_forceStopCurrentIme done
  · rw [if_neg ‹_›]
    rfl

variable (scene) in
theorem stopCurrentIme_cases (s : State) :
    Stops s (stopCurrentIme scene s).2 ∧
      ((stopCurrentIme scene s).1 = .noError → (stopCurrentIme scene s).2.realImeData = none) := by
  unfold stopCurrentIme
  cases there : s.realImeData with
  | none =>
      rw [getImeAction_none _ there]
      exact ⟨.refl s, fun _ => there⟩
  | some data =>
      rw [getImeAction_stopIme there]
      have told := stops_status there .exiting
      by_cases ready : data.imeStatus = .ready
      · rw [if_pos ready]
        exact ⟨told.trans stops_stopReadyCurrentIme, gone_stopReadyCurrentIme⟩
      · rw [if_neg ready]
        exact ⟨told.trans (stops_forceStopCurrentIme true), gone_forceStopCurrentIme⟩

/-- What a start leaves: the session as it was or ended, and no other data than was there, the one
to start, or the default one. -/
structure Starts (config : Config) (ime : ImeNativeCfg) (s s' : State) : Prop where
  session : s'.isStarted = true → s.isStarted = true ∧ s'.currentTypeIme = s.currentTypeIme
  data : ∀ data', s'.realImeData = some data' →
    (∃ data, s.realImeData = some data ∧ data.ime = data'.ime) ∨ data'.ime = ime.ime ∨
      data'.ime = config.defaultIme.ime
  locked : s'.isDeviceLockAndScreenLocked = s.isDeviceLockAndScreenLocked

/-- What a start that succeeds leaves ready: the one to start, or the default one of a locked screen. -/
def Readies (config : Config) (ime : ImeNativeCfg) (s s' : State) : Prop :=
  ∃ data, s'.realImeData = some data ∧ data.imeStatus = .ready ∧
    ((data.ime = ime.ime ∧ s'.currentImeCfg = s.currentImeCfg) ∨
      (s.isDeviceLockAndScreenLocked = true ∧ data.ime = config.defaultIme.ime))

/-- What becomes of a start: what it leaves in any case, and if it succeeds. -/
def StartOutcome (config : Config) (ime : ImeNativeCfg) (s : State)
    (outcome : ErrorCode × State) : Prop :=
  Starts config ime s outcome.2 ∧ (outcome.1 = .noError → Readies config ime s outcome.2)

variable {ime : ImeNativeCfg} {s' : State}

theorem Stops.starts (stops : Stops s s') : Starts config ime s s' :=
  ⟨stops.session, fun data' there => .inl (stops.data data' there), stops.locked⟩

theorem Stops.then_starts {t : State} (stops : Stops s t) (starts : Starts config ime t s') :
    Starts config ime s s' where
  session on := by
    obtain ⟨on, same⟩ := starts.session on
    exact ⟨(stops.session on).1, same.trans (stops.session on).2⟩
  data data' there := by
    rcases starts.data data' there with ⟨data, there, same⟩ | new
    · obtain ⟨before, there, was⟩ := stops.data data there
      exact .inl ⟨before, there, was.trans same⟩
    · exact .inr new
  locked := starts.locked.trans stops.locked

theorem Stops.then_readies {t : State} (stops : Stops s t) (readies : Readies config ime t s') :
    Readies config ime s s' := by
  obtain ⟨data, there, ready, which⟩ := readies
  rw [stops.currentImeCfg, stops.locked] at which
  exact ⟨data, there, ready, which⟩

variable (config scene) in
theorem changeToDefaultImeIfNeed_cases (ime : ImeNativeCfg) (s : State) :
    (∃ code, changeToDefaultImeIfNeed config scene ime s = (.error code, s) ∧ code ≠ .noError) ∨
      changeToDefaultImeIfNeed config scene ime s = (.ok ime, s) ∨
      (s.isDeviceLockAndScreenLocked = true ∧
        changeToDefaultImeIfNeed config scene ime s =
          (.ok config.defaultIme, s.setTmpIme scene config.defaultIme.imeId)) := by
  unfold changeToDefaultImeIfNeed
  split
  · exact .inr (.inl rfl)
  · rename_i locked
    rw [Bool.not_eq_true, Bool.not_eq_false] at locked
    unfold Config.getDefaultImeCfg
    split
    · exact .inl ⟨_, rfl, by decide⟩
    · rename_i defaultIme found
      split at found
      · cases found
      · cases found
        split
        · exact .inr (.inl rfl)
        · exact .inr (.inr ⟨locked, rfl⟩)

variable (scene) in
/-- Without data a connection makes some, for the input method it is for; ready if it succeeds. -/
theorem connectIme_none (gone : s.realImeData = none) (target : ImeNativeCfg) (wait : Bool) :
    ∃ made, (connectIme scene target wait s).2 = { s with realImeData := made } ∧
      (∀ data, made = some data → data.ime = target.ime) ∧
      ((connectIme scene target wait s).1 = .noError → ∃ data,
        made = some data ∧ data.imeStatus = .ready) := by
  unfold connectIme initRealImeData
  rw [gone]
  dsimp only
  split
  · rename_i none_
    split at none_ <;> cases none_
    exact ⟨none, by rw [← gone], by simp, by simp⟩
  · rename_i first s' some_
    split at some_ <;> cases some_
    split
    · exact ⟨none, rfl, by simp, by simp⟩
    split
    · exact ⟨_, rfl, fun data same => by cases same; rfl, by simp⟩
    split
    · exact ⟨_, rfl, fun data same => by cases same; rfl, by simp⟩
    · unfold onSetCoreAndAgent
      rw [getImeAction_setCoreAndAgent rfl]
      exact ⟨_, rfl, fun data same => by cases same; rfl, fun _ => ⟨_, rfl, rfl⟩⟩

variable (scene) in
/-- With data a connection that is not waited for changes nothing. -/
theorem connectIme_again {data : ImeData} (there : s.realImeData = some data) (target : ImeNativeCfg) :
    (connectIme scene target false s).2 = s ∧ (connectIme scene target false s).1 ≠ .noError := by
  unfold connectIme initRealImeData
  rw [there]
  dsimp only
  split <;> exact ⟨rfl, by simp⟩

/-- A start without data makes some, for the one to start or the default one. -/
theorem startInputService_none (gone : s.realImeData = none) (wait : Bool) :
    StartOutcome config ime s (startInputService config scene ime wait s) := by
  unfold startInputService
  rcases changeToDefaultImeIfNeed_cases config scene ime s with
    ⟨code, changed, failed⟩ | changed | ⟨locked, changed⟩
  · rw [changed]
    exact ⟨(Stops.refl s).starts, fun done => absurd done failed⟩
  · rw [changed]
    obtain ⟨made, same, for_, ready⟩ := connectIme_none scene gone ime wait
    refine ⟨⟨?_, ?_, ?_⟩, fun done => ?_⟩
    · rw [same]
      exact fun on => ⟨on, rfl⟩
    · rw [same]
      exact fun data' there => .inr (.inl (for_ data' there))
    · rw [same]
    · obtain ⟨data, there, isReady⟩ := ready done
      rw [same]
      exact ⟨data, there, isReady, .inl ⟨for_ data there, rfl⟩⟩
  · rw [changed]
    obtain ⟨made, same, for_, ready⟩ :=
      connectIme_none scene (s := s.setTmpIme scene config.defaultIme.imeId) gone
      config.defaultIme wait
    refine ⟨⟨?_, ?_, ?_⟩, fun done => ?_⟩
    · rw [same]
      exact fun on => ⟨on, rfl⟩
    · rw [same]
      exact fun data' there => .inr (.inr (for_ data' there))
    · rw [same]
      rfl
    · obtain ⟨data, there, isReady⟩ := ready done
      rw [same]
      exact ⟨data, there, isReady, .inr ⟨locked, for_ data there⟩⟩

theorem startInputService_again {data : ImeData} (there : s.realImeData = some data) :
    Starts config ime s (startInputService config scene ime false s).2 ∧
      (startInputService config scene ime false s).1 ≠ .noError := by
  unfold startInputService
  rcases changeToDefaultImeIfNeed_cases config scene ime s with
    ⟨code, changed, failed⟩ | changed | ⟨locked, changed⟩
  · rw [changed]
    exact ⟨(Stops.refl s).starts, failed⟩
  · rw [changed]
    obtain ⟨same, failed⟩ := connectIme_again scene there ime
    refine ⟨?_, failed⟩
    rw [same]
    exact (Stops.refl s).starts
  · rw [changed]
    obtain ⟨same, failed⟩ :=
      connectIme_again scene (s := s.setTmpIme scene config.defaultIme.imeId) there
      config.defaultIme
    refine ⟨?_, failed⟩
    rw [same]
    exact ⟨fun on => ⟨on, rfl⟩, fun data' same => .inl ⟨data', same, rfl⟩, rfl⟩

theorem Stops.fails (stops : Stops s s') {code : ErrorCode} (failed : code ≠ .noError) :
    StartOutcome config ime s (code, s') :=
  ⟨stops.starts, fun done => absurd done failed⟩

theorem Stops.then_outcome {t : State} (stops : Stops s t) {outcome : ErrorCode × State}
    (starts : StartOutcome config ime t outcome) : StartOutcome config ime s outcome :=
  ⟨stops.then_starts starts.1, fun done => stops.then_readies (starts.2 done)⟩

/-- A stop that is followed by a start if it succeeds. -/
theorem stop_then_start {stopped : ErrorCode × State} (stops : Stops s stopped.2)
    (gone : stopped.1 = .noError → stopped.2.realImeData = none) :
    StartOutcome config ime s (andThen stopped (startInputService config scene ime true)) := by
  unfold andThen
  split
  · rename_i done
    exact stops.then_outcome (startInputService_none (gone done) true)
  · rename_i failed
    exact stops.fails failed

theorem forceStop_then_start (isNeedWait : Bool) :
    StartOutcome config ime s
      (andThen (forceStopCurrentIme scene isNeedWait s) (startInputService config scene ime true)) :=
  stop_then_start (stops_forceStopCurrentIme isNeedWait) gone_forceStopCurrentIme

theorem startNewIme_outcome (s : State) :
    StartOutcome config ime s (startNewIme config scene ime s) := by
  obtain ⟨stops, gone⟩ := stopCurrentIme_cases scene s
  exact stop_then_start stops gone

theorem startSameIme_outcome {data : ImeData} (there : s.realImeData = some data)
    (same : data.ime = ime.ime) :
    StartOutcome config ime s (startSameIme config scene ime s) := by
  unfold startSameIme
  rw [getImeAction_startIme there]
  cases status : data.imeStatus with
  | ready => exact ⟨(Stops.refl s).starts, fun _ => ⟨data, there, status, .inl ⟨same, rfl⟩⟩⟩
  | starting =>
      dsimp only
      split
      · unfold handleStartImeTimeout
        rw [getImeAction_startImeTimeout there status]
        exact (stops_status there .exiting).then_outcome (forceStop_then_start false)
      · exact ⟨(startInputService_again there).1, fun done =>
          absurd done (startInputService_again there).2⟩
  | exiting => exact forceStop_then_start true

theorem handleFirstStart_outcome (gone : s.realImeData = none) (isStopCurrentIme : Bool) :
    Starts config ime s (handleFirstStart config scene ime isStopCurrentIme s).2 ∧
      ((handleFirstStart config scene ime isStopCurrentIme s).1 = .noError →
        Readies config ime s (handleFirstStart config scene ime isStopCurrentIme s).2 ∨
          (isStopCurrentIme = true ∧
            (handleFirstStart config scene ime isStopCurrentIme s).2.realImeData = none)) := by
  unfold handleFirstStart
  split
  · exact (startInputService_none gone true).imp_right fun ready done => .inl (ready done)
  split
  · rename_i stop
    exact ⟨(Stops.refl s).starts, fun _ => .inr ⟨stop, gone⟩⟩
  split
  · have cleared : Stops s { s with runningIme := false, firstStartNeedRetry := true } :=
      ⟨fun on => ⟨on, rfl⟩, fun data' there => ⟨data', there, rfl⟩, rfl, rfl⟩
    have started := @startInputService_none config scene
      { s with runningIme := false, firstStartNeedRetry := true } ime
      gone true
    exact (cleared.then_outcome started).imp_right fun ready done => .inl (ready done)
  · exact ⟨⟨fun on => ⟨on, rfl⟩, fun data' there => .inl ⟨data', there, rfl⟩, rfl⟩,
      fun done => nomatch done⟩

/-- **A start.**  Whatever fails, it leaves nothing but what was there, what it was to start and the
default input method; and if it succeeds, one of the latter is ready.  Only the restart of a service
whose input method of before still runs does nothing. -/
theorem startIme_outcome (ime : ImeNativeCfg) (isStopCurrentIme : Bool) (s : State) :
    Starts config ime s (startIme config scene (some ime) isStopCurrentIme s).2 ∧
      ((startIme config scene (some ime) isStopCurrentIme s).1 = .noError →
        Readies config ime s (startIme config scene (some ime) isStopCurrentIme s).2 ∨
          (isStopCurrentIme = true ∧
            (startIme config scene (some ime) isStopCurrentIme s).2.realImeData = none)) := by
  unfold startIme
  split
  · exact ⟨(Stops.refl s).starts, fun done => nomatch done⟩
  dsimp only
  cases there : s.realImeData with
  | none => exact handleFirstStart_outcome there isStopCurrentIme
  | some data =>
      dsimp only
      split
      · rename_i same
        exact (startSameIme_outcome there same.1).imp_right fun ready done => .inl (ready done)
      · exact (startNewIme_outcome s).imp_right fun ready done => .inl (ready done)

/-! ## The configuration -/

theorem isInputType_of_get {type : InputType} {ime : ImeIdentification}
    (found : config.getImeByInputType type = .ok ime) :
    config.isInputType ime = true := by
  unfold Config.getImeByInputType at found
  unfold Config.isInputType Config.inputTypeImeList
  cases read : config.inputTypes with
  | none =>
      rw [read] at found
      cases found
  | some inputTypes =>
      rw [read] at found
      cases there : inputTypes.lookup type with
      | none =>
          dsimp only at found
          rw [there] at found
          cases found
      | some ime' =>
          dsimp only at found ⊢
          rw [there] at found
          cases found
          obtain ⟨before, after, split_, -⟩ := List.lookup_eq_some_iff.1 there
          have mem : (type, ime) ∈ inputTypes := by
            rw [split_]
            exact List.mem_append_right _ (List.mem_cons_self ..)
          exact List.contains_iff_mem.2 (List.mem_filterMap.2 ⟨_, mem, there⟩)

theorem isInputTypeBundle_of_isInputType {ime : ImeIdentification}
    (isType : config.isInputType ime = true) :
    config.isInputTypeBundle ime.bundleName = true := by
  unfold Config.isInputTypeBundle
  rw [List.any_eq_true]
  exact ⟨ime, List.contains_iff_mem.1 isType, beq_self_eq_true _⟩

theorem getImeNativeCfg_bundleName {bundleName subName : String}
    (found : getImeNativeCfg scene bundleName subName = some ime) :
    ime.bundleName = bundleName := by
  unfold getImeNativeCfg at found
  obtain ⟨extName, -, rfl⟩ := Option.map_eq_some_iff.1 found
  rfl

/-! ## The session and the input method agree -/

theorem guarded_closed (closed : s.isStarted = false) : Guarded config s := fun on => by
  rw [closed] at on
  cases on

theorem Guarded.stops (guarded : Guarded config s) (stops : Stops s s') : Guarded config s' := by
  intro on
  obtain ⟨before, same⟩ := stops.session on
  obtain ⟨isType, named⟩ := guarded before
  refine ⟨by rw [same]; exact isType, fun data' there => ?_⟩
  obtain ⟨data, was, ime⟩ := stops.data data' there
  rw [← ime]
  exact named data was

theorem Guarded.starts (guarded : Guarded config s) (starts : Starts config ime s s')
    (named : s.isStarted = true → config.Named ime.bundleName) : Guarded config s' := by
  intro on
  obtain ⟨before, same⟩ := starts.session on
  obtain ⟨isType, was⟩ := guarded before
  refine ⟨by rw [same]; exact isType, fun data' there => ?_⟩
  rcases starts.data data' there with ⟨data, there, ime⟩ | ime | ime
  · rw [← ime]
    exact was data there
  · rw [ime]
    exact named before
  · rw [ime]
    exact .inr rfl

variable (scene) in
theorem guarded_notify {bundleName subName : String} (guarded : Guarded config s)
    (named : config.isInputType ⟨bundleName, subName⟩ = true →
      ∀ data, s.realImeData = some data → config.Named data.ime.1) :
    Guarded config (notifySubTypeChangedToIme config scene bundleName subName s).2 := by
  unfold notifySubTypeChangedToIme
  dsimp only
  split
  · rename_i isType
    exact fun _ => ⟨isInputTypeBundle_of_isInputType isType.2, named isType.2⟩
  · exact guarded

variable (scene) in
/-- A subtype of the input method that is there makes it one of an input type. -/
theorem guarded_notify_own {data : ImeData} {subName : String} (guarded : Guarded config s)
    (there : s.realImeData = some data) :
    Guarded config (notifySubTypeChangedToIme config scene data.ime.1 subName s).2 :=
  guarded_notify scene guarded fun isType data' there' => by
    rw [there] at there'
    cases there'
    exact .inl (isInputTypeBundle_of_isInputType isType)

theorem realImeData_of_ready {data : ImeData} (ready : s.readyImeData = some data) :
    s.realImeData = some data := by
  unfold State.readyImeData at ready
  rw [Option.filter_eq_some_iff] at ready
  exact ready.1

theorem guarded_andThen {outcome : ErrorCode × State} {next : State → ErrorCode × State}
    (first : Guarded config outcome.2)
    (then_ : outcome.1 = .noError → Guarded config (next outcome.2).2) :
    Guarded config (andThen outcome next).2 := by
  unfold andThen
  split
  · exact then_ ‹_›
  · exact first

theorem closed_starts (closed : s.isStarted = false) (starts : Starts config ime s s') :
    s'.isStarted = false := by
  rw [← Bool.not_eq_true]
  intro on
  rw [(starts.session on).1] at closed
  cases closed

variable (config scene) in
theorem imeToStart_cases (cfg : Option ImeNativeCfg) :
    (∃ ime, cfg = some ime ∧ imeToStart config scene cfg = (ime, false)) ∨
      imeToStart config scene cfg = ({ config.defaultIme with subName := "" }, true) := by
  unfold imeToStart
  split
  · exact .inr rfl
  · rename_i ime
    split
    · exact .inr rfl
    · exact .inl ⟨ime, rfl, rfl⟩

theorem readies_named {data : ImeData} (readies : Readies config ime s s')
    (there : s'.realImeData = some data)
    (named : config.Named ime.bundleName) : config.Named data.ime.1 := by
  obtain ⟨data', there', -, ⟨ime_, -⟩ | ⟨-, ime_⟩⟩ := readies
  · rw [there] at there'
    cases there'
    rw [ime_]
    exact named
  · rw [there] at there'
    cases there'
    rw [ime_]
    exact .inr rfl

/-- What `StartUserSpecifiedIme` does: it ends the session, and has the input method it is to start
there, fails to start it, or starts it and tells it the subtype of the current one. -/
theorem startUserSpecifiedIme_cases (s : State) :
    ∃ t u, t.isStarted = false ∧ t.realImeData = s.realImeData ∧
      t.isDeviceLockAndScreenLocked = s.isDeviceLockAndScreenLocked ∧
      ((imeToStart config scene s.currentImeCfg).2 = false → t.currentImeCfg = s.currentImeCfg) ∧
      Starts config (imeToStart config scene s.currentImeCfg).1 t u ∧
      ((startUserSpecifiedIme config scene s).1 = .noError →
        Readies config (imeToStart config scene s.currentImeCfg).1 t u) ∧
      ((startUserSpecifiedIme config scene s).2 = u ∨
        ((startUserSpecifiedIme config scene s).1 = .noError ∧
        ∃ cfg, u.currentImeCfg = some cfg ∧
          (startUserSpecifiedIme config scene s).2 =
            (notifySubTypeChangedToIme config scene cfg.bundleName cfg.subName u).2)) := by
  unfold startUserSpecifiedIme getImeToStart
  have same : (s.set false {}).currentImeCfg = s.currentImeCfg := rfl
  dsimp only
  rw [same]
  generalize chosen : imeToStart config scene s.currentImeCfg = choice
  obtain ⟨toStart, fallsBack⟩ := choice
  dsimp only
  generalize state : (if fallsBack then (s.set false {}).setCurrentIme scene toStart.imeId ""
    else s.set false {}) = t
  have closed : t.isStarted = false := by
    subst state
    split <;> rfl
  have data : t.realImeData = s.realImeData := by
    subst state
    split <;> rfl
  have locked : t.isDeviceLockAndScreenLocked = s.isDeviceLockAndScreenLocked := by
    subst state
    split <;> rfl
  have cfg : fallsBack = false → t.currentImeCfg = s.currentImeCfg := by
    rintro rfl
    subst state
    rfl
  split
  · rename_i ready
    refine ⟨t, t, closed, data, locked, cfg, (Stops.refl t).starts, fun _ => ?_, .inl rfl⟩
    obtain ⟨data', there, ime⟩ := (Option.any_eq_true _ _).1 ready
    unfold State.readyImeData at there
    rw [Option.filter_eq_some_iff] at there
    exact ⟨data', there.1, of_decide_eq_true there.2, .inl ⟨of_decide_eq_true ime, rfl⟩⟩
  · obtain ⟨starts, readies⟩ := @startIme_outcome config scene toStart false t
    refine ⟨t, _, closed, data, locked, cfg, starts, ?_, ?_⟩
    · intro done
      unfold andThen at done
      split at done
      · rename_i first
        exact (readies first).resolve_right fun stop => Bool.noConfusion stop.1
      · rename_i failed
        exact absurd done failed
    · unfold andThen
      split
      · dsimp only
        split
        · exact .inl rfl
        · rename_i cfg' there
          exact .inr ⟨rfl, cfg', there, rfl⟩
      · exact .inl rfl

/-- The user's own input method ends the session; a subtype of its own may be that of an input type. -/
theorem guarded_startUserSpecifiedIme (s : State) :
    Guarded config (startUserSpecifiedIme config scene s).2 := by
  obtain ⟨t, u, closed, -, -, cfg, starts, readies, outcome⟩ :=
    @startUserSpecifiedIme_cases config scene s
  have closed' := closed_starts closed starts
  rcases outcome with outcome | ⟨done, own, there, outcome⟩
  · rw [outcome]
    exact guarded_closed closed'
  · rw [outcome]
    refine guarded_notify scene (guarded_closed closed') fun isType data found => ?_
    have ready := readies done
    rcases imeToStart_cases config scene s.currentImeCfg with ⟨ime, was, chosen⟩ | chosen
    · rw [chosen] at ready cfg
      obtain ⟨data', found', -, ⟨ime_, same⟩ | ⟨-, ime_⟩⟩ := ready
      · rw [found] at found'
        cases found'
        rw [same, cfg rfl, was] at there
        cases there
        rw [ime_]
        exact .inl (isInputTypeBundle_of_isInputType isType)
      · rw [found] at found'
        cases found'
        rw [ime_]
        exact .inr rfl
    · rw [chosen] at ready
      exact readies_named ready found (.inr rfl)

theorem guarded_startPreconfiguredDefaultIme (isStopCurrentIme : Bool) (s : State) :
    Guarded config (startPreconfiguredDefaultIme config scene isStopCurrentIme s).2 := by
  unfold startPreconfiguredDefaultIme
  dsimp only
  split
  · exact guarded_closed rfl
  obtain ⟨starts, readies⟩ := @startIme_outcome config scene config.defaultIme isStopCurrentIme
    (s.set false {})
  have closed := closed_starts rfl starts
  refine guarded_andThen (guarded_closed closed) fun done => ?_
  refine guarded_notify scene (guarded_closed closed) fun _ data there => ?_
  rcases readies done with ready | ⟨-, gone⟩
  · exact readies_named ready there (.inr rfl)
  · rw [gone] at there
    cases there

theorem guarded_restoreCurrentImeSubType (s : State) :
    Guarded config (restoreCurrentImeSubType config scene s) := by
  unfold restoreCurrentImeSubType
  split
  · rename_i closed
    exact guarded_closed (Bool.not_eq_true _ ▸ closed)
  dsimp only
  split
  · exact guarded_closed rfl
  · rename_i data ready
    split
    · exact guarded_closed rfl
    · exact guarded_notify_own scene (guarded_closed rfl) (realImeData_of_ready ready)

/-- While a type is started nothing but an input method of an input type is the real current one. -/
theorem getInputTypeToStart_named (guarded : Guarded config s) (on : s.isStarted = true)
    (found : getInputTypeToStart config scene s = some ime) : config.Named ime.bundleName := by
  unfold getInputTypeToStart at found
  rw [getImeNativeCfg_bundleName found]
  split
  · split
    · rename_i type own
      exact .inl (isInputTypeBundle_of_isInputType (isInputType_of_get own))
    · exact .inl (guarded on).1
  · exact .inl (guarded on).1

variable (scene) in
theorem guarded_getRealCurrentIme (guarded : Guarded config s) (bound : Option InputClientInfo)
    (needMinGuarantee : Bool) :
    Guarded config (getRealCurrentIme config scene bound needMinGuarantee s).2 ∧
      ∀ ime, (getRealCurrentIme config scene bound needMinGuarantee s).1 = some ime →
        (getRealCurrentIme config scene bound needMinGuarantee s).2.isStarted = true →
          config.Named ime.bundleName := by
  unfold getRealCurrentIme
  split
  · rename_i on
    exact ⟨guarded, fun ime found _ => getInputTypeToStart_named guarded on found⟩
  · rename_i off
    rw [Bool.not_eq_true] at off
    have locked : (lockCurrentIme config scene s).isStarted = false := by
      unfold lockCurrentIme
      split
      · exact off
      split
      · exact off
      split <;> exact off
    have started : (getImeToStart config scene (lockCurrentIme config scene s)).2.isStarted =
      false := by
      unfold getImeToStart
      dsimp only
      split <;> exact locked
    split
    · exact ⟨guarded, fun ime _ on => by simp [off] at on⟩
    · dsimp only
      split
      · exact ⟨guarded_closed started, fun ime _ on => by simp [started] at on⟩
      · exact ⟨guarded_closed locked, fun ime _ on => by simp [locked] at on⟩

theorem guarded_startCurrentIme (guarded : Guarded config s) (bound : Option InputClientInfo)
    (isStopCurrentIme : Bool) :
    Guarded config (startCurrentIme config scene bound isStopCurrentIme s).2 := by
  obtain ⟨guarded', named⟩ := guarded_getRealCurrentIme scene guarded bound true
  unfold startCurrentIme
  split
  · rename_i t found
    rw [found] at guarded'
    exact guarded'
  · rename_i ime t found
    rw [found] at guarded' named
    obtain ⟨starts, -⟩ := @startIme_outcome config scene ime isStopCurrentIme t
    have first := guarded'.starts starts (named ime rfl)
    refine guarded_andThen first fun _ => ?_
    dsimp only
    split
    · exact first
    · rename_i readyIme ready
      exact guarded_notify_own scene first (realImeData_of_ready ready)

theorem guarded_startImeIfInstalled (guarded : Guarded config s) (bound : Option InputClientInfo) :
    Guarded config (startImeIfInstalled config scene bound s) := by
  obtain ⟨guarded', -⟩ := guarded_getRealCurrentIme scene guarded bound false
  unfold startImeIfInstalled
  split
  · rename_i t found
    rw [found] at guarded'
    exact guarded'
  · rename_i ime t found
    rw [found] at guarded'
    split
    · exact guarded'
    split
    · exact guarded'
    · exact guarded_startCurrentIme guarded' bound false

theorem guarded_switchInputType {bundleName subName : String} {isPersistence : Bool}
    (guarded : Guarded config s) (isType : config.isInputTypeBundle bundleName = true) :
    Guarded config (switchInputType config scene bundleName subName isPersistence s).2 := by
  unfold switchInputType
  split
  · exact guarded
  · rename_i targetIme found
    have named : config.Named targetIme.bundleName := by
      rw [getImeNativeCfg_bundleName found]
      exact .inl isType
    obtain ⟨starts, readies⟩ := @startIme_outcome config scene targetIme false s
    have first := guarded.starts starts fun _ => named
    refine guarded_andThen first fun done => ?_
    generalize (startIme config scene (some targetIme) false s).2 = t at *
    dsimp only
    generalize (if config.isVoiceKbIme ⟨bundleName, subName⟩ = true ∧ ¬ isPersistence = true then
      sendVoicePrivateCommand scene t else switchSubtype scene t) = ret
    split
    · exact first
    · refine fun _ => ⟨isType, fun data there => ?_⟩
      have ready := (readies done).resolve_right fun stop => Bool.noConfusion stop.1
      exact readies_named ready there named

/-- A switch to an input type that succeeds leaves the type started. -/
theorem switchInputType_started {bundleName subName : String} {isPersistence : Bool}
    (done : (switchInputType config scene bundleName subName isPersistence s).1 = .noError) :
    (switchInputType config scene bundleName subName isPersistence s).2.isStarted = true ∧
      (switchInputType config scene bundleName subName isPersistence s).2.currentTypeIme =
        ⟨bundleName, subName⟩ := by
  unfold switchInputType at done ⊢
  split at done
  · cases done
  · rename_i targetIme _
    dsimp only at done ⊢
    unfold andThen at done ⊢
    split at done
    · rename_i first
      rw [if_pos first]
      generalize (startIme config scene (some targetIme) false s).2 = t at *
      dsimp only at done ⊢
      generalize (if config.isVoiceKbIme ⟨bundleName, subName⟩ = true ∧ ¬ isPersistence = true then
        sendVoicePrivateCommand scene t else switchSubtype scene t) = ret at done ⊢
      split at done
      · rename_i failed
        exact absurd done failed
      · rename_i answered
        rw [if_neg answered]
        exact ⟨rfl, rfl⟩
    · rename_i failed
      exact absurd done failed

theorem guarded_onStartInputType {bundleName subName : String} (guarded : Guarded config s)
    (isType : config.isInputTypeBundle bundleName = true)
    (permitted isCheckPermission isPersistence : Bool) :
    Guarded config
      (onStartInputType config scene permitted bundleName subName isCheckPermission
        isPersistence s).2 := by
  unfold onStartInputType
  split
  · exact guarded
  split
  · exact guarded
  · exact guarded_switchInputType guarded isType

theorem guarded_startInputType (guarded : Guarded config s) (permitted : Bool) (type : InputType)
    (isPersistence : Bool) :
    Guarded config (startInputType config scene permitted type isPersistence s).2 := by
  unfold startInputType
  split
  · split
    · exact guarded_startUserSpecifiedIme s
    · exact guarded
  · rename_i ime found
    have isType := isInputTypeBundle_of_isInputType (isInputType_of_get found)
    split
    · exact guarded
    split
    · exact guarded_onStartInputType guarded isType permitted false isPersistence
    split
    · exact guarded_onStartInputType guarded isType permitted false true
    · exact guarded_onStartInputType guarded isType permitted true isPersistence

theorem guarded_startSecurityIme (guarded : Guarded config s) (client : InputClientInfo) :
    Guarded config (startSecurityIme config scene client s).2 := by
  unfold startSecurityIme
  dsimp only
  generalize (if client.getSecurityFlag = true then InputType.securityInput else .none) = type
  split
  · exact guarded_startInputType guarded false _ true
  split
  · exact guarded
  split
  · exact guarded_startInputType guarded false _ true
  · exact guarded

theorem guarded_startStylusIme (guarded : Guarded config s) (client : InputClientInfo) :
    Guarded config (startStylusIme config scene client s).2 := by
  unfold startStylusIme
  split
  · exact guarded_startInputType guarded false _ true
  split
  · exact guarded
  split
  · exact guarded_startInputType guarded false _ true
  · exact guarded

theorem guarded_ensureImeAvailable (guarded : Guarded config s) (alternativeIme : Option String)
    (client : InputClientInfo) :
    Guarded config (ensureImeAvailable config scene alternativeIme client s).2 := by
  unfold ensureImeAvailable
  split
  · exact guarded_startSecurityIme guarded client
  split
  · exact guarded
  have restored : Guarded config (if client.isNotifyInputStart = true ∧ s.isStarted = true then
      restoreCurrentImeSubType config scene s else s) := by
    split
    · exact guarded_restoreCurrentImeSubType s
    · exact guarded
  dsimp only
  generalize (if client.isNotifyInputStart = true ∧ s.isStarted = true then
      restoreCurrentImeSubType config scene s else s) = t at *
  split
  · split
    · exact restored
    · exact guarded_startUserSpecifiedIme _
  split
  · exact guarded_startPreconfiguredDefaultIme false _
  split
  · exact guarded_startStylusIme (s := t.setTmpIme scene "") restored client
  · exact guarded_startUserSpecifiedIme _

theorem guarded_startInput (guarded : Guarded config s) (proxy : Bool) (alternativeIme : Option String)
    (client : InputClientInfo) :
    Guarded config (startInput config scene proxy alternativeIme client s).2 := by
  unfold startInput
  split
  · exact guarded
  dsimp only
  split
  · exact guarded_ensureImeAvailable (guarded_closed rfl) alternativeIme client
  · exact guarded_ensureImeAvailable guarded alternativeIme client

theorem guarded_showInput (guarded : Guarded config s) (isStylusActivation : Bool)
    (clientInfo : Option InputClientInfo) :
    Guarded config (showInput config scene isStylusActivation clientInfo s).2 := by
  unfold showInput
  split
  · split
    · exact guarded
    split
    · exact guarded
    · exact guarded_startStylusIme guarded _
  split
  · exact guarded_startUserSpecifiedIme _
  · exact guarded

theorem guarded_startSwitch (guarded : Guarded config s) (switchInfo : Switch) :
    Guarded config (startSwitch config scene switchInfo s).2 := by
  unfold startSwitch
  split
  · exact guarded
  dsimp only
  rename_i name id isSpecificSubName _
  generalize state : (if switchInfo.isTmpImeSwitchSubtype = true then s.set false {}
    else (s.set false {}).setCurrentIme scene (name ++ "/" ++ id) switchInfo.subName) = t
  have closed : t.isStarted = false := by
    subst state
    split <;> rfl
  split
  · exact guarded_closed closed
  split
  · exact guarded_closed closed
  · obtain ⟨starts, -⟩ := @startIme_outcome config scene
      { imeId := name ++ "/" ++ id, bundleName := name, subName := switchInfo.subName,
        extName := id } false t
    have first : Guarded config _ := guarded_closed (closed_starts closed starts)
    exact guarded_andThen first fun _ => first

theorem guarded_onSwitchInputMethod (guarded : Guarded config s) (switchInfo : Switch) :
    Guarded config (onSwitchInputMethod config scene switchInfo s).2 := by
  unfold onSwitchInputMethod
  split
  · exact guarded
  · exact guarded_startSwitch guarded switchInfo

theorem guarded_switchInputMethod (guarded : Guarded config s) (switchInfo : Switch) :
    Guarded config (switchInputMethod config scene switchInfo s).2 := by
  unfold switchInputMethod
  split
  · exact guarded
  split
  · exact guarded
  split
  · exact guarded
  dsimp only
  split
  · rename_i isType
    exact guarded_onStartInputType guarded (isInputTypeBundle_of_isInputType isType) _ true true
  · exact guarded_onSwitchInputMethod guarded _

theorem guarded_switchType (guarded : Guarded config s) (switchInfo : Switch) :
    Guarded config (switchType config scene switchInfo s).2 := by
  unfold switchType
  split
  · exact guarded
  split
  · exact guarded
  · exact guarded_onSwitchInputMethod guarded _

theorem stops_onSetCoreAndAgent (s : State) : Stops s (onSetCoreAndAgent s).2 := by
  unfold onSetCoreAndAgent
  cases there : s.realImeData with
  | none =>
      rw [getImeAction_none _ there]
      exact .refl s
  | some data =>
      rw [getImeAction_setCoreAndAgent there]
      by_cases starting : data.imeStatus = .starting
      · rw [if_pos starting]
        exact stops_status there .ready
      · rw [if_neg starting]
        exact .refl s

theorem stops_onImeDied (s : State) : Stops s (onImeDied s) := by
  unfold onImeDied
  split
  · exact .refl s
  split
  · exact stops_exitingImeDied s
  · exact stops_removeRealImeData s

/-- What one call keeps, whatever it meets. -/
theorem guarded_step (e : Scene × Call) (guarded : Guarded config s) :
    Guarded config (step config s e) := by
  obtain ⟨scene, call⟩ := e
  cases call with
  | startInput proxy alternativeIme client =>
      exact guarded_startInput guarded proxy alternativeIme client
  | showInput isStylusActivation clientInfo =>
      exact guarded_showInput guarded isStylusActivation clientInfo
  | startInputType permitted type isPersistence =>
      exact guarded_startInputType guarded permitted type isPersistence
  | exitCurrentInputType permitted bound =>
      dsimp only [step]
      unfold exitCurrentInputType
      split
      · exact guarded
      · exact guarded_startCurrentIme (guarded_closed rfl) bound false
  | switchInputMethod switchInfo => exact guarded_switchInputMethod guarded switchInfo
  | switchType switchInfo => exact guarded_switchType guarded switchInfo
  | restoreCurrentImeSubType => exact guarded_restoreCurrentImeSubType s
  | startCurrentIme bound isStopCurrentIme =>
      exact guarded_startCurrentIme guarded bound isStopCurrentIme
  | startImeIfInstalled bound => exact guarded_startImeIfInstalled guarded bound
  | startUserSpecifiedIme => exact guarded_startUserSpecifiedIme s
  | startPreconfiguredDefaultIme isStopCurrentIme =>
      exact guarded_startPreconfiguredDefaultIme isStopCurrentIme s
  | stopCurrentIme => exact guarded.stops (stopCurrentIme_cases scene s).1
  | onSetCoreAndAgent => exact guarded.stops (stops_onSetCoreAndAgent s)
  | onImeDied => exact guarded.stops (stops_onImeDied s)
  | screenLocked isDeviceLockAndScreenLocked => exact guarded
  | currentImeChanged currentImeCfg => exact guarded
  | setExamMode isExamMode => exact guarded

/-- A session that begins, perhaps after the service was restarted. -/
def boot (runningIme : Bool) (currentImeCfg : Option ImeNativeCfg) :
    State := { runningIme, currentImeCfg }

/-- What a call that starts nothing leaves of the session of an input type. -/
theorem session_step {e : Scene × Call} (stops : e.2.starts = false)
    (on : (step config s e).isStarted = true) :
    s.isStarted = true ∧ (step config s e).currentTypeIme = s.currentTypeIme := by
  obtain ⟨scene, call⟩ := e
  cases call with
  | stopCurrentIme => exact (stopCurrentIme_cases scene s).1.session on
  | onSetCoreAndAgent => exact (stops_onSetCoreAndAgent s).session on
  | onImeDied => exact (stops_onImeDied s).session on
  | screenLocked isDeviceLockAndScreenLocked => exact ⟨on, rfl⟩
  | currentImeChanged currentImeCfg => exact ⟨on, rfl⟩
  | setExamMode isExamMode => exact ⟨on, rfl⟩
  | _ => cases stops

/-- A user's session sees what its own call left. -/
theorem serve_session (service : Service) (e : Int × Scene × Call) :
    (serve config service e).session e.1 = step config (service.session e.1) e.2 := by
  change State.set (Function.update service.sessions e.1 _ e.1) _ _ = _
  rw [Function.update_self]
  rfl

/-- Another user's session keeps its real input method. -/
theorem serve_other {service : Service} {e : Int × Scene × Call} {userId : Int} (other : userId ≠ e.1) :
    ((serve config service e).session userId).realImeData = (service.session userId).realImeData := by
  change (Function.update service.sessions e.1 _ userId).realImeData = _
  rw [Function.update_of_ne other]
  rfl

/-- The session that started the input type is guarded. -/
def GuardedService (config : Config) (service : Service) : Prop :=
  Guarded config (service.session service.userId)

/-- Where it is some user's turn, the session of that user is guarded. -/
theorem GuardedService.turn {service : Service} {userId : Int} (guarded : GuardedService config service)
    (turn : service.isStarted = true → service.userId = userId) :
    Guarded config (service.session userId) := by
  intro on
  rw [← turn on]
  exact guarded (show service.isStarted = true from on)

theorem guarded_serve (service : Service) (e : Int × Scene × Call)
    (guarded : GuardedService config service) (turns : Turns service e) :
    GuardedService config (serve config service e) := by
  cases starts : e.2.2.starts with
  | true =>
      have own : (serve config service e).userId = e.1 := by simp [serve, starts]
      unfold GuardedService
      rw [own, serve_session]
      exact guarded_step e.2 (guarded.turn (turns starts))
  | false =>
      have own : (serve config service e).userId = service.userId := by simp [serve, starts]
      unfold GuardedService
      rw [own]
      by_cases user : service.userId = e.1
      · rw [user, serve_session]
        exact guarded_step e.2 (guarded.turn fun _ => user)
      · -- Another user's session may end the input type, and leaves the real input method alone.
        intro on
        obtain ⟨before, same⟩ := session_step starts
          (show (step config (service.session e.1) e.2).isStarted = true from on)
        obtain ⟨type, data⟩ := guarded (show service.isStarted = true from before)
        refine ⟨?_, fun data' there => data data' ?_⟩
        · change config.isInputTypeBundle
            (step config (service.session e.1) e.2).currentTypeIme.bundleName = true
          rw [same]
          exact type
        · rw [← serve_other user]
          exact there

theorem guarded_run {sessions : Int → State} {calls : List (Int × Scene × Call)}
    (turns : Meets (serve config) Turns { sessions } calls) :
    GuardedService config (run (serve config) { sessions } calls) :=
  run_keeps guarded_serve (guarded_closed rfl) turns

/-! ## Password fields -/

/-- What serves a password field after it attached. -/
inductive PasswordServed (config : Config) (client : InputClientInfo) (s : State) : Prop where
  /-- A type is started, that of passwords if the field is a new one, and nothing but an input method
  the system configuration names is there. -/
  | typed (ime : ImeIdentification) (configured : config.getImeByInputType .securityInput = .ok ime)
      (started : s.isStarted = true) (own : client.isNotifyInputStart = true → s.currentTypeIme = ime)
      (named : ∀ data, s.realImeData = some data → config.Named data.ime.1)
  /-- The enabled table names the input method for passwords itself: there is nothing to switch. -/
  | chosen (ime : ImeIdentification) (configured : config.getImeByInputType .securityInput = .ok ime)
      (closed : s.isStarted = false) (same : isNeedSwitch ime.bundleName ime.subName s = false)
  /-- There is no input method for passwords. -/
  | unconfigured (code : ErrorCode) (missing : config.getImeByInputType .securityInput = .error code)

theorem startInputType_security {ime : ImeIdentification}
    (configured : config.getImeByInputType .securityInput = .ok ime) (s : State) :
    startInputType config scene false .securityInput true s =
      onStartInputType config scene false ime.bundleName ime.subName false true s := by
  unfold startInputType
  rw [configured]
  rfl

/-- A request for the input method for passwords that succeeds leaves its type started, or found the
table naming it. -/
theorem startSecurityType_served {ime : ImeIdentification} {client : InputClientInfo}
    (guarded : Guarded config s) (configured : config.getImeByInputType .securityInput = .ok ime)
    (done : (startInputType config scene false .securityInput true s).1 = .noError) :
    PasswordServed config client (startInputType config scene false .securityInput true s).2 := by
  have isType := isInputTypeBundle_of_isInputType (isInputType_of_get configured)
  rw [startInputType_security configured] at done ⊢
  unfold onStartInputType at done ⊢
  rw [if_neg (by simp)] at done ⊢
  split at done
  · rename_i same
    rw [if_pos same]
    rw [Bool.not_eq_true] at same
    cases on : s.isStarted with
    | true =>
        refine .typed ime configured on (fun _ => ?_) (guarded on).2
        unfold isNeedSwitch at same
        rw [if_pos on, Bool.not_eq_false', beq_iff_eq] at same
        exact same.symm
    | false => exact .chosen ime configured on same
  · rename_i differs
    rw [if_neg differs]
    obtain ⟨on, own⟩ := switchInputType_started done
    exact .typed ime configured on (fun _ => own) (guarded_switchInputType guarded isType on).2

theorem startSecurityIme_password {client : InputClientInfo}
    (password : client.getSecurityFlag = true) (s : State) :
    startSecurityIme config scene client s =
      if ¬ s.isStarted then startInputType config scene false .securityInput true s
      else if ¬ client.isNotifyInputStart then (.noError, s)
      else if ¬ isInputTypeImeStarted config .securityInput s then
        startInputType config scene false .securityInput true s
      else (.noError, s) := by
  unfold startSecurityIme
  rw [password]
  rfl

theorem startSecurityIme_served {client : InputClientInfo} (password : client.getSecurityFlag = true)
    (guarded : Guarded config s) (done : (startSecurityIme config scene client s).1 = .noError) :
    PasswordServed config client (startSecurityIme config scene client s).2 := by
  cases configured : config.getImeByInputType .securityInput with
  | error code => exact .unconfigured code configured
  | ok ime =>
      rw [startSecurityIme_password password] at done ⊢
      split at done
      · rename_i off
        rw [if_pos off]
        exact startSecurityType_served guarded configured done
      · rename_i on
        rw [if_neg on]
        rw [Bool.not_eq_true, Bool.not_eq_false] at on
        split at done
        · rename_i sameField
          rw [if_pos sameField]
          exact .typed ime configured on (fun new => absurd new sameField) (guarded on).2
        · rename_i newField
          rw [if_neg newField]
          split at done
          · rename_i other
            rw [if_pos other]
            exact startSecurityType_served guarded configured done
          · rename_i own
            rw [if_neg own]
            refine .typed ime configured on (fun _ => ?_) (guarded on).2
            rw [not_not] at own
            unfold isInputTypeImeStarted at own
            rw [on, configured, Bool.true_and] at own
            exact (beq_iff_eq.1 own).symm

theorem startInput_password (alternativeIme : Option String) {client : InputClientInfo}
    (password : client.getSecurityFlag = true) (guarded : Guarded config s)
    (done : (startInput config scene false alternativeIme client s).1 = .noError) :
    PasswordServed config client (startInput config scene false alternativeIme client s).2 := by
  have ready : Guarded config (if s.readyImeData = none then s.set false {} else s) := by
    split
    · exact guarded_closed rfl
    · exact guarded
  have attach : startInput config scene false alternativeIme client s =
      startSecurityIme config scene client (if s.readyImeData = none then s.set false {} else s) := by
    unfold startInput ensureImeAvailable
    rw [client.isSecurityImeFlag_eq, password]
    rfl
  rw [attach] at done ⊢
  exact startSecurityIme_served password ready done

/-- **A password field is never left to just any input method.**  In every run of calls for any
users, whatever fails on the way, in which only the user an input type was started for starts
anything meanwhile, a password field that attaches to the real input method of its user gets one
the system configuration names; unless it names none for passwords, or the enabled table names
that one itself. -/
theorem password_served (config : Config) (sessions : Int → State)
    (calls : List (Int × Scene × Call)) (userId : Int) (scene : Scene)
    (alternativeIme : Option String) (client : InputClientInfo)
    (password : client.getSecurityFlag = true)
    (turns : Meets (serve config) Turns { sessions }
      (calls ++ [(userId, scene, .startInput false alternativeIme client)]))
    (done : (startInput config scene false alternativeIme client
      ((run (serve config) { sessions } calls).session userId)).1 = .noError) :
    PasswordServed config client
      (startInput config scene false alternativeIme client
        ((run (serve config) { sessions } calls).session userId)).2 := by
  obtain ⟨turns, turn, -⟩ := meets_append.1 turns
  exact startInput_password alternativeIme password ((guarded_run turns).turn (turn rfl)) done

/-! ## Other text fields -/

/-- The input method that is ready. -/
def Ready (s : State) (ime : String × String) : Prop :=
  ∃ data, s.realImeData = some data ∧ data.imeStatus = .ready ∧ data.ime = ime

/-- No session of an input type goes on, but for one of the current input method's own subtype. -/
def Ended (s : State) : Prop :=
  s.isStarted = true → ∃ cfg, s.currentImeCfg = some cfg ∧ s.currentTypeIme.subName = cfg.subName

/-- What a new text field that is no password field gets; `s` is the state it attaches in. -/
inductive FieldServed (config : Config) (scene : Scene) (alternativeIme : Option String)
    (client : InputClientInfo) (s s' : State) : Prop where
  | screenLocked (locked : s.isDeviceLockAndScreenLocked = true) (imeId : String)
      (found : getScreenLockIme config alternativeIme s = some imeId) (ended : Ended s')
      (ready : Ready s' (imeToStart config scene (scene.afterSetTmpIme imeId s.currentImeCfg)).1.ime ∨
        Ready s' config.defaultIme.ime)
  | preconfiguredDefault (unlocked : s.isDeviceLockAndScreenLocked = false)
      (specified : client.isPreconfiguredDefaultImeSpecified = true) (ended : Ended s')
      (ready : Ready s' config.defaultIme.ime)
  | userSpecified (unlocked : s.isDeviceLockAndScreenLocked = false)
      (free : client.isPreconfiguredDefaultImeSpecified = false)
      (plain : client.isStylusActivation = false ∨ ∃ code,
        config.getImeByInputType .stylusInput = .error code)
      (ended : Ended s')
      (ready : Ready s' (imeToStart config scene (scene.afterSetTmpIme "" s.currentImeCfg)).1.ime)
  | stylus (unlocked : s.isDeviceLockAndScreenLocked = false)
      (free : client.isPreconfiguredDefaultImeSpecified = false)
        (activated : client.isStylusActivation = true)
      (ime : ImeIdentification) (configured : config.getImeByInputType .stylusInput = .ok ime)
      (ended : s'.isStarted = true → s'.currentTypeIme = ime ∨
        ∃ cfg, s.currentImeCfg = some cfg ∧ s'.currentTypeIme.subName = cfg.subName)
      (served : (s'.isStarted = true ∧ s'.currentTypeIme = ime) ∨
        isNeedSwitch ime.bundleName ime.subName s' = false ∨
        isSwitchingAllow config ime.bundleName s' = false)

variable (scene) in
theorem notify_ended {bundleName subName : String} (closed : s.isStarted = false)
    (own : subName = "" ∨ ∃ cfg, s.currentImeCfg = some cfg ∧ subName = cfg.subName) :
    Ended (notifySubTypeChangedToIme config scene bundleName subName s).2 := by
  unfold notifySubTypeChangedToIme
  dsimp only
  split
  · rename_i isType
    exact fun _ => own.resolve_left isType.1
  · intro on
    rw [closed] at on
    cases on

variable (config scene) in
theorem notify_real (bundleName subName : String) (s : State) :
    (notifySubTypeChangedToIme config scene bundleName subName s).2.realImeData = s.realImeData := by
  unfold notifySubTypeChangedToIme
  dsimp only
  split <;> rfl

/-- The user's own input method, or on a locked screen the default one, is ready. -/
theorem startUserSpecifiedIme_ready (done : (startUserSpecifiedIme config scene s).1 = .noError) :
    Ended (startUserSpecifiedIme config scene s).2 ∧
      (Ready (startUserSpecifiedIme config scene s).2 (imeToStart config scene s.currentImeCfg).1.ime ∨
        (s.isDeviceLockAndScreenLocked = true ∧
          Ready (startUserSpecifiedIme config scene s).2 config.defaultIme.ime)) := by
  obtain ⟨t, u, closed, -, locked, -, starts, readies, outcome⟩ :=
    @startUserSpecifiedIme_cases config scene s
  have closed' := closed_starts closed starts
  obtain ⟨data, there, ready, which⟩ := readies done
  rw [locked] at which
  have same : (startUserSpecifiedIme config scene s).2.realImeData = u.realImeData := by
    rcases outcome with outcome | ⟨-, cfg, -, outcome⟩
    · rw [outcome]
    · rw [outcome, notify_real]
  refine ⟨?_, which.imp (fun own => ⟨data, same.trans there, ready, own.1⟩)
    fun other => ⟨other.1, data, same.trans there, ready, other.2⟩⟩
  rcases outcome with outcome | ⟨-, cfg, current, outcome⟩
  · rw [outcome]
    intro on
    rw [closed'] at on
    cases on
  · rw [outcome]
    exact notify_ended scene closed' (.inr ⟨cfg, current, rfl⟩)

theorem startPreconfiguredDefaultIme_ready
    (done : (startPreconfiguredDefaultIme config scene false s).1 = .noError) :
    Ended (startPreconfiguredDefaultIme config scene false s).2 ∧
      Ready (startPreconfiguredDefaultIme config scene false s).2 config.defaultIme.ime := by
  unfold startPreconfiguredDefaultIme at done ⊢
  dsimp only at done ⊢
  split at done
  · rename_i ready
    rw [if_pos ready]
    obtain ⟨data, there, ime⟩ := (Option.any_eq_true _ _).1 ready
    have real := realImeData_of_ready there
    unfold State.readyImeData at there
    rw [Option.filter_eq_some_iff] at there
    exact ⟨fun on => Bool.noConfusion on,
      ⟨data, real, of_decide_eq_true there.2, of_decide_eq_true ime⟩⟩
  · rename_i other
    rw [if_neg other]
    obtain ⟨starts, readies⟩ := @startIme_outcome config scene config.defaultIme false (s.set false {})
    have closed := closed_starts rfl starts
    unfold andThen at done ⊢
    split at done
    · rename_i first
      rw [if_pos first]
      obtain ⟨data, there, ready, which⟩ := (readies first).resolve_right fun stop =>
        Bool.noConfusion stop.1
      refine ⟨notify_ended scene closed ?_,
        ⟨data, (notify_real config scene _ _ _).trans there, ready, which.elim And.left And.right⟩⟩
      split
      · exact .inl rfl
      · rename_i cfg current
        split
        · exact .inr ⟨cfg, current, rfl⟩
        · exact .inl rfl
    · rename_i failed
      exact absurd done failed

variable (config scene) in
theorem notify_rest (bundleName subName : String) (s : State) :
    (notifySubTypeChangedToIme config scene bundleName subName s).2.currentImeCfg = s.currentImeCfg ∧
      (notifySubTypeChangedToIme config scene bundleName subName s).2.isDeviceLockAndScreenLocked =
        s.isDeviceLockAndScreenLocked := by
  unfold notifySubTypeChangedToIme
  dsimp only
  split <;> exact ⟨rfl, rfl⟩

theorem restoreCurrentImeSubType_rest (s : State) :
    (restoreCurrentImeSubType config scene s).currentImeCfg = s.currentImeCfg ∧
      (restoreCurrentImeSubType config scene s).isDeviceLockAndScreenLocked =
        s.isDeviceLockAndScreenLocked := by
  unfold restoreCurrentImeSubType
  split
  · exact ⟨rfl, rfl⟩
  dsimp only
  split
  · exact ⟨rfl, rfl⟩
  split
  · exact ⟨rfl, rfl⟩
  · exact notify_rest config scene _ _ _

/-- What is left of a session of an input type that is restored. -/
theorem restoreCurrentImeSubType_ended (s : State) :
    Ended (restoreCurrentImeSubType config scene s) := by
  unfold restoreCurrentImeSubType
  split
  · rename_i off
    exact fun on => absurd on off
  dsimp only
  split
  · exact fun on => Bool.noConfusion on
  split
  · exact fun on => Bool.noConfusion on
  · refine notify_ended scene rfl ?_
    split
    · exact .inl rfl
    · rename_i cfg current
      split
      · exact .inr ⟨cfg, current, rfl⟩
      · exact .inl rfl

/-- A request for the stylus type that succeeds: the type is started, or nothing is done. -/
theorem startStylusType_served {ime : ImeIdentification}
    (configured : config.getImeByInputType .stylusInput = .ok ime)
    (done : (startInputType config scene false .stylusInput true s).1 = .noError) :
    ((startInputType config scene false .stylusInput true s).2.isStarted = true ∧
        (startInputType config scene false .stylusInput true s).2.currentTypeIme = ime) ∨
      ((startInputType config scene false .stylusInput true s).2 = s ∧
        (isNeedSwitch ime.bundleName ime.subName s = false ∨
          isSwitchingAllow config ime.bundleName s = false)) := by
  unfold startInputType at done ⊢
  rw [configured] at done ⊢
  dsimp only at done ⊢
  split at done
  · rename_i blocked
    rw [if_pos blocked]
    exact .inr ⟨rfl, .inr (Bool.not_eq_true _ ▸ blocked.2)⟩
  · rename_i allowed
    rw [if_neg allowed, if_neg (by decide), if_pos (by decide)]
    rw [if_neg (by decide), if_pos (by decide)] at done
    unfold onStartInputType at done ⊢
    rw [if_neg (by simp)] at done ⊢
    split at done
    · rename_i same
      rw [if_pos same]
      exact .inr ⟨rfl, .inl (Bool.not_eq_true _ ▸ same)⟩
    · rename_i differs
      rw [if_neg differs]
      exact .inl (switchInputType_started done)

theorem startStylusIme_served {client : InputClientInfo} (new : client.isNotifyInputStart = true)
    {ime : ImeIdentification} (configured : config.getImeByInputType .stylusInput = .ok ime)
    (done : (startStylusIme config scene client s).1 = .noError) :
    ((startStylusIme config scene client s).2.isStarted = true ∧
        (startStylusIme config scene client s).2.currentTypeIme = ime) ∨
      ((startStylusIme config scene client s).2 = s ∧
        (isNeedSwitch ime.bundleName ime.subName s = false ∨
          isSwitchingAllow config ime.bundleName s = false)) := by
  unfold startStylusIme at done ⊢
  split at done
  · rename_i off
    rw [if_pos off]
    exact startStylusType_served configured done
  · rename_i on
    rw [if_neg on]
    have newField :
        ¬ (¬ client.isNotifyInputStart = true ∧ getCurrentInputType config s = .stylusInput) :=
      fun same => same.1 new
    rw [if_neg newField] at done ⊢
    split at done
    · rename_i other
      rw [if_pos other]
      exact startStylusType_served configured done
    · rename_i own
      rw [if_neg own]
      rw [not_not] at own
      unfold isInputTypeImeStarted at own
      rw [configured, Bool.and_eq_true, beq_iff_eq] at own
      exact .inl ⟨own.1, own.2.symm⟩

/-- Without an input method for the stylus the user's own one is started, if it is not there yet. -/
theorem startStylusIme_unconfigured {client : InputClientInfo} (new : client.isNotifyInputStart = true)
    {code : ErrorCode} (missing : config.getImeByInputType .stylusInput = .error code) :
    startStylusIme config scene client s = startUserSpecifiedIme config scene s := by
  have type : startInputType config scene false .stylusInput true s =
    startUserSpecifiedIme config scene s := by
    unfold startInputType
    rw [missing]
    rfl
  have other : isInputTypeImeStarted config .stylusInput s = false := by
    unfold isInputTypeImeStarted
    rw [missing, Bool.and_false]
  unfold startStylusIme
  rw [type, new, other]
  split
  · rfl
  · rw [if_neg (by simp), if_pos (by simp)]

/-- **The input method of a new text field.**  A new text field that is no password field and attaches
successfully is served by the input method that its case calls for, and the session of the text field
before it is over. -/
theorem field_served (config : Config) (scene : Scene) (alternativeIme : Option String)
    (client : InputClientInfo)
    (s : State) (plain : client.getSecurityFlag = false) (new : client.isNotifyInputStart = true)
    (done : (ensureImeAvailable config scene alternativeIme client s).1 = .noError) :
    FieldServed config scene alternativeIme client s
      (ensureImeAvailable config scene alternativeIme client s).2 := by
  unfold ensureImeAvailable at done ⊢
  rw [client.isSecurityImeFlag_eq, plain, new] at done ⊢
  rw [if_neg (by simp), if_neg (by simp)] at done ⊢
  dsimp only at done ⊢
  obtain ⟨⟨cfg, locked⟩, isOver⟩ : ((if true = true ∧ s.isStarted = true then
        restoreCurrentImeSubType config scene s else s).currentImeCfg = s.currentImeCfg ∧
      (if true = true ∧ s.isStarted = true then restoreCurrentImeSubType config scene s else
        s).isDeviceLockAndScreenLocked = s.isDeviceLockAndScreenLocked) ∧
      Ended (if true = true ∧ s.isStarted = true then restoreCurrentImeSubType config scene s else
        s) := by
    split
    · exact ⟨restoreCurrentImeSubType_rest s, restoreCurrentImeSubType_ended s⟩
    · rename_i off
      exact ⟨⟨rfl, rfl⟩, fun on => absurd ⟨rfl, on⟩ off⟩
  generalize (if true = true ∧ s.isStarted = true then restoreCurrentImeSubType config scene s
    else s) = t at *
  split at done
  · rename_i isLocked
    rw [if_pos isLocked]
    have lockIme : getScreenLockIme config alternativeIme t =
      getScreenLockIme config alternativeIme s := by
      unfold getScreenLockIme
      rw [cfg]
    rw [lockIme] at done ⊢
    rw [locked] at isLocked
    cases found : getScreenLockIme config alternativeIme s with
    | none =>
        rw [found] at done
        cases done
    | some imeId =>
        rw [found] at done
        obtain ⟨ended, ready⟩ := startUserSpecifiedIme_ready done
        refine .screenLocked isLocked imeId found ended (ready.imp (fun own => ?_) And.right)
        rw [← cfg]
        exact own
  · rename_i unlocked
    rw [if_neg unlocked]
    have isUnlocked : s.isDeviceLockAndScreenLocked = false := by
      rw [← locked]
      exact Bool.not_eq_true _ ▸ unlocked
    have own : ∀ u, u.currentImeCfg = (t.setTmpIme scene "").currentImeCfg →
        u.isDeviceLockAndScreenLocked = t.isDeviceLockAndScreenLocked →
        (startUserSpecifiedIme config scene u).1 = .noError →
        Ended (startUserSpecifiedIme config scene u).2 ∧
          Ready (startUserSpecifiedIme config scene u).2
            (imeToStart config scene (scene.afterSetTmpIme "" s.currentImeCfg)).1.ime := by
      intro u sameCfg sameLock started
      obtain ⟨ended, ready⟩ := startUserSpecifiedIme_ready started
      refine ⟨ended, ?_⟩
      rw [sameCfg] at ready
      rw [← cfg]
      exact ready.resolve_right fun other => unlocked (by rw [← sameLock]; exact other.1)
    split at done
    · rename_i specified
      rw [if_pos specified]
      obtain ⟨ended, ready⟩ := startPreconfiguredDefaultIme_ready done
      exact .preconfiguredDefault isUnlocked specified ended ready
    · rename_i free
      rw [if_neg free]
      have isFree : client.isPreconfiguredDefaultImeSpecified = false := Bool.not_eq_true _ ▸ free
      split at done
      · rename_i activated
        rw [if_pos activated]
        cases configured : config.getImeByInputType .stylusInput with
        | ok ime =>
            refine .stylus isUnlocked isFree activated ime configured ?_ ?_
            · rcases startStylusIme_served new configured done with started | ⟨same, -⟩
              · exact fun _ => .inl started.2
              · rw [same]
                intro on
                rw [← cfg]
                exact .inr (isOver on)
            · rcases startStylusIme_served new configured done with started | ⟨same, why⟩
              · exact .inl started
              · rw [same]
                exact .inr why
        | error code =>
            rw [startStylusIme_unconfigured new configured] at done ⊢
            obtain ⟨ended, ready⟩ := own _ rfl rfl done
            exact .userSpecified isUnlocked isFree (.inr ⟨code, configured⟩) ended ready
      · rename_i plain
        rw [if_neg plain]
        have notActivated : client.isStylusActivation = false := Bool.not_eq_true _ ▸ plain
        obtain ⟨ended, ready⟩ := own _ (by split <;> rfl) (by split <;> rfl) done
        exact .userSpecified isUnlocked isFree (.inl notActivated) ended ready

/-! ## Poles -/

/-- A device whose own input method takes passwords, beside one for the camera. -/
def device : Config where
  inputTypes := some [(.securityInput, ⟨"system", "secure"⟩), (.cameraInput, ⟨"camera", "scan"⟩)]
  defaultIme := { imeId := "system/Ext", bundleName := "system", extName := "Ext" }

def installed : Scene := { imeProperty := fun _ => some "Ext" }

def chosenByUser : ImeNativeCfg := { imeId := "third/Ext", bundleName := "third", extName := "Ext" }

def passwordField : InputClientInfo :=
  { config := { inputAttribute := { inputPattern := Ipc.InputAttribute.PATTERN_PASSWORD } } }

def textField : InputClientInfo := {}

/-- The sessions of two users with the same choice, and of nobody else. -/
def twoUsers (userId : Int) : State :=
  boot false (if userId = 100 ∨ userId = 101 then some chosenByUser else none)

/-- The users' input methods run when a password field of each of them comes, with a text field of
the first one in between. -/
theorem password_not_for_third :
    let calls : List (Int × Scene × Call) :=
      [(100, installed, .startUserSpecifiedIme), (101, installed, .startUserSpecifiedIme),
        (100, installed, .startInput false none passwordField),
        (100, installed, .startInput false none textField)]
    PasswordServed device passwordField
      (startInput device installed false none passwordField
        ((run (serve device) { sessions := twoUsers } calls).session 101)).2 :=
  password_served device twoUsers _ 101 installed none passwordField rfl (by decide) rfl

/-- Without the text field the second user's password field finds the input type started, and is
left to that user's own choice. -/
example :
    let calls : List (Int × Scene × Call) :=
      [(100, installed, .startUserSpecifiedIme), (101, installed, .startUserSpecifiedIme),
        (100, installed, .startInput false none passwordField)]
    let s := (run (serve device) { sessions := twoUsers } calls).session 101
    (startInput device installed false none passwordField s).1 = .noError ∧
      (startInput device installed false none passwordField s).2.realImeData.map ImeData.ime =
        some ("third", "Ext") :=
  ⟨rfl, rfl⟩

/-- The next text field gets the user's input method back. -/
theorem text_field_for_third :
    let s := run (step device) (boot false (some chosenByUser))
      [(installed, .startInput false none passwordField)]
    FieldServed device installed none textField s
      (ensureImeAvailable device installed none textField s).2 :=
  field_served device installed none textField _ rfl rfl rfl

end Imf.InputTypes
