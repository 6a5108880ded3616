/-
# Imf.Events.Subscription -- who hears of an event

The applications and the service of `Imf.Events.Listeners` as one system.  A call of an
application may find no service, be lost on the way, be refused for want of permission, be
taken, or be taken with its reply lost; the service may restart at any time, with an empty
registry; an application learns of the start of the service, posts `LOOP_COUNT` tasks and
sends its flag again; an application may die.

`Subscribed` says what a listener asked for, from the history alone: it was registered for
the event, the registration returned `NO_ERROR`, and it has not been removed since.

* `heard_exactly`: an event of a user calls exactly the subscribed listeners of that user's
  applications and of user 0's, each once, as soon as the service that runs has taken one
  update of the application;
* `called_permitted`: an application that is neither a system application nor a native
  service hears of a changed input method and of nothing else, and each user's list holds one
  entry a process, of processes of the user alone;
* `restored`: after a restart one task that gets through is enough to be heard of again.

A call, and a task of the main thread, is one step here: they do not overlap.
-/
import Imf.Common.ErrorCode
import Imf.Events.Listeners
import Imf.Lib.Run

namespace Imf.Events

set_option autoImplicit false

open Imf.Lib

/-! ## A call -/

/-- What the service finds out of the process that calls it. -/
structure Caller where
  userId : Int32
  isSystemApp : Bool
  isNativeSa : Bool
  deriving DecidableEq, Repr

/-- How a call went: whether the service was there, at the two looks an application takes, whether the
call reached it and whether the reply came back. -/
structure Ipc where
  tried : Bool
  found : Bool
  delivered : Bool
  replied : Bool
  deriving DecidableEq, Repr

/-- `UpdateListenEventFlag` of the service: whether it takes the update. -/
def updateListenEventFlag (caller : Caller) (pid : Nat) (finalEventFlag eventFlag : UInt32)
    (registry : ImeEventListeners) : ErrorCode × ImeEventListeners :=
  if (isImeHideOn eventFlag || isImeShowOn eventFlag || isInputStatusChangedOn eventFlag ||
      isSoftKeyboardInfoChangedOn eventFlag) && !caller.isSystemApp && !caller.isNativeSa then
    (.errorStatusSystemPermission, registry)
  else (.noError, updateListenerInfo registry caller.userId ⟨finalEventFlag, some pid, pid⟩)

/-- What is around the application when it calls: the registry, and whether the service that keeps
it has taken an update of the application (which no code stores). -/
structure Service where
  registry : ImeEventListeners
  told : Nat → Bool

/-- One call over the wire. -/
def transact (caller : Caller) (pid : Nat) (ipc : Ipc) (finalEventFlag eventFlag : UInt32)
    (service : Service) :
    ErrorCode × Service :=
  if !ipc.delivered then (.errorRemote, service)
  else
    let (code, registry) := updateListenEventFlag caller pid finalEventFlag eventFlag service.registry
    (if ipc.replied then code else .errorRemote,
      { registry, told := fun n => service.told n || (n = pid && code = .noError) })

/-! ## The application -/

/-- What an application keeps: the flag of `clientInfo_`, `listeners_`, `isDiedRestoreListen_` and
the posted tasks. -/
structure Application where
  eventFlag : UInt32 := 0
  listeners : Listeners := .empty
  isDiedRestoreListen : Bool := false
  restoreTasks : Nat := 0
  dead : Bool := false

def loopCount : Nat := 5

/-- `UpdateListenEventFlag` of the controller. -/
def Application.updateListenEventFlag (app : Application) (caller : Caller) (pid : Nat) (ipc : Ipc)
    (finalEventFlag eventFlag : UInt32) (isOn : Bool) (service : Service) :
    ErrorCode × Application × Service :=
  let oldEventFlag := app.eventFlag
  let app := { app with eventFlag := finalEventFlag }
  let back := { app with eventFlag := oldEventFlag }
  if !isOn && !ipc.tried then (.noError, app, service)
  else if !ipc.found then (.errorServiceStartFailed, if isOn then back else app, service)
  else
    let (code, service) := transact caller pid ipc finalEventFlag eventFlag service
    (code, if code ≠ .noError ∧ isOn then back else app, service)

/-- `RegisterImeEventListener` of the monitor manager and of its implementation. -/
def Application.registerImeEventListener (app : Application) (caller : Caller) (pid : Nat) (ipc : Ipc)
    (eventFlag : UInt32) (listener : Nat) (service : Service) : ErrorCode × Application × Service :=
  if eventFlag = 0 then (.errorBadParameters, app, service)
  else
    let eventFlag := eventFlag &&& allEventMask
    let (code, app, service) :=
      app.updateListenEventFlag caller pid ipc
        (currentEventFlag app.listeners ||| eventFlag) eventFlag true service
    if code ≠ .noError then (code, app, service)
    else (.noError, { app with listeners := insertAll eventFlag listener app.listeners }, service)

/-- `UnRegisterImeEventListener`. -/
def Application.unRegisterImeEventListener (app : Application) (caller : Caller) (pid : Nat) (ipc : Ipc)
    (eventFlag : UInt32) (listener : Nat) (service : Service) : ErrorCode × Application × Service :=
  if eventFlag = 0 then (.errorBadParameters, app, service)
  else
    let eventFlag := eventFlag &&& allEventMask
    let (listeners, isAbsentParam) := eraseAll eventFlag listener app.listeners
    let (code, app, service) := { app with listeners }.updateListenEventFlag caller pid ipc
      (currentEventFlag listeners) eventFlag false service
    if code ≠ .noError then (code, app, service)
    else (if isAbsentParam then .errorBadParameters else .noError, app, service)

/-- `RestoreListenInfoInSaDied`. -/
def Application.restoreListenInfoInSaDied (app : Application) : Application :=
  if app.eventFlag = 0 then app
  else { app with isDiedRestoreListen := false, restoreTasks := app.restoreTasks + loopCount }

/-- One posted task: `RestoreListenEventFlag`, unless an earlier one was heard. -/
def Application.restoreListenTask (app : Application) (caller : Caller) (pid : Nat) (ipc : Ipc)
    (service : Service) : Application × Service :=
  if app.restoreTasks = 0 then (app, service)
  else
    let app := { app with restoreTasks := app.restoreTasks - 1 }
    if app.isDiedRestoreListen then (app, service)
    else if !ipc.found then (app, service)
    else
      -- 0: no permission is asked for
      let (code, service) := transact caller pid ipc app.eventFlag 0 service
      (if code = .noError then { app with isDiedRestoreListen := true } else app, service)

/-! ## The system -/

structure System where
  apps : Nat → Application
  service : Service

def System.init : System := ⟨fun _ => {}, ⟨.empty, fun _ => false⟩⟩

inductive Event where
  | register (pid : Nat) (ipc : Ipc) (eventFlag : UInt32) (listener : Nat)
  | unRegister (pid : Nat) (ipc : Ipc) (eventFlag : UInt32) (listener : Nat)
  | serviceRestarts
  | serviceStarted (pid : Nat)
  | restoreTask (pid : Nat) (ipc : Ipc)
  | applicationDies (pid : Nat)
  | listenerDied (pid : Nat)
  deriving DecidableEq, Repr

section System

variable (callers : Nat → Caller)

def System.set (s : System) (pid : Nat) (app : Application) (service : Service) : System :=
  ⟨fun n => if n = pid then app else s.apps n, service⟩

/-- A dead application takes no step, and its death is told of after it only. -/
def step (s : System) : Event → System
  | .register pid ipc eventFlag listener =>
      if (s.apps pid).dead then s
      else
        let result := (s.apps pid).registerImeEventListener
          (callers pid) pid ipc eventFlag listener s.service
        s.set pid result.2.1 result.2.2
  | .unRegister pid ipc eventFlag listener =>
      if (s.apps pid).dead then s
      else
        let result := (s.apps pid).unRegisterImeEventListener
          (callers pid) pid ipc eventFlag listener s.service
        s.set pid result.2.1 result.2.2
  | .serviceRestarts => { s with service := ⟨.empty, fun _ => false⟩ }
  | .serviceStarted pid =>
      if (s.apps pid).dead then s else s.set pid (s.apps pid).restoreListenInfoInSaDied s.service
  | .restoreTask pid ipc =>
      if (s.apps pid).dead then s
      else
        let result := (s.apps pid).restoreListenTask (callers pid) pid ipc s.service
        s.set pid result.1 result.2
  | .applicationDies pid => s.set pid { s.apps pid with dead := true } s.service
  | .listenerDied pid =>
      if (s.apps pid).dead then
        { s with service := { s.service with
          registry := onListenerDied s.service.registry (callers pid).userId pid } }
      else s

/-- What a notification of a user calls: in each application that is called, the listeners of the
bit. -/
def heard (s : System) (userId : Int32) (notification : Notification) : List (Nat × Nat) :=
  (notification.send s.service.registry userId).flatMap fun pid =>
    if (s.apps pid).dead then []
    else (getListeners (s.apps pid).listeners notification.event.mask).map fun listener =>
      (pid, listener)

end System

/-! ## The registry -/

section Registry

variable (callers : Nat → Caller)

/-- One entry a process in the list of its user, and no empty list. -/
structure Sound (registry : ImeEventListeners) : Prop where
  filled : ∀ v, registry.find v ≠ some []
  distinct : ∀ v, ((entries registry v).map ImeEventListenerInfo.pid).Nodup
  owned : ∀ v, ∀ listener ∈ entries registry v,
    (callers listener.pid).userId = v ∧ listener.client = some listener.pid

theorem sound_empty : Sound callers .empty where
  filled := nofun
  distinct _ := List.nodup_nil
  owned := nofun

/-- The entry of a process. -/
def entryOf (registry : ImeEventListeners) (pid : Nat) : Option ImeEventListenerInfo :=
  lookup ImeEventListenerInfo.pid pid (entries registry (callers pid).userId)

variable {callers} {registry : ImeEventListeners} {pid : Nat} {finalEventFlag : UInt32}

theorem Sound.mem_iff (sound : Sound callers registry) {listener : ImeEventListenerInfo} {v : Int32} :
    listener ∈ entries registry v ↔ entryOf callers registry listener.pid = some listener ∧
      (callers listener.pid).userId = v := by
  unfold entryOf
  constructor
  · intro inside
    have user := (sound.owned v listener inside).1
    rw [user]
    exact ⟨lookup_of_mem (sound.distinct v) inside, rfl⟩
  · rintro ⟨found, user⟩
    rw [user] at found
    exact (lookup_mem found).1

/-- An update of a process sets its own entry and leaves every other one. -/
theorem entryOf_update (sound : Sound callers registry) (n : Nat) :
    entryOf callers (updateListenerInfo registry (callers pid).userId
      ⟨finalEventFlag, some pid, pid⟩) n =
      if n = pid then
        match entryOf callers registry pid with
        | none => some ⟨finalEventFlag, some pid, pid⟩
        | some old => if finalEventFlag = 0 then none else some (old.setFlag finalEventFlag)
      else entryOf callers registry n := by
  unfold entryOf
  rw [entries_updateListenerInfo]
  by_cases user : (callers n).userId = (callers pid).userId
  · rw [if_pos user, user]
    exact lookup_updateVec (sound.distinct _) n
  · have other : n ≠ pid := fun same => user (by rw [same])
    rw [if_neg user, if_neg other]

theorem Sound.update (sound : Sound callers registry) (pid : Nat) (finalEventFlag : UInt32) :
    Sound callers (updateListenerInfo registry (callers pid).userId
      ⟨finalEventFlag, some pid, pid⟩) where
  filled v := updateListenerInfo_filled sound.filled v
  distinct v := by
    rw [entries_updateListenerInfo]
    split
    · exact updateVec_distinct (sound.distinct _)
    · exact sound.distinct v
  owned v listener := by
    rw [entries_updateListenerInfo]
    split
    · rename_i user
      subst user
      intro inside
      have found := lookup_of_mem (updateVec_distinct (sound.distinct _)) inside
      rw [lookup_updateVec (sound.distinct _)] at found
      split at found
      · rename_i own
        dsimp only at own found
        cases there : lookup ImeEventListenerInfo.pid pid (entries registry (callers pid).userId) with
        | none =>
            rw [there] at found
            cases found
            exact ⟨rfl, rfl⟩
        | some old =>
            rw [there] at found
            dsimp only at found
            split at found
            · cases found
            · cases found
              exact sound.owned _ old (lookup_mem there).1
      · exact sound.owned _ listener (lookup_mem found).1
    · exact sound.owned v listener

/-- The death of a process takes its own entry. -/
theorem entryOf_died (sound : Sound callers registry) {n : Nat} (other : n ≠ pid) :
    entryOf callers (onListenerDied registry (callers pid).userId pid) n =
      entryOf callers registry n := by
  unfold entryOf
  rw [entries_onListenerDied]
  split
  · rename_i user
    rw [← user]
    have clients : (entries registry (callers n).userId).eraseP
      (fun listener => decide (listener.client = some pid)) =
        (entries registry (callers n).userId).eraseP fun listener => decide (listener.pid = pid) := by
      refine eraseP_congr fun listener inside => ?_
      rw [(sound.owned _ listener inside).2]
      exact decide_eq_decide.2 Option.some_inj
    rw [clients, lookup_eraseP (sound.distinct _), if_neg other]
  · rfl

theorem entryOf_of_died (sound : Sound callers registry) {n : Nat} {listener : ImeEventListenerInfo}
    (found : entryOf callers (onListenerDied registry (callers pid).userId pid) n = some listener) :
    entryOf callers registry n = some listener := by
  obtain ⟨inside, own⟩ := lookup_mem found
  rw [entries_onListenerDied] at inside
  subst own
  split at inside
  · rename_i user
    rw [← user] at inside
    exact (sound.mem_iff.1 (List.mem_of_mem_eraseP inside)).1
  · exact (sound.mem_iff.1 inside).1

theorem Sound.died (sound : Sound callers registry) (pid : Nat) :
    Sound callers (onListenerDied registry (callers pid).userId pid) where
  filled v := onListenerDied_filled sound.filled pid v
  distinct v := by
    rw [entries_onListenerDied]
    split
    · exact (sound.distinct _).sublist (List.eraseP_sublist.map _)
    · exact sound.distinct v
  owned v listener := by
    rw [entries_onListenerDied]
    split
    · rename_i user
      rw [user]
      exact fun inside => sound.owned _ listener (List.mem_of_mem_eraseP inside)
    · exact sound.owned v listener

/-- The entry of a process has the bit of an event. -/
def Reaches (callers : Nat → Caller) (registry : ImeEventListeners) (pid : Nat)
    (event : ImeEvent) : Prop :=
  ∃ listener, entryOf callers registry pid = some listener ∧ On listener.eventFlag event

theorem reaches_update (sound : Sound callers registry) {event : ImeEvent}
    (on : On finalEventFlag event) :
    Reaches callers (updateListenerInfo registry (callers pid).userId
      ⟨finalEventFlag, some pid, pid⟩) pid event := by
  unfold Reaches
  rw [entryOf_update sound, if_pos rfl]
  cases entryOf callers registry pid with
  | none => exact ⟨_, rfl, on⟩
  | some old =>
      have some : finalEventFlag ≠ 0 := by
        rintro rfl
        exact not_on_zero event on
      exact ⟨_, if_neg some, on⟩

theorem mem_getListenerInfo {userId : Int32} {listener : ImeEventListenerInfo} :
    listener ∈ getListenerInfo registry userId ↔ listener ∈ entries registry userId ∨
      listener ∈ entries registry 0 := by
  unfold getListenerInfo entries
  split
  · rename_i zero
    rw [zero, or_self]
  · exact List.mem_append

/-- Where the objects are the processes, a notification calls the processes with the bit. -/
theorem send_eq_map (sound : Sound callers registry) (notification : Notification) (userId : Int32) :
    notification.send registry userId =
      ((getListenerInfo registry userId).filter fun listener =>
        isEventOn notification.event.mask listener.eventFlag).map ImeEventListenerInfo.pid := by
  have client : ∀ listener ∈ getListenerInfo registry userId, listener.client = some listener.pid := by
    intro listener inside
    rcases mem_getListenerInfo.1 inside with own | shared
    · exact (sound.owned _ listener own).2
    · exact (sound.owned _ listener shared).2
  rw [Notification.send_eq, notify]
  generalize getListenerInfo registry userId = infos at client ⊢
  induction infos with
  | nil => rfl
  | cons listener rest ih =>
      rw [List.filterMap_cons, List.filter_cons, client listener List.mem_cons_self,
        ih fun other inside => client other (List.mem_cons_of_mem _ inside)]
      cases isEventOn notification.event.mask listener.eventFlag <;> rfl

/-- What a notification calls are the processes with the bit, of the user and of user 0. -/
theorem mem_send (sound : Sound callers registry) {notification : Notification} {userId : Int32} :
    pid ∈ notification.send registry userId ↔
      ((callers pid).userId = userId ∨ (callers pid).userId = 0) ∧
        Reaches callers registry pid notification.event := by
  rw [send_eq_map sound, List.mem_map]
  simp only [List.mem_filter, mem_getListenerInfo, sound.mem_iff]
  constructor
  · rintro ⟨listener, ⟨⟨found, user⟩ | ⟨found, user⟩, on⟩, rfl⟩
    · exact ⟨.inl user, listener, found, on⟩
    · exact ⟨.inr user, listener, found, on⟩
  · rintro ⟨user, listener, found, on⟩
    have own : listener.pid = pid := (lookup_mem found).2
    subst own
    exact ⟨listener, ⟨user.imp (⟨found, ·⟩) (⟨found, ·⟩), on⟩, rfl⟩

theorem send_nodup (sound : Sound callers registry) (notification : Notification) (userId : Int32) :
    (notification.send registry userId).Nodup := by
  rw [send_eq_map sound]
  refine List.Nodup.sublist (List.filter_sublist.map _) ?_
  show (((getListenerInfo registry userId).map ImeEventListenerInfo.pid)).Nodup
  unfold getListenerInfo
  dsimp only
  split
  · exact sound.distinct userId
  · rename_i other
    rw [List.map_append, List.nodup_append]
    refine ⟨sound.distinct userId, sound.distinct 0, ?_⟩
    rintro _ own _ shared rfl
    obtain ⟨first, ofUser, rfl⟩ := List.mem_map.1 own
    obtain ⟨second, ofZero, same⟩ := List.mem_map.1 shared
    have zero := (sound.owned 0 second ofZero).1
    rw [same, (sound.owned userId first ofUser).1] at zero
    exact other zero

end Registry

/-! ## One call -/

section Call

variable {callers : Nat → Caller} {pid : Nat} {ipc : Ipc} {finalEventFlag eventFlag : UInt32}
  {service : Service}

/-- The service after it has taken an update. -/
def Service.take (callers : Nat → Caller) (pid : Nat) (finalEventFlag : UInt32)
    (service : Service) : Service where
  registry := updateListenerInfo service.registry (callers pid).userId ⟨finalEventFlag, some pid, pid⟩
  told n := service.told n || decide (n = pid)

/-- A system application, a native service, or nothing but the change of the input method. -/
def Permitted (caller : Caller) (eventFlag : UInt32) : Prop :=
  caller.isSystemApp = true ∨ caller.isNativeSa = true ∨ ∀ event,
    On eventFlag event → event = .imeChange

theorem updateListenEventFlag_of_permitted {caller : Caller} (permitted : Permitted caller eventFlag)
    (registry : ImeEventListeners) :
    updateListenEventFlag caller pid finalEventFlag eventFlag registry =
      (.noError, updateListenerInfo registry caller.userId ⟨finalEventFlag, some pid, pid⟩) := by
  have allowed : ((isImeHideOn eventFlag || isImeShowOn eventFlag || isInputStatusChangedOn eventFlag ||
      isSoftKeyboardInfoChangedOn eventFlag) && !caller.isSystemApp && !caller.isNativeSa) = false := by
    rcases permitted with app | native | only
    · simp [app]
    · simp [native]
    · have off : ∀ event : ImeEvent, event ≠ .imeChange → isEventOn event.mask eventFlag = false :=
        fun event other => Bool.eq_false_iff.2 fun on => other (only event on)
      have hide : isImeHideOn eventFlag = false := off .imeHide nofun
      have shown : isImeShowOn eventFlag = false := off .imeShow nofun
      have status : isInputStatusChangedOn eventFlag = false := off .inputStatusChanged nofun
      have keyboard : isSoftKeyboardInfoChangedOn eventFlag = false :=
        off .softKeyboardInfoChanged nofun
      simp [hide, shown, status, keyboard]
  unfold Events.updateListenEventFlag
  rw [allowed]
  rfl

theorem updateListenEventFlag_of_not_permitted {caller : Caller}
    (refused : ¬ Permitted caller eventFlag) (registry : ImeEventListeners) :
    updateListenEventFlag caller pid finalEventFlag eventFlag registry =
      (.errorStatusSystemPermission, registry) := by
  unfold Permitted at refused
  rw [not_or, not_or, Bool.not_eq_true, Bool.not_eq_true] at refused
  obtain ⟨app, native, more⟩ := refused
  obtain ⟨event, needs⟩ := not_forall.1 more
  obtain ⟨on, other⟩ := Classical.not_imp.1 needs
  unfold On at on
  unfold Events.updateListenEventFlag
  rw [app, native, if_pos]
  cases event with
  | imeChange => exact absurd rfl other
  | imeShow => simp [isImeShowOn, show isEventOn eventImeShowMask eventFlag = true from on]
  | imeHide => simp [isImeHideOn, show isEventOn eventImeHideMask eventFlag = true from on]
  | inputStatusChanged =>
      simp [isInputStatusChangedOn, show isEventOn eventInputStatusChangedMask eventFlag = true from on]
  | softKeyboardInfoChanged =>
      simp [isSoftKeyboardInfoChangedOn,
        show isEventOn eventSoftKeyboardInfoChangedMask eventFlag = true from on]

theorem permitted_zero (caller : Caller) : Permitted caller 0 :=
  .inr (.inr fun event on => absurd on (not_on_zero event))

/-- A call is taken where it is permitted, or fails and changes nothing. -/
theorem transact_cases {code : ErrorCode} {after : Service}
    (called : transact (callers pid) pid ipc finalEventFlag eventFlag service = (code, after)) :
    (after = service ∧ code ≠ .noError ∧ (ipc.delivered = true → ¬ Permitted (callers pid) eventFlag)) ∨
      (after = service.take callers pid finalEventFlag ∧ Permitted (callers pid) eventFlag) := by
  unfold transact at called
  split at called
  · rename_i lost
    cases called
    refine .inl ⟨rfl, nofun, fun delivered => ?_⟩
    rw [delivered] at lost
    cases lost
  · by_cases permitted : Permitted (callers pid) eventFlag
    · rw [updateListenEventFlag_of_permitted permitted] at called
      cases called
      refine .inr ⟨?_, permitted⟩
      simp [Service.take]
    · rw [updateListenEventFlag_of_not_permitted permitted] at called
      cases called
      refine .inl ⟨?_, ?_, fun _ => permitted⟩
      · simp
      · split <;> nofun

variable {app : Application} {isOn : Bool}

/-- The service has taken an update it permits, or heard of nothing. -/
def Sent (callers : Nat → Caller) (pid : Nat) (finalEventFlag eventFlag : UInt32)
    (service after : Service) : Prop :=
  after = service ∨ (after = service.take callers pid finalEventFlag ∧
    Permitted (callers pid) eventFlag)

/-- What the controller leaves: what is added stays added when the call says so, and what is taken away
stays away whatever the call says.  The service may have taken what the application hears refused. -/
theorem updateListenEventFlag_cases {code : ErrorCode} {app' : Application} {after : Service}
    (called : app.updateListenEventFlag (callers pid) pid ipc finalEventFlag eventFlag isOn service =
      (code, app', after)) :
    (isOn = true ∧ code ≠ .noError ∧ app' = app ∧
      Sent callers pid finalEventFlag eventFlag service after) ∨
      (isOn = true ∧ code = .noError ∧ app' = { app with eventFlag := finalEventFlag } ∧
        after = service.take callers pid finalEventFlag ∧ Permitted (callers pid) eventFlag) ∨
      (isOn = false ∧ app' = { app with eventFlag := finalEventFlag } ∧
        Sent callers pid finalEventFlag eventFlag service after) := by
  unfold Application.updateListenEventFlag at called
  dsimp only at called
  split at called
  · rename_i alone
    cases called
    have off : isOn = false := by
      rw [Bool.and_eq_true, Bool.not_eq_true'] at alone
      exact alone.1
    exact .inr (.inr ⟨off, rfl, .inl rfl⟩)
  · split at called
    · cases called
      cases isOn with
      | true => exact .inl ⟨rfl, nofun, rfl, .inl rfl⟩
      | false => exact .inr (.inr ⟨rfl, rfl, .inl rfl⟩)
    · cases sent : transact (callers pid) pid ipc finalEventFlag eventFlag service with
      | mk reply left =>
          rw [sent] at called
          have outcome := transact_cases sent
          have ways : Sent callers pid finalEventFlag eventFlag service left := outcome.imp And.left id
          cases called
          cases isOn with
          | false => exact .inr (.inr ⟨rfl, by simp, ways⟩)
          | true =>
              by_cases ok : reply = .noError
              · exact .inr (.inl ⟨rfl, ok, by simp [ok],
                  outcome.resolve_left fun failed => failed.2.1 ok⟩)
              · exact .inl ⟨rfl, ok, by simp [ok], ways⟩

end Call

/-! ## What every step keeps -/

section Invariant

variable {callers : Nat → Caller} {s : System} {pid : Nat}

theorem Permitted.of_le {caller : Caller} {more fewer : UInt32} (permitted : Permitted caller more)
    (le : ∀ event, On fewer event → On more event) : Permitted caller fewer :=
  permitted.imp id (Or.imp id fun only event on => only event (le event on))

theorem Permitted.or {caller : Caller} {a b : UInt32} (first : Permitted caller a)
    (second : Permitted caller b) :
    Permitted caller (a ||| b) := by
  rcases first with app | native | onlyA
  · exact .inl app
  · exact .inr (.inl native)
  · refine second.imp id (Or.imp id fun onlyB event on => ?_)
    exact (on_or.1 on).elim (onlyA event) (onlyB event)

/-- The flag of an application has the bits of the events with listeners, which it may listen to. -/
structure AppSound (caller : Caller) (app : Application) : Prop where
  kept : Kept app.listeners
  flag : ∀ event, On app.eventFlag event ↔ getListeners app.listeners event.mask ≠ []
  permitted : Permitted caller app.eventFlag

/-- A service that was told by a living application calls it for every event it has listeners of. -/
structure Inv (callers : Nat → Caller) (s : System) : Prop where
  sound : Sound callers s.service.registry
  apps : ∀ n, AppSound (callers n) (s.apps n)
  covered : ∀ n, (s.apps n).dead = false → s.service.told n = true →
    ∀ event, On (s.apps n).eventFlag event → Reaches callers s.service.registry n event
  entries : ∀ n listener, entryOf callers s.service.registry n = some listener →
    Permitted (callers n) listener.eventFlag

theorem Inv.init : Inv callers System.init where
  sound := sound_empty callers
  apps _ := ⟨kept_empty,
    fun event => ⟨fun on => absurd on (not_on_zero event), fun some => absurd rfl some⟩,
    permitted_zero _⟩
  covered _ _ := nofun
  entries _ _ := nofun

/-- One application moves: the service hears of nothing and no bit is added, or the service takes a
flag that has every bit of the new one. -/
theorem Inv.move (inv : Inv callers s) {app : Application} {after : Service} (finalEventFlag : UInt32)
    (own : AppSound (callers pid) app) (alive : app.dead = false → (s.apps pid).dead = false)
    (sent : (after = s.service ∧ ∀ event, On app.eventFlag event → On (s.apps pid).eventFlag event) ∨
      (after = s.service.take callers pid finalEventFlag ∧ Permitted (callers pid) finalEventFlag ∧
        ∀ event, On app.eventFlag event → On finalEventFlag event)) :
          Inv callers (s.set pid app after) := by
  have apps : ∀ n, AppSound (callers n) ((s.set pid app after).apps n) := by
    intro n
    unfold System.set
    dsimp only
    split
    · rename_i same
      rw [same]
      exact own
    · exact inv.apps n
  rcases sent with ⟨rfl, fewer⟩ | ⟨rfl, permitted, fewer⟩
  · refine ⟨inv.sound, apps, fun n living told event on => ?_, inv.entries⟩
    unfold System.set at living on
    dsimp only at living on
    split at living
    · rename_i same
      rw [if_pos same] at on
      subst same
      exact inv.covered n (alive living) told event (fewer event on)
    · rename_i other
      rw [if_neg other] at on
      exact inv.covered n living told event on
  · refine ⟨inv.sound.update pid finalEventFlag, apps,
      fun n living told event on => ?_, fun n listener found => ?_⟩
    · unfold System.set at living on
      dsimp only at living on
      split at living
      · rename_i same
        rw [if_pos same] at on
        subst same
        exact reaches_update inv.sound (fewer event on)
      · rename_i other
        rw [if_neg other] at on
        have before : s.service.told n = true := by
          have now : (s.service.told n || decide (n = pid)) = true := told
          rwa [decide_eq_false other, Bool.or_false] at now
        obtain ⟨listener, found, has⟩ := inv.covered n living before event on
        exact ⟨listener, by rw [System.set, Service.take, entryOf_update inv.sound, if_neg other]; exact found, has⟩
    · have entry : entryOf callers (s.service.take callers pid finalEventFlag).registry n =
        some listener := found
      rw [Service.take, entryOf_update inv.sound] at entry
      split at entry
      · rename_i same
        subst same
        split at entry
        · cases entry
          exact permitted
        · split at entry
          · cases entry
          · cases entry
            exact permitted
      · exact inv.entries n listener entry

/-- What a registration leaves: nothing of it, or all of it. -/
theorem register_cases {app app' : Application} {caller : Caller} {ipc : Ipc} {eventFlag : UInt32}
    {listener : Nat} {code : ErrorCode} {after : Service} (same : caller = callers pid)
    (called : app.registerImeEventListener caller pid ipc eventFlag listener s.service =
      (code, app', after)) :
    (code ≠ .noError ∧ app' = app ∧
        Sent callers pid (currentEventFlag app.listeners ||| (eventFlag &&& allEventMask))
          (eventFlag &&& allEventMask)
          s.service after) ∨
      (code = .noError ∧
        app' = { app with
          eventFlag := currentEventFlag app.listeners ||| (eventFlag &&& allEventMask)
          listeners := insertAll (eventFlag &&& allEventMask) listener app.listeners } ∧
        after = s.service.take callers pid
          (currentEventFlag app.listeners ||| (eventFlag &&& allEventMask)) ∧
        Permitted (callers pid) (eventFlag &&& allEventMask)) := by
  subst same
  unfold Application.registerImeEventListener at called
  split at called
  · cases called
    exact .inl ⟨nofun, rfl, .inl rfl⟩
  · dsimp only at called
    cases sent : app.updateListenEventFlag (callers pid) pid ipc
        (currentEventFlag app.listeners ||| (eventFlag &&& allEventMask))
          (eventFlag &&& allEventMask) true s.service with
    | mk reply left =>
        rw [sent] at called
        rcases updateListenEventFlag_cases sent
          with ⟨_, failed, kept, ways⟩ | ⟨_, ok, moved, ways⟩ | ⟨off, _⟩
        · rw [if_pos failed] at called
          cases called
          exact .inl ⟨failed, kept, ways⟩
        · rw [if_neg (not_not_intro ok)] at called
          cases called
          exact .inr ⟨rfl, by rw [moved], ways⟩
        · cases off

theorem unRegister_cases {app app' : Application} {caller : Caller} {ipc : Ipc} {eventFlag : UInt32}
    {listener : Nat} {code : ErrorCode} {after : Service} (same : caller = callers pid)
    (called : app.unRegisterImeEventListener caller pid ipc eventFlag listener s.service =
      (code, app', after)) :
    (eventFlag = 0 ∧ app' = app ∧ after = s.service) ∨
      (eventFlag ≠ 0 ∧
        app' = { app with
          eventFlag := currentEventFlag (eraseAll (eventFlag &&& allEventMask) listener app.listeners).1
          listeners := (eraseAll (eventFlag &&& allEventMask) listener app.listeners).1 } ∧
        Sent callers pid (currentEventFlag
          (eraseAll (eventFlag &&& allEventMask) listener app.listeners).1)
          (eventFlag &&& allEventMask) s.service after) := by
  subst same
  unfold Application.unRegisterImeEventListener at called
  split at called
  · cases called
    exact .inl ⟨‹_›, rfl, rfl⟩
  · rename_i some
    dsimp only at called
    refine .inr ⟨some, ?_⟩
    cases sent : ({ app with
      listeners := (eraseAll (eventFlag &&& allEventMask) listener app.listeners).1 } :
        Application).updateListenEventFlag (callers pid) pid ipc
          (currentEventFlag (eraseAll (eventFlag &&& allEventMask) listener app.listeners).1)
          (eventFlag &&& allEventMask) false s.service with
    | mk reply left =>
        rw [sent] at called
        rcases updateListenEventFlag_cases sent with ⟨on, _⟩ | ⟨on, _⟩ | ⟨_, moved, ways⟩
        · cases on
        · cases on
        · dsimp only at called
          split at called
          · cases called
            exact ⟨moved, ways⟩
          · cases called
            exact ⟨moved, ways⟩

theorem restore_cases {app app' : Application} {caller : Caller} {ipc : Ipc} {service after : Service}
    (same : caller = callers pid)
    (called : app.restoreListenTask caller pid ipc service = (app', after)) :
    (app'.eventFlag = app.eventFlag ∧ app'.listeners = app.listeners ∧ app'.dead = app.dead) ∧
      (after = service ∨ after = service.take callers pid app.eventFlag) := by
  subst same
  unfold Application.restoreListenTask at called
  split at called
  · cases called
    exact ⟨⟨rfl, rfl, rfl⟩, .inl rfl⟩
  · dsimp only at called
    split at called
    · cases called
      exact ⟨⟨rfl, rfl, rfl⟩, .inl rfl⟩
    · split at called
      · cases called
        exact ⟨⟨rfl, rfl, rfl⟩, .inl rfl⟩
      · cases sent : transact (callers pid) pid ipc app.eventFlag 0 service with
        | mk reply left =>
            rw [sent] at called
            have ways := (transact_cases sent).imp And.left And.left
            cases called
            refine ⟨?_, ways⟩
            split <;> exact ⟨rfl, rfl, rfl⟩

theorem AppSound.on_current {caller : Caller} {app : Application} (own : AppSound caller app)
    {event : ImeEvent} :
    On (currentEventFlag app.listeners) event ↔ On app.eventFlag event :=
  (on_currentEventFlag own.kept).trans (own.flag event).symm

theorem AppSound.registered {caller : Caller} {app : Application} (own : AppSound caller app)
    {eventFlag : UInt32} (permitted : Permitted caller eventFlag) (listener : Nat) :
    AppSound caller { app with
      eventFlag := currentEventFlag app.listeners ||| eventFlag
      listeners := insertAll eventFlag listener app.listeners } where
  kept := insertAll_kept own.kept
  permitted := (own.permitted.of_le fun _ on => own.on_current.1 on).or permitted
  flag event := by
    rw [on_or, on_currentEventFlag own.kept, getListeners_insertAll]
    by_cases on : On eventFlag event
    · by_cases there : listener ∈ getListeners app.listeners event.mask
      · simp [on, there, List.ne_nil_of_mem there]
      · simp [on, there]
    · simp [on]

theorem getListeners_erased {listeners : Listeners} {eventFlag : UInt32} {listener : Nat}
    {event : ImeEvent}
    (some : getListeners (eraseAll eventFlag listener listeners).1 event.mask ≠ []) :
    getListeners listeners event.mask ≠ [] := by
  rw [getListeners_eraseAll] at some
  split at some
  · intro none
    rw [none] at some
    exact some rfl
  · exact some

/-- What is taken away leaves no bit that was not there. -/
theorem AppSound.erased_le {caller : Caller} {app : Application} (own : AppSound caller app)
    {eventFlag : UInt32} {listener : Nat} {event : ImeEvent}
    (on : On (currentEventFlag (eraseAll eventFlag listener app.listeners).1) event) :
    On app.eventFlag event :=
  (own.flag event).2 (getListeners_erased ((on_currentEventFlag (eraseAll_kept own.kept)).1 on))

theorem AppSound.erased {caller : Caller} {app : Application} (own : AppSound caller app)
    (eventFlag : UInt32) (listener : Nat) :
    AppSound caller { app with
      eventFlag := currentEventFlag (eraseAll eventFlag listener app.listeners).1
      listeners := (eraseAll eventFlag listener app.listeners).1 } where
  kept := eraseAll_kept own.kept
  permitted := own.permitted.of_le fun _ on => own.erased_le on
  flag _ := on_currentEventFlag (eraseAll_kept own.kept)

theorem AppSound.same {caller : Caller} {app app' : Application} (own : AppSound caller app)
    (flag : app'.eventFlag = app.eventFlag) (listeners : app'.listeners = app.listeners) :
    AppSound caller app' where
  kept := listeners ▸ own.kept
  permitted := flag ▸ own.permitted
  flag event := by
    rw [flag, listeners]
    exact own.flag event

theorem Inv.register (inv : Inv callers s) (ipc : Ipc) (eventFlag : UInt32) (listener : Nat) :
    Inv callers (step callers s (.register pid ipc eventFlag listener)) := by
  have own := inv.apps pid
  dsimp only [step]
  split
  · exact inv
  · cases called : (s.apps pid).registerImeEventListener
      (callers pid) pid ipc eventFlag listener s.service with
    | mk code left =>
        have old : Permitted (callers pid) (currentEventFlag (s.apps pid).listeners) :=
          own.permitted.of_le fun _ on => own.on_current.1 on
        rcases register_cases rfl called with
          ⟨_, moved, same | ⟨taken, permitted⟩⟩ | ⟨_, moved, taken, permitted⟩
        · refine inv.move 0 ?_ ?_ (.inl ⟨same, ?_⟩)
          · rw [moved]
            exact own
          · rw [moved]
            exact id
          · rw [moved]
            exact fun _ => id
        · refine inv.move _ ?_ ?_ (.inr ⟨taken, old.or permitted, ?_⟩)
          · rw [moved]
            exact own
          · rw [moved]
            exact id
          · rw [moved]
            exact fun _ on => on_or.2 (.inl (own.on_current.2 on))
        · refine inv.move _ ?_ ?_ (.inr ⟨taken, old.or permitted, ?_⟩)
          · rw [moved]
            exact own.registered permitted listener
          · rw [moved]
            exact id
          · rw [moved]
            exact fun _ => id

theorem Inv.unRegister (inv : Inv callers s) (ipc : Ipc) (eventFlag : UInt32) (listener : Nat) :
    Inv callers (step callers s (.unRegister pid ipc eventFlag listener)) := by
  have own := inv.apps pid
  dsimp only [step]
  split
  · exact inv
  · cases called : (s.apps pid).unRegisterImeEventListener
      (callers pid) pid ipc eventFlag listener s.service with
    | mk code left =>
        have smaller := own.erased (eventFlag &&& allEventMask) listener
        rcases unRegister_cases rfl called with ⟨_, moved, same⟩ | ⟨_, moved, same | ⟨taken, _⟩⟩
        · refine inv.move 0 ?_ ?_ (.inl ⟨same, ?_⟩)
          · rw [moved]
            exact own
          · rw [moved]
            exact id
          · rw [moved]
            exact fun _ => id
        · refine inv.move 0 ?_ ?_ (.inl ⟨same, ?_⟩)
          · rw [moved]
            exact smaller
          · rw [moved]
            exact id
          · rw [moved]
            exact fun _ on => own.erased_le on
        · refine inv.move _ ?_ ?_ (.inr ⟨taken, smaller.permitted, ?_⟩)
          · rw [moved]
            exact smaller
          · rw [moved]
            exact id
          · rw [moved]
            exact fun _ => id

theorem Inv.restoreTask (inv : Inv callers s) (ipc : Ipc) :
    Inv callers (step callers s (.restoreTask pid ipc)) := by
  have own := inv.apps pid
  dsimp only [step]
  split
  · exact inv
  · cases called : (s.apps pid).restoreListenTask (callers pid) pid ipc s.service with
    | mk app left =>
        obtain ⟨⟨flag, listeners, dead⟩, ways⟩ := restore_cases rfl called
        refine inv.move _ (own.same flag listeners) (fun living => dead ▸ living)
          (ways.imp (fun same => ⟨same, fun _ on => ?_⟩) fun taken =>
            ⟨taken, own.permitted, fun _ on => ?_⟩)
        · rwa [flag] at on
        · rwa [flag] at on

theorem restoreListenInfoInSaDied_same (app : Application) :
    app.restoreListenInfoInSaDied.eventFlag = app.eventFlag ∧
      app.restoreListenInfoInSaDied.listeners = app.listeners ∧
        app.restoreListenInfoInSaDied.dead = app.dead := by
  unfold Application.restoreListenInfoInSaDied
  split <;> exact ⟨rfl, rfl, rfl⟩

/-- Every step keeps the invariant. -/
theorem Inv.step (inv : Inv callers s) (e : Event) : Inv callers (step callers s e) := by
  cases e with
  | register pid ipc eventFlag listener => exact inv.register ipc eventFlag listener
  | unRegister pid ipc eventFlag listener => exact inv.unRegister ipc eventFlag listener
  | serviceRestarts => exact ⟨sound_empty callers, inv.apps, fun _ _ => nofun, nofun⟩
  | serviceStarted pid =>
      dsimp only [Events.step]
      split
      · exact inv
      · obtain ⟨flag, listeners, dead⟩ := restoreListenInfoInSaDied_same (s.apps pid)
        refine inv.move 0 ((inv.apps pid).same flag listeners) (fun living => dead ▸ living)
          (.inl ⟨rfl, fun _ on => ?_⟩)
        rwa [flag] at on
  | restoreTask pid ipc => exact inv.restoreTask ipc
  | applicationDies pid =>
      refine inv.move 0 ((inv.apps pid).same rfl rfl) nofun (.inl ⟨rfl, fun _ => id⟩)
  | listenerDied pid =>
      dsimp only [Events.step]
      split
      · rename_i dead
        refine ⟨inv.sound.died pid, inv.apps,
          fun n living told event on => ?_, fun n listener found => ?_⟩
        · have other : n ≠ pid := by
            rintro rfl
            rw [dead] at living
            cases living
          obtain ⟨listener, found, has⟩ := inv.covered n living told event on
          exact ⟨listener, by rw [entryOf_died inv.sound other]; exact found, has⟩
        · exact inv.entries n listener (entryOf_of_died inv.sound found)
      · exact inv

end Invariant

/-! ## What a listener asked for -/

section Subscribed

variable (callers : Nat → Caller) (pid listener : Nat) (event : ImeEvent)

/-- A registration for the event that said `NO_ERROR`. -/
def registers (s : System) : Event → Prop
  | .register p ipc eventFlag l =>
      p = pid ∧ l = listener ∧ (s.apps p).dead = false ∧ On eventFlag event ∧
        ((s.apps p).registerImeEventListener (callers p) p ipc eventFlag l s.service).1 = .noError
  | _ => False

/-- The listener is not removed, whatever the removal says, and its application lives on. -/
def staysRegistered : Event → Prop
  | .unRegister p _ eventFlag l => ¬ (p = pid ∧ l = listener ∧ On eventFlag event)
  | .applicationDies p => p ≠ pid
  | _ => True

/-- The listener was registered for the event and has not been removed since. -/
def Subscribed (es : List Event) : Prop :=
  Since (step callers) (registers callers pid listener event)
    (staysRegistered pid listener event) System.init es

/-- The application lives and would call the listener. -/
def Listens (s : System) : Prop :=
  (s.apps pid).dead = false ∧ listener ∈ getListeners (s.apps pid).listeners event.mask

variable {callers pid listener event} {s : System}

theorem listens_set {p : Nat} {app : Application} {after : Service} :
    Listens pid listener event (s.set p app after) ↔
      if p = pid then app.dead = false ∧ listener ∈ getListeners app.listeners event.mask
      else Listens pid listener event s := by
  unfold Listens System.set
  dsimp only
  by_cases same : p = pid
  · subst same
    simp
  · have other : ¬ pid = p := fun equal => same equal.symm
    simp [same, other]

/-- What moves neither the listeners nor the life of an application is not heard. -/
theorem listens_same {p : Nat} {app : Application} {after : Service}
    (listeners : app.listeners = (s.apps p).listeners) (dead : app.dead = (s.apps p).dead) :
    Listens pid listener event (s.set p app after) ↔ Listens pid listener event s := by
  rw [listens_set, listeners, dead]
  split
  · rename_i same
    rw [same]
    rfl
  · rfl

theorem listens_register (ipc : Ipc) (eventFlag : UInt32) (p l : Nat) :
    Listens pid listener event (step callers s (.register p ipc eventFlag l)) ↔
      registers callers pid listener event s (.register p ipc eventFlag l) ∨
        Listens pid listener event s := by
  dsimp only [step, registers]
  split
  · rename_i dead
    constructor
    · exact .inr
    · rintro (⟨rfl, -, living, -⟩ | listens)
      · rw [living] at dead
        cases dead
      · exact listens
  · rename_i living
    rw [Bool.not_eq_true] at living
    cases called : (s.apps p).registerImeEventListener (callers p) p ipc eventFlag l s.service with
    | mk code left =>
        rw [listens_set]
        by_cases same : p = pid
        · subst same
          rw [if_pos rfl]
          rcases register_cases rfl called with ⟨failed, moved, _⟩ | ⟨ok, moved, _⟩
          · rw [show left.1 = s.apps p from moved]
            simp [failed, Listens]
          · rw [show left.1 = _ from moved]
            simp only [mem_getListeners_insertAll, on_and, on_allEventMask, and_true, Listens,
              living, ok, true_and]
            rw [and_comm, @eq_comm _ listener]
        · simp [same]

theorem listens_unRegister (inv : Inv callers s) (ipc : Ipc) (eventFlag : UInt32) (p l : Nat) :
    Listens pid listener event (step callers s (.unRegister p ipc eventFlag l)) ↔
      Listens pid listener event s ∧ ¬ (p = pid ∧ l = listener ∧ On eventFlag event) := by
  dsimp only [step]
  split
  · rename_i dead
    refine (and_iff_left_of_imp fun listens => ?_).symm
    rintro ⟨rfl, -⟩
    rw [listens.1] at dead
    cases dead
  · cases called : (s.apps p).unRegisterImeEventListener (callers p) p ipc eventFlag l s.service with
    | mk code left =>
        rw [listens_set]
        by_cases same : p = pid
        · subst same
          rw [if_pos rfl]
          rcases unRegister_cases rfl called with ⟨zero, moved, _⟩ | ⟨_, moved, _⟩
          · rw [show left.1 = s.apps p from moved, zero]
            simp [Listens]
          · rw [show left.1 = _ from moved]
            simp only [mem_getListeners_eraseAll (inv.apps p).kept, on_and, on_allEventMask,
              and_true, Listens, true_and]
            rw [@eq_comm _ listener]
            tauto
        · simp [same]

/-- A step begins or goes on with what the history says. -/
theorem listens_step (inv : Inv callers s) (e : Event) :
    Listens pid listener event (step callers s e) ↔
      registers callers pid listener event s e ∨
        (Listens pid listener event s ∧ staysRegistered pid listener event e) := by
  cases e with
  | register p ipc eventFlag l =>
      rw [listens_register]
      simp [staysRegistered]
  | unRegister p ipc eventFlag l =>
      rw [listens_unRegister inv]
      simp [registers, staysRegistered]
  | serviceRestarts => simp [registers, staysRegistered, step, Listens]
  | serviceStarted p =>
      dsimp only [step]
      split
      · simp [registers, staysRegistered]
      · obtain ⟨-, listeners, dead⟩ := restoreListenInfoInSaDied_same (s.apps p)
        simp only [registers, staysRegistered, false_or, and_true]
        exact listens_same listeners dead
  | restoreTask p ipc =>
      dsimp only [step]
      split
      · simp [registers, staysRegistered]
      · cases called : (s.apps p).restoreListenTask (callers p) p ipc s.service with
        | mk app left =>
            obtain ⟨⟨-, listeners, dead⟩, -⟩ := restore_cases rfl called
            simp only [registers, staysRegistered, false_or, and_true]
            exact listens_same listeners dead
  | applicationDies p =>
      dsimp only [step]
      rw [listens_set]
      by_cases same : p = pid
      · simp [same, registers, staysRegistered]
      · simp [same, registers, staysRegistered]
  | listenerDied p =>
      dsimp only [step]
      split <;> simp [registers, staysRegistered, Listens]

theorem not_listens_init : ¬ Listens pid listener event System.init := fun listens => nomatch listens.2

/-- An application calls the listeners that asked. -/
theorem listens_iff_subscribed (es : List Event) :
    Listens pid listener event (run (step callers) System.init es) ↔
      Subscribed callers pid listener event es :=
  run_iff_since (fun _ e inv => Inv.step inv e)
    (fun _ e inv => listens_step inv e) Inv.init not_listens_init es

end Subscribed

/-! ## Every run -/

section Runs

variable (callers : Nat → Caller)

theorem run_inv (es : List Event) : Inv callers (run (step callers) System.init es) :=
  run_always (P := Inv callers) (fun _ e inv => Inv.step inv e) Inv.init es

theorem mem_heard {s : System} {userId : Int32} {notification : Notification} {pid listener : Nat} :
    (pid, listener) ∈ heard s userId notification ↔
      pid ∈ notification.send s.service.registry userId ∧
        Listens pid listener notification.event s := by
  unfold heard Listens
  simp only [List.mem_flatMap]
  constructor
  · rintro ⟨p, called, inside⟩
    split at inside
    · cases inside
    · rename_i living
      obtain ⟨l, there, same⟩ := List.mem_map.1 inside
      cases same
      exact ⟨called, Bool.eq_false_iff.2 living, there⟩
  · rintro ⟨called, living, there⟩
    refine ⟨pid, called, ?_⟩
    rw [living]
    exact List.mem_map.2 ⟨listener, there, rfl⟩

/-- A subscribed listener is called once the service that runs has taken an update of its process. -/
theorem heard_of_told {es : List Event} {pid listener : Nat} {userId : Int32}
    {notification : Notification}
    (subscribed : Subscribed callers pid listener notification.event es)
    (user : (callers pid).userId = userId ∨ (callers pid).userId = 0)
    (told : (run (step callers) System.init es).service.told pid = true) :
    (pid, listener) ∈ heard (run (step callers) System.init es) userId notification := by
  have inv := run_inv callers es
  have listens := (listens_iff_subscribed es).2 subscribed
  refine mem_heard.2 ⟨(mem_send inv.sound).2 ⟨user, inv.covered pid listens.1 told _ ?_⟩, listens⟩
  exact ((inv.apps pid).flag _).2 (List.ne_nil_of_mem listens.2)

/-- **Exactly those that asked hear of an event, once.**  After every run a notification of a user
calls no listener twice, and only listeners that are subscribed, of processes of that user or of user 0;
and it calls every one of them in a process of which the service that runs has taken an update. -/
theorem heard_exactly (es : List Event) (userId : Int32) (notification : Notification) :
    (heard (run (step callers) System.init es) userId notification).Nodup ∧
      (∀ pid listener, (pid, listener) ∈ heard (run (step callers) System.init es) userId notification →
        Subscribed callers pid listener notification.event es ∧
          ((callers pid).userId = userId ∨ (callers pid).userId = 0)) ∧
      ∀ pid listener, Subscribed callers pid listener notification.event es →
        ((callers pid).userId = userId ∨ (callers pid).userId = 0) →
        (run (step callers) System.init es).service.told pid = true →
        (pid, listener) ∈ heard (run (step callers) System.init es) userId notification := by
  have inv := run_inv callers es
  refine ⟨?_, ?_, ?_⟩
  · unfold heard
    refine List.nodup_flatMap.2 ⟨fun pid _ => ?_, ?_⟩
    · split
      · exact List.nodup_nil
      · exact ((inv.apps pid).kept.once _).map fun _ _ same => (Prod.mk.inj same).2
    · refine (send_nodup inv.sound notification userId).imp fun {p q} differ => ?_
      intro call first second
      have own : ∀ n, call ∈ (if ((run (step callers) System.init es).apps n).dead = true then [] else
          (getListeners ((run (step callers) System.init es).apps n).listeners
            notification.event.mask).map
            fun listener => (n, listener)) → call.1 = n := by
        intro n inside
        split at inside
        · cases inside
        · obtain ⟨_, _, rfl⟩ := List.mem_map.1 inside
          rfl
      exact differ ((own p first).symm.trans (own q second))
  · intro pid listener inside
    obtain ⟨called, listens⟩ := mem_heard.1 inside
    exact ⟨(listens_iff_subscribed es).1 listens, ((mem_send inv.sound).1 called).1⟩
  · exact fun pid listener subscribed user told => heard_of_told callers subscribed user told

/-- **Nobody is called without permission.**  After every run the list of a user holds one entry a
process, of processes of that user alone, and no user is left with an empty list; and no
notification but that of a changed input method calls a process that is neither a system application
nor a native service. -/
theorem called_permitted (es : List Event) :
    Sound callers (run (step callers) System.init es).service.registry ∧
      ∀ pid userId (notification : Notification),
        pid ∈ notification.send (run (step callers) System.init es).service.registry userId →
          (callers pid).isSystemApp = true ∨ (callers pid).isNativeSa = true ∨
            notification = .imeChange := by
  have inv := run_inv callers es
  refine ⟨inv.sound, fun pid userId notification called => ?_⟩
  obtain ⟨listener, found, on⟩ := ((mem_send inv.sound).1 called).2
  refine (inv.entries pid listener found).imp id (Or.imp id fun only => ?_)
  have change := only _ on
  cases notification with
  | imeChange => rfl
  | panelStatusChange status => cases status <;> cases change
  | _ => cases change

/-! ## After a restart -/

/-- Events that leave a restored application be. -/
def undisturbed (pid : Nat) : Event → Prop
  | .serviceRestarts => False
  | .applicationDies p => p ≠ pid
  | _ => True

def isRestoreTask (pid : Nat) : Event → Bool
  | .restoreTask p _ => p = pid
  | _ => false

/-- The service is told, or so many tasks are left that will tell it. -/
def Restoring (pid : Nat) (left : Nat) (app : Application) (service : Service) : Prop :=
  app.dead = false ∧
    (service.told pid = true ∨ (app.isDiedRestoreListen = false ∧ left ≤ app.restoreTasks))

variable {callers} {pid : Nat} {s : System}

theorem told_take {p n : Nat} {final : UInt32} {service : Service} (told : service.told n = true) :
    (service.take callers p final).told n = true := by
  show (service.told n || decide (n = p)) = true
  rw [told, Bool.true_or]

theorem told_take_self {final : UInt32} {service : Service} :
    (service.take callers pid final).told pid = true := by
  simp [Service.take]

theorem Sent.told {p n : Nat} {final flag : UInt32} {service after : Service}
    (sent : Sent callers p final flag service after)
    (told : service.told n = true) : after.told n = true := by
  rcases sent with rfl | ⟨rfl, _⟩
  · exact told
  · exact told_take told

theorem Restoring.keep {left : Nat} {app app' : Application} {service after : Service}
    (restoring : Restoring pid left app service)
    (told : service.told pid = true → after.told pid = true)
    (dead : app'.dead = app.dead) (died : app'.isDiedRestoreListen = app.isDiedRestoreListen)
    (tasks : app'.restoreTasks = app.restoreTasks) : Restoring pid left app' after := by
  unfold Restoring
  rw [dead, died, tasks]
  exact ⟨restoring.1, restoring.2.imp told id⟩

theorem restoring_set {left p : Nat} {app : Application} {after : Service}
    (restoring : Restoring pid left (s.apps pid) s.service)
    (told : s.service.told pid = true → after.told pid = true)
    (own : p = pid → Restoring pid left app after) :
    Restoring pid left ((s.set p app after).apps pid) (s.set p app after).service := by
  unfold System.set
  dsimp only
  split
  · rename_i same
    exact own same.symm
  · exact restoring.keep told rfl rfl rfl

theorem told_restore {p n : Nat} {app : Application} {ipc : Ipc} {service : Service}
    (told : service.told n = true) :
    (app.restoreListenTask (callers p) p ipc service).2.told n = true := by
  cases called : app.restoreListenTask (callers p) p ipc service with
  | mk left after =>
      rcases (restore_cases rfl called).2 with rfl | rfl
      · exact told
      · exact told_take told

variable (callers) in
/-- A task of the application uses up one of those left. -/
theorem restoring_task {left : Nat} {app : Application} {service : Service}
    (restoring : Restoring pid left app service)
    (ipc : Ipc) : Restoring pid (left - 1) (app.restoreListenTask (callers pid) pid ipc service).1
      (app.restoreListenTask (callers pid) pid ipc service).2 := by
  obtain ⟨living, ways⟩ := restoring
  unfold Application.restoreListenTask
  split
  · rename_i none
    exact ⟨living, ways.imp id fun waiting => ⟨waiting.1, by omega⟩⟩
  · dsimp only
    have waits : service.told pid = true ∨
      (app.isDiedRestoreListen = false ∧ left - 1 ≤ app.restoreTasks - 1) :=
      ways.imp id fun waiting => ⟨waiting.1, by omega⟩
    split
    · exact ⟨living, waits⟩
    · split
      · exact ⟨living, waits⟩
      · cases sent : transact (callers pid) pid ipc app.eventFlag 0 service with
        | mk reply after =>
            rcases transact_cases sent with ⟨rfl, failed, _⟩ | ⟨rfl, _⟩
            · dsimp only
              rw [if_neg failed]
              exact ⟨living, waits⟩
            · refine ⟨?_, .inl told_take_self⟩
              dsimp only
              split <;> exact living

/-- A task that gets through tells the service. -/
theorem told_of_task {app : Application} {service : Service}
    (restoring : Restoring pid 1 app service) {ipc : Ipc}
    (found : ipc.found = true) (delivered : ipc.delivered = true) :
    (app.restoreListenTask (callers pid) pid ipc service).2.told pid = true := by
  rcases restoring.2 with told | ⟨died, some⟩
  · exact told_restore told
  · unfold Application.restoreListenTask
    rw [if_neg (Nat.ne_of_gt some)]
    dsimp only
    rw [died, if_neg Bool.false_ne_true, found, if_neg (by decide)]
    cases sent : transact (callers pid) pid ipc app.eventFlag 0 service with
    | mk reply after =>
        rcases transact_cases sent with ⟨_, _, refused⟩ | ⟨rfl, _⟩
        · exact absurd (permitted_zero _) (refused delivered)
        · exact told_take_self

variable (callers) in
/-- Nothing but a task of the application uses up those left. -/
theorem restoring_step {left : Nat} (restoring : Restoring pid left (s.apps pid) s.service) (e : Event)
    (calm : undisturbed pid e) :
    Restoring pid (left - if isRestoreTask pid e then 1 else 0) ((step callers s e).apps pid)
      (step callers s e).service := by
  cases e with
  | register p ipc eventFlag listener =>
      show Restoring pid left _ _
      dsimp only [step]
      split
      · exact restoring
      · cases called : (s.apps p).registerImeEventListener
          (callers p) p ipc eventFlag listener s.service with
        | mk code rest =>
            rcases register_cases rfl called with ⟨_, moved, sent⟩ | ⟨_, moved, taken, _⟩
            · refine restoring_set restoring sent.told fun same => ?_
              subst same
              refine restoring.keep sent.told ?_ ?_ ?_ <;> rw [show rest.1 = _ from moved]
            · have told : s.service.told pid = true → rest.2.told pid = true := by
                rw [show rest.2 = _ from taken]
                exact told_take
              refine restoring_set restoring told fun same => ?_
              subst same
              refine restoring.keep told ?_ ?_ ?_ <;> rw [show rest.1 = _ from moved]
  | unRegister p ipc eventFlag listener =>
      show Restoring pid left _ _
      dsimp only [step]
      split
      · exact restoring
      · cases called : (s.apps p).unRegisterImeEventListener
          (callers p) p ipc eventFlag listener s.service with
        | mk code rest =>
            rcases unRegister_cases rfl called with ⟨_, moved, same⟩ | ⟨_, moved, sent⟩
            · have told : s.service.told pid = true → rest.2.told pid = true := by
                rw [show rest.2 = _ from same]
                exact id
              refine restoring_set restoring told fun same => ?_
              subst same
              refine restoring.keep told ?_ ?_ ?_ <;> rw [show rest.1 = _ from moved]
            · refine restoring_set restoring sent.told fun same => ?_
              subst same
              refine restoring.keep sent.told ?_ ?_ ?_ <;> rw [show rest.1 = _ from moved]
  | serviceRestarts => exact calm.elim
  | serviceStarted p =>
      show Restoring pid left _ _
      dsimp only [step]
      split
      · exact restoring
      · refine restoring_set restoring id fun same => ?_
        subst same
        unfold Application.restoreListenInfoInSaDied
        split
        · exact restoring
        · exact ⟨restoring.1, restoring.2.imp id fun waiting => ⟨rfl, Nat.le_add_right_of_le waiting.2⟩⟩
  | restoreTask p ipc =>
      by_cases same : p = pid
      · subst same
        rw [isRestoreTask, if_pos (decide_eq_true rfl)]
        dsimp only [step]
        rw [restoring.1, if_neg Bool.false_ne_true]
        unfold System.set
        dsimp only
        rw [if_pos rfl]
        exact restoring_task callers restoring ipc
      · rw [isRestoreTask, if_neg (by simpa using same)]
        show Restoring pid left _ _
        dsimp only [step]
        split
        · exact restoring
        · exact restoring_set restoring told_restore fun equal => absurd equal same
  | applicationDies p => exact restoring_set restoring id fun same => absurd same calm
  | listenerDied p =>
      show Restoring pid left _ _
      dsimp only [step]
      split
      · exact restoring
      · exact restoring

variable (callers) in
theorem restoring_run {left : Nat} {s : System}
    (restoring : Restoring pid left (s.apps pid) s.service) (es : List Event)
    (calm : ∀ e ∈ es, undisturbed pid e) :
    Restoring pid (left - es.countP (isRestoreTask pid)) ((run (step callers) s es).apps pid)
      (run (step callers) s es).service := by
  induction es generalizing left s with
  | nil => exact restoring
  | cons e es ih =>
      have first := restoring_step callers restoring e (calm e List.mem_cons_self)
      have rest := ih first fun later inside => calm later (List.mem_cons_of_mem _ inside)
      rw [Nat.sub_sub, Nat.add_comm, ← List.countP_cons] at rest
      exact rest

theorem told_again (s : System) (before : List Event) (ipc : Ipc) (living : (s.apps pid).dead = false)
    (listens : (s.apps pid).eventFlag ≠ 0) (calm : ∀ e ∈ before, undisturbed pid e)
    (few : before.countP (isRestoreTask pid) < loopCount) (found : ipc.found = true)
    (delivered : ipc.delivered = true) :
    (run (step callers) s (.serviceStarted pid :: before ++ [.restoreTask pid ipc])).service.told
      pid = true := by
  have posted : Restoring pid loopCount ((step callers s (.serviceStarted pid)).apps pid)
      (step callers s (.serviceStarted pid)).service := by
    dsimp only [step]
    rw [living, if_neg Bool.false_ne_true]
    unfold System.set Application.restoreListenInfoInSaDied
    rw [if_neg listens]
    exact ⟨by simp [living], .inr (by simp)⟩
  have waiting := restoring_run callers posted before calm
  have one : Restoring pid 1
    ((run (step callers) (step callers s (.serviceStarted pid)) before).apps pid)
      (run (step callers) (step callers s (.serviceStarted pid)) before).service :=
    ⟨waiting.1, waiting.2.imp id (And.imp id fun enough => by omega)⟩
  rw [List.cons_append, run_cons, run_append, run_cons, run_nil]
  generalize run (step callers) (step callers s (.serviceStarted pid)) before = t at one ⊢
  dsimp only [step]
  rw [one.1, if_neg Bool.false_ne_true]
  exact told_of_task one found delivered

/-- **Who listened before a restart is heard of after it.**  Once the start of the service has
reached an application that listens, one of its five tasks that gets through is enough, whatever
else goes on, unless the service restarts again or the application dies: the service knows the
application, and in a run from the start it calls every listener of it that is subscribed. -/
theorem restored (s : System) (before : List Event) (ipc : Ipc) (living : (s.apps pid).dead = false)
    (listens : (s.apps pid).eventFlag ≠ 0) (calm : ∀ e ∈ before, undisturbed pid e)
    (few : before.countP (isRestoreTask pid) < loopCount) (found : ipc.found = true)
    (delivered : ipc.delivered = true) :
    (run (step callers) s (.serviceStarted pid :: before ++ [.restoreTask pid ipc])).service.told
      pid = true ∧
      ∀ es, s = run (step callers) System.init es → ∀ listener userId (notification : Notification),
        ((callers pid).userId = userId ∨ (callers pid).userId = 0) →
        Subscribed callers pid listener notification.event
          (es ++ .serviceStarted pid :: before ++ [.restoreTask pid ipc]) →
        (pid, listener) ∈ heard (run (step callers) System.init
          (es ++ .serviceStarted pid :: before ++ [.restoreTask pid ipc])) userId notification := by
  have again : (run (step callers) s
    (.serviceStarted pid :: before ++ [.restoreTask pid ipc])).service.told pid =
      true := told_again s before ipc living listens calm few found delivered
  refine ⟨again, fun es reached listener userId notification user subscribed => ?_⟩
  refine heard_of_told callers subscribed user ?_
  rw [List.append_assoc, run_append, ← reached]
  exact again

end Runs

/-! ## Poles

A system application of user 100 listens for the panel; the service restarts, and it is heard of
again. -/

def systemApp : Caller := ⟨100, true, false⟩

def through : Ipc := ⟨true, true, true, true⟩

def asked : List Event := [.register 7 through 2 3]

def restarted : System := run (step fun _ => systemApp) System.init (asked ++ [.serviceRestarts])

theorem heard_by_the_one_who_asked :
    (7, 3) ∈ heard (run (step fun _ => systemApp) System.init asked) 100 (.panelStatusChange .show) :=
  (heard_exactly (fun _ => systemApp) asked 100 (.panelStatusChange .show)).2.2 7 3
    ⟨[], _, [], rfl, ⟨rfl, rfl, rfl, by decide, by decide⟩, nofun⟩ (.inl rfl) (by decide)

/-- The reply to the first task is lost with the call. -/
def retried : List Event :=
  [.serviceStarted 7, .restoreTask 7 ⟨true, true, false, false⟩, .restoreTask 7 through]

theorem restored_by_the_second_task :
    (run (step fun _ => systemApp) restarted retried).service.told 7 = true ∧
      (7, 3) ∈ heard (run (step fun _ => systemApp) System.init
        (asked ++ [.serviceRestarts] ++ retried)) 100
        (.panelStatusChange .show) := by
  have again := @restored (fun _ => systemApp) 7 restarted
    [.restoreTask 7 ⟨true, true, false, false⟩] through (by decide) (by decide)
    (fun e inside => by
      rw [List.mem_singleton.1 inside]
      trivial) (by decide) rfl rfl
  have reached : restarted = run (step fun _ => systemApp) System.init
    (asked ++ [.serviceRestarts]) := rfl
  have subscribed : Subscribed (fun _ => systemApp) 7 3
      (Notification.panelStatusChange .show).event (asked ++ [.serviceRestarts] ++ retried) := by
    refine ⟨[], .register 7 through 2 3, .serviceRestarts :: retried, rfl,
      ⟨rfl, rfl, rfl, by decide, by decide⟩, ?_⟩
    simp [retried, staysRegistered]
  have called := again.2 (asked ++ [.serviceRestarts]) reached 3 100 (.panelStatusChange .show)
    (.inl rfl) subscribed
  have told := again.1
  constructor
  · exact told
  · exact called

/-- Before its start has reached the application, the new service tells it nothing. -/
example : heard restarted 100 (.panelStatusChange .show) = [] := by decide

end Imf.Events
