/-
# Imf.Session.Startup -- the services around start in any order

The service asks the account service which users there are and has their windows watched by the window
service.  All three start, die and start again in any order, and what the service hears of the other two
comes as a message to its work thread, some time after it has happened, while users come and go.

`served_when_quiet` is what holds in every order: once both services run and no message is on its way,
every user in the foreground has a session and watched windows.
-/
import Mathlib.Data.List.Perm.Basic
import Mathlib.Tactic.Tauto
import Imf.Lib.Run

namespace Imf.Startup

set_option autoImplicit false

open Lib (Meets run run_keeps)

/-! ## The service -/

/-- `START_USER_ID`. -/
def START_USER_ID : Int32 := 100

/-- `MAIN_USER_ID`, the answer of the account adapter when it gets none. -/
def MAIN_USER_ID : Int32 := 100

/-- The listeners that the window manager is given for a user. -/
inductive Monitor where
  | focusChanged
  | displayGroup
  | wmsConnection
  | windowDisplayChanged
  deriving DecidableEq

/-- The messages of the work thread about services and users. -/
inductive Message where
  | osAccountStarted
  | wmsStarted
  | userSwitched (fromUserId toUserId : Int32)
  | userRemoved (userId : Int32)
  deriving DecidableEq

/-- What the work thread is answered while it handles a message: `SubscribeOsAccount`, the two
queries of the accounts in the foreground, and the registrations. -/
structure Scene where
  subscribed : Bool := true
  idsKnown : Bool := true
  accountsKnown : Bool := true
  registers : Int32 → Monitor → Bool := fun _ _ => true

/-- The account service, with how many listeners of this service it has, and the window service. -/
structure Platform where
  accountReady : Bool := false
  windowReady : Bool := false
  listeners : Nat := 0
  foreground : List Int32 := []

/-- `GetForegroundOsAccountIds` and `GetForegroundOsAccounts`. -/
def Platform.getForegroundOsAccountIds (platform : Platform) (known : Bool) : List Int32 :=
  if platform.accountReady && known then platform.foreground else [MAIN_USER_ID]

/-- A process of the service.  `tasks`: the registrations that are to be tried once more.  The last
three are what it logs: the registrations that got through, those given up, and the results of
`InitWindowMonitors`. -/
structure Service where
  messages : List Message := []
  waitAccountReadyToInit : Bool := false
  isAccountSaFirstStart : Bool := true
  initedUserList : List Int32 := []
  userSessions : List Int32 := [START_USER_ID]
  tasks : List (Int32 × Monitor) := []
  registered : List (Int32 × Monitor) := []
  refused : List (Int32 × Monitor) := []
  passes : List (Int32 × Bool) := []

/-- The result of `InitWindowMonitors`. -/
def Scene.passes (scene : Scene) (userId : Int32) : Bool := scene.registers userId .windowDisplayChanged

namespace Service

variable (platform : Platform) (scene : Scene) (s : Service)

def addUserSession (userId : Int32) : Service :=
  if userId ∈ s.userSessions then s else { s with userSessions := s.userSessions ++ [userId] }

def removeUserSession (userId : Int32) : Service :=
  { s with userSessions := s.userSessions.filter (· ≠ userId) }

def setInited (userId : Int32) : Service := { s with initedUserList := userId :: s.initedUserList }

/-- `InitFocusChangedMonitor`, `InitDisplayGroupMonitor`, `InitWmsConnectionMonitor` and
`InitWindowDisplayChangedMonitor`: what fails is tried once more later, whatever comes of it. -/
def initMonitor (userId : Int32) (monitor : Monitor) : Bool × Service :=
  if scene.registers userId monitor then
    (true, { s with registered := s.registered ++ [(userId, monitor)] })
  else (false, { s with tasks := s.tasks ++ [(userId, monitor)] })

/-- `InitWindowMonitors`: the result is that of the last registration. -/
def initWindowMonitors (userId : Int32) : Bool × Service :=
  let s := (s.initMonitor scene userId .focusChanged).2
  let s := (s.initMonitor scene userId .displayGroup).2
  let s := (s.initMonitor scene userId .wmsConnection).2
  s.initMonitor scene userId .windowDisplayChanged

def logPass (userId : Int32) (ret : Bool) : Service := { s with passes := s.passes ++ [(userId, ret)] }

/-- What `InitAllUsersWindowMonitors` does with each user, and `HandleUserSwitchedIn` at its end. -/
def initUser (userId : Int32) : Service :=
  if userId ∈ s.initedUserList then s
  else
    let (ret, s) := s.initWindowMonitors scene userId
    let s := s.logPass userId ret
    if ret then s.setInited userId else s

def initAllUsersWindowMonitors : Service :=
  if !platform.accountReady then { s with waitAccountReadyToInit := true }
  else
    let s := { s with waitAccountReadyToInit := false }
    if !platform.windowReady then s
    else (platform.getForegroundOsAccountIds scene.idsKnown).foldl (initUser scene) s

/-- `HandleWmsStarted`. -/
def handleWmsStarted : Service := s.initAllUsersWindowMonitors platform scene

def handleOsAccountStarted : Service :=
  let s :=
    if !s.isAccountSaFirstStart || s.waitAccountReadyToInit then
      s.initAllUsersWindowMonitors platform scene
    else s
  let s := { s with isAccountSaFirstStart := false }
  (platform.getForegroundOsAccountIds scene.accountsKnown).foldl addUserSession s

def handleUserSwitchedIn (userId : Int32) : Service := (s.addUserSession userId).initUser scene userId

def onUserRemoved (userId : Int32) : Service := s.removeUserSession userId

/-- A turn of `WorkThread`. -/
def handle : Message → Service
  | .osAccountStarted => s.handleOsAccountStarted platform scene
  | .wmsStarted => s.handleWmsStarted platform scene
  | .userSwitched _ toUserId => s.handleUserSwitchedIn scene toUserId
  | .userRemoved userId => s.onUserRemoved userId

/-- The task posted by a failed registration: nothing is posted if it fails again. -/
def retry (i : Nat) (accepted : Bool) : Service :=
  match s.tasks[i]? with
  | none => s
  | some task =>
      let s := { s with tasks := s.tasks.eraseIdx i }
      if accepted then { s with registered := s.registered ++ [task] }
      else { s with refused := s.refused ++ [task] }

end Service

/-! ## The system -/

/-- `notices`: what the service is being told and has not queued yet. -/
structure System where
  platform : Platform := {}
  service : Service := {}
  notices : List Message := []

inductive Event where
  /-- The account service may or may not know its listeners again. -/
  | accountStarts (remembers : Bool)
  | accountStops
  | windowStarts
  | windowStops
  | userSwitches (fromUserId toUserId : Int32)
  | userIsRemoved (userId : Int32)
  /-- The `i`-th notice becomes a message. -/
  | arrives (i : Nat)
  | handles (scene : Scene)
  | retries (i : Nat) (accepted : Bool)
  /-- A new process, which subscribes to both services and hears of those that run already. -/
  | restarts

namespace System

variable (s : System)

/-- Each listener tells of a change. -/
def told (message : Message) : List Message := s.notices ++ List.replicate s.platform.listeners message

def switchUser (fromUserId toUserId : Int32) : System :=
  if s.platform.accountReady then
    { s with
      platform := { s.platform with
        foreground := toUserId :: s.platform.foreground.filter (· ≠ fromUserId) }
      notices := s.told (.userSwitched fromUserId toUserId) }
  else s

def removeUser (userId : Int32) : System :=
  if s.platform.accountReady ∧ userId ∉ s.platform.foreground then
    { s with notices := s.told (.userRemoved userId) }
  else s

def arrive (i : Nat) : System :=
  match s.notices[i]? with
  | none => s
  | some message =>
      { s with
        notices := s.notices.eraseIdx i
        service := { s.service with messages := s.service.messages ++ [message] } }

/-- `RegisterOsAccountStateListener` is the first thing `HandleOsAccountStarted` does. -/
def subscribe (scene : Scene) : Message → Platform
  | .osAccountStarted =>
      if s.platform.accountReady && scene.subscribed then
        { s.platform with listeners := s.platform.listeners + 1 }
      else s.platform
  | _ => s.platform

def turn (scene : Scene) : System :=
  match s.service.messages with
  | [] => s
  | message :: messages =>
      let platform := s.subscribe scene message
      { s with platform, service := { s.service with messages }.handle platform scene message }

def restart : System :=
  { s with
    service := {}
    platform := { s.platform with listeners := 0 }
    notices := (if s.platform.accountReady then [.osAccountStarted] else []) ++
      (if s.platform.windowReady then [.wmsStarted] else []) }

end System

def step (s : System) : Event → System
  | .accountStarts remembers =>
      { s with
        platform :=
          { s.platform with accountReady := true, listeners := if remembers then
            s.platform.listeners else 0 }
        notices := s.notices ++ [.osAccountStarted] }
  | .accountStops => { s with platform := { s.platform with accountReady := false } }
  | .windowStarts =>
      { s with platform := { s.platform with windowReady := true }, notices := s.notices ++
        [.wmsStarted] }
  | .windowStops => { s with platform := { s.platform with windowReady := false } }
  | .userSwitches fromUserId toUserId => s.switchUser fromUserId toUserId
  | .userIsRemoved userId => s.removeUser userId
  | .arrives i => s.arrive i
  | .handles scene => s.turn scene
  | .retries i accepted => { s with service := s.service.retry i accepted }
  | .restarts => s.restart

/-! ## Registrations -/

namespace Service

variable {platform : Platform} {scene : Scene} {s : Service}

/-- Everything but the registrations. -/
def rest (s : Service) : Service := { s with registered := [], tasks := [], refused := [] }

/-- What the lists of registrations have of one: got through, to be tried once more, given up. -/
def asked (s : Service) (task : Int32 × Monitor) : Nat :=
  s.registered.count task + s.tasks.count task + s.refused.count task

theorem rest_initMonitor (userId : Int32) (monitor : Monitor) :
    (s.initMonitor scene userId monitor).2.rest = s.rest := by
  unfold initMonitor
  split <;> rfl

theorem asked_initMonitor (userId : Int32) (monitor : Monitor) (task : Int32 × Monitor) :
    (s.initMonitor scene userId monitor).2.asked task =
      s.asked task + if task = (userId, monitor) then 1 else 0 := by
  unfold initMonitor asked
  by_cases same : task = (userId, monitor)
  · subst same
    split <;> simp only [List.count_append, List.count_singleton_self, if_pos] <;> omega
  · have absent : [(userId, monitor)].count task = 0 := List.count_eq_zero.2 (by simpa using same)
    rw [if_neg same]
    split <;> simp only [List.count_append, absent] <;> omega

theorem initWindowMonitors_fst (userId : Int32) :
    (s.initWindowMonitors scene userId).1 = scene.passes userId := by
  show (Service.initMonitor scene _ userId .windowDisplayChanged).1 = _
  unfold initMonitor Scene.passes
  split <;> simp only [*]

theorem rest_initWindowMonitors (userId : Int32) :
    (s.initWindowMonitors scene userId).2.rest = s.rest := by
  unfold initWindowMonitors
  rw [rest_initMonitor, rest_initMonitor, rest_initMonitor, rest_initMonitor]

/-- A pass asks for every listener of its user once. -/
theorem asked_initWindowMonitors (userId : Int32) (task : Int32 × Monitor) :
    (s.initWindowMonitors scene userId).2.asked task =
      s.asked task + if task.1 = userId then 1 else 0 := by
  obtain ⟨v, monitor⟩ := task
  calc
    (s.initWindowMonitors scene userId).2.asked (v, monitor) = _ :=
      asked_initMonitor userId .windowDisplayChanged _
    _ = s.asked (v, monitor) + if v = userId then 1 else 0 := by
      rw [asked_initMonitor, asked_initMonitor, asked_initMonitor]
      cases monitor <;> simp

theorem initUser_done {userId : Int32} (done : userId ∈ s.initedUserList) :
    s.initUser scene userId = s := if_pos done

/-- A user who is not done with gets a pass, and is done with if it succeeds. -/
theorem initUser_new {userId : Int32} (new : userId ∉ s.initedUserList) :
    s.initUser scene userId =
      let s := (s.initWindowMonitors scene userId).2.logPass userId (scene.passes userId)
      if scene.passes userId then s.setInited userId else s := by
  unfold initUser
  rw [if_neg new, ← @initWindowMonitors_fst scene s userId]

/-- What registering does not touch. -/
def agenda (s : Service) : List Message × Bool × Bool × List Int32 :=
  (s.messages, s.waitAccountReadyToInit, s.isAccountSaFirstStart, s.userSessions)

theorem agenda_initUser (userId : Int32) : (s.initUser scene userId).agenda = s.agenda := by
  by_cases done : userId ∈ s.initedUserList
  · rw [initUser_done done]
  · have pass := congrArg agenda (@rest_initWindowMonitors scene s userId)
    rw [initUser_new done]
    dsimp only
    split <;> exact pass

theorem inited_initUser (userId v : Int32) :
    v ∈ (s.initUser scene userId).initedUserList ↔
      v ∈ s.initedUserList ∨ (v = userId ∧ scene.passes userId = true) := by
  by_cases done : userId ∈ s.initedUserList
  · rw [initUser_done done]
    constructor
    · exact .inl
    · rintro (inited | ⟨rfl, -⟩)
      · exact inited
      · exact done
  · have pass : (s.initWindowMonitors scene userId).2.rest.initedUserList = s.initedUserList := by
      rw [rest_initWindowMonitors]
      rfl
    change (s.initWindowMonitors scene userId).2.initedUserList = s.initedUserList at pass
    rw [initUser_new done]
    dsimp only
    split
    · rename_i passes
      simp [setInited, logPass, pass, passes, or_comm]
    · rename_i fails
      simp [logPass, pass, fails]

section Users

variable (users : List Int32)

theorem inited_initUsers (v : Int32) :
    v ∈ (users.foldl (initUser scene) s).initedUserList ↔
      v ∈ s.initedUserList ∨ (v ∈ users ∧ scene.passes v = true) := by
  induction users generalizing s with
  | nil => simp
  | cons userId users ih =>
      rw [List.foldl_cons, ih, inited_initUser, List.mem_cons]
      constructor
      · rintro ((inited | ⟨rfl, passes⟩) | ⟨member, passes⟩)
        · exact .inl inited
        · exact .inr ⟨.inl rfl, passes⟩
        · exact .inr ⟨.inr member, passes⟩
      · rintro (inited | ⟨rfl | member, passes⟩)
        · exact .inl (.inl inited)
        · exact .inl (.inr ⟨rfl, passes⟩)
        · exact .inr ⟨member, passes⟩

theorem addUserSession_rest (userId : Int32) :
    ∃ sessions, s.addUserSession userId = { s with userSessions := sessions } ∧
      ∀ v, v ∈ sessions ↔ v ∈ s.userSessions ∨ v = userId := by
  unfold addUserSession
  split
  · rename_i there
    refine ⟨s.userSessions, rfl, fun v => ⟨.inl, ?_⟩⟩
    rintro (session | rfl)
    · exact session
    · exact there
  · exact ⟨_, rfl, by simp⟩

theorem addUserSessions_rest :
    ∃ sessions, users.foldl addUserSession s = { s with userSessions := sessions } ∧
      ∀ v, v ∈ sessions ↔ v ∈ s.userSessions ∨ v ∈ users := by
  induction users generalizing s with
  | nil => exact ⟨s.userSessions, rfl, by simp⟩
  | cons userId users ih =>
      obtain ⟨first, added, sessions⟩ := addUserSession_rest (s := s) userId
      obtain ⟨all, done, others⟩ := ih (s := { s with userSessions := first })
      refine ⟨all, by rw [List.foldl_cons, added, done], fun v => ?_⟩
      rw [others, sessions, List.mem_cons, or_assoc]

end Users

end Service

/-! ## Turns -/

namespace Service

variable {platform : Platform} {scene : Scene} {s s' s'' : Service}

/-- `s'` has the messages of `s`, and nobody is worse off in it. -/
structure Keeps (s s' : Service) : Prop where
  messages : s'.messages = s.messages
  inited : ∀ v ∈ s.initedUserList, v ∈ s'.initedUserList
  sessions : ∀ v ∈ s.userSessions, v ∈ s'.userSessions

theorem Keeps.trans (first : Keeps s s') (second : Keeps s' s'') : Keeps s s'' where
  messages := second.messages.trans first.messages
  inited v member := second.inited v (first.inited v member)
  sessions v member := second.sessions v (first.sessions v member)

theorem keeps_refl (s : Service) : Keeps s s := ⟨rfl, fun _ => id, fun _ => id⟩

theorem keeps_initUser (userId : Int32) : Keeps s (s.initUser scene userId) where
  messages := congrArg Prod.fst (agenda_initUser userId)
  inited v member := (inited_initUser userId v).2 (.inl member)
  sessions v member := by
    have same : (s.initUser scene userId).userSessions = s.userSessions :=
      congrArg (fun agenda => agenda.2.2.2) (agenda_initUser userId)
    rwa [same]

theorem keeps_initUsers (users : List Int32) : Keeps s (users.foldl (initUser scene) s) := by
  induction users generalizing s with
  | nil => exact keeps_refl s
  | cons userId users ih => exact (keeps_initUser userId).trans ih

theorem keeps_initAllUsersWindowMonitors : Keeps s (s.initAllUsersWindowMonitors platform scene) := by
  unfold initAllUsersWindowMonitors
  split
  · exact ⟨rfl, fun _ => id, fun _ => id⟩
  · dsimp only
    split
    · exact ⟨rfl, fun _ => id, fun _ => id⟩
    · have kept : Keeps { s with waitAccountReadyToInit := false } _ :=
        @keeps_initUsers scene _ (platform.getForegroundOsAccountIds scene.idsKnown)
      exact ⟨kept.messages, kept.inited, kept.sessions⟩

/-- With both services there, every user in the foreground gets a pass. -/
theorem inited_initAllUsersWindowMonitors (accounts : platform.accountReady = true)
    (windows : platform.windowReady = true) (known : scene.idsKnown = true) {v : Int32}
    (foreground : v ∈ platform.foreground) (passes : scene.passes v = true) :
    v ∈ (s.initAllUsersWindowMonitors platform scene).initedUserList := by
  unfold initAllUsersWindowMonitors
  simp only [accounts, windows, Bool.not_true, Bool.false_eq_true, if_false]
  refine (inited_initUsers _ v).2 (.inr ⟨?_, passes⟩)
  simpa [Platform.getForegroundOsAccountIds, accounts, known] using foreground

theorem waits_initAllUsersWindowMonitors (accounts : platform.accountReady = false) :
    (s.initAllUsersWindowMonitors platform scene).waitAccountReadyToInit = true := by
  unfold initAllUsersWindowMonitors
  simp [accounts]

/-- What `HandleOsAccountStarted` has done about the windows before it makes the sessions. -/
def watched (platform : Platform) (scene : Scene) (s : Service) : Service :=
  if !s.isAccountSaFirstStart || s.waitAccountReadyToInit then
    s.initAllUsersWindowMonitors platform scene else s

theorem handleOsAccountStarted_eq :
    ∃ sessions, s.handleOsAccountStarted platform scene =
        { s.watched platform scene with isAccountSaFirstStart := false, userSessions := sessions } ∧
      ∀ v, v ∈ sessions ↔ v ∈ (s.watched platform scene).userSessions ∨
        v ∈ platform.getForegroundOsAccountIds scene.accountsKnown :=
  @addUserSessions_rest { s.watched platform scene with isAccountSaFirstStart := false } _

theorem keeps_watched : Keeps s (s.watched platform scene) := by
  unfold watched
  split
  · exact keeps_initAllUsersWindowMonitors
  · exact keeps_refl s

theorem keeps_handleOsAccountStarted : Keeps s (s.handleOsAccountStarted platform scene) := by
  obtain ⟨sessions, done, members⟩ := @handleOsAccountStarted_eq platform scene s
  have kept : Keeps s (s.watched platform scene) := keeps_watched
  rw [done]
  exact ⟨kept.messages, kept.inited, fun v member => (members v).2 (.inl (kept.sessions v member))⟩

theorem keeps_handleUserSwitchedIn (userId : Int32) :
    Keeps s (s.handleUserSwitchedIn scene userId) := by
  obtain ⟨sessions, added, members⟩ := @addUserSession_rest s userId
  have first : Keeps s (s.addUserSession userId) := by
    rw [added]
    exact ⟨rfl, fun _ => id, fun v member => (members v).2 (.inl member)⟩
  exact first.trans (keeps_initUser userId)

/-- A user who is switched to has a session, and the windows watched if the window service accepts
it. -/
theorem handleUserSwitchedIn_does (userId : Int32) :
    (s.handleUserSwitchedIn scene userId).waitAccountReadyToInit = s.waitAccountReadyToInit ∧
      (s.handleUserSwitchedIn scene userId).isAccountSaFirstStart = s.isAccountSaFirstStart ∧
      userId ∈ (s.handleUserSwitchedIn scene userId).userSessions ∧
      (scene.passes userId = true → userId ∈ (s.handleUserSwitchedIn scene userId).initedUserList) := by
  obtain ⟨sessions, added, members⟩ := @addUserSession_rest s userId
  have agenda : (s.handleUserSwitchedIn scene userId).agenda =
    { s with userSessions := sessions }.agenda := by
    rw [← added]
    exact agenda_initUser userId
  obtain ⟨-, waits, first, same⟩ : _ ∧ _ ∧ _ ∧ _ := by simpa [Service.agenda] using agenda
  refine ⟨waits, first, ?_, fun passes => (inited_initUser userId userId).2 (.inr ⟨rfl, passes⟩)⟩
  rw [same]
  exact (members userId).2 (.inr rfl)

end Service

/-! ## In any order -/

namespace System

variable (s : System)

/-- The message is queued, or on its way to the queue. -/
def Coming (message : Message) : Prop := message ∈ s.notices ∨ message ∈ s.service.messages

instance (message : Message) : Decidable (s.Coming message) := inferInstanceAs (Decidable (_ ∨ _))

/-- A switch to the user is. -/
def Announced (userId : Int32) : Prop := ∃ fromUserId, s.Coming (.userSwitched fromUserId userId)

/-- The service has still to hear of a start of the account service. -/
def Sought : Prop := s.Coming .osAccountStarted ∨ s.platform.accountReady = false

/-- It will look after the windows of all users when it does. -/
def LooksAgain : Prop :=
  s.Sought ∧ (s.service.waitAccountReadyToInit = true ∨ s.service.isAccountSaFirstStart = false)

end System

/-- What `served_when_quiet` is under, for one user.  When the user is switched to, no removal of
the user is still coming, and the service hears of the switch or will look again; the queries of the
accounts are answered, and with the window service there the last of the four registrations is
accepted. -/
def Event.Serves (userId : Int32) (s : System) : Event → Prop
  | .userSwitches _ toUserId =>
      toUserId = userId → ¬ s.Coming (.userRemoved userId) ∧ (0 < s.platform.listeners ∨ s.LooksAgain)
  | .handles scene =>
      scene.idsKnown = true ∧ scene.accountsKnown = true ∧
        (s.platform.windowReady = true → scene.passes userId = true)
  | _ => True

/-- The user is served, or something that is coming will see to it. -/
structure Attended (userId : Int32) (s : System) : Prop where
  present : ¬ s.Coming (.userRemoved userId)
  session : userId ∈ s.service.userSessions ∨ s.Announced userId ∨ s.Sought
  windows : s.platform.windowReady = true →
    userId ∈ s.service.initedUserList ∨ s.Announced userId ∨ s.Coming .wmsStarted ∨ s.LooksAgain

/-- In the foreground, the user is. -/
def Covered (userId : Int32) (s : System) : Prop := userId ∈ s.platform.foreground → Attended userId s

section Steps

variable {userId : Int32} {s s' : System}

/-- Between the turns nothing that is coming gets lost. -/
theorem Attended.mono (attended : Attended userId s)
    (coming : ∀ message, s.Coming message → s'.Coming message)
    (removal : s'.Coming (.userRemoved userId) → s.Coming (.userRemoved userId))
    (agenda : s'.service.agenda.2 = s.service.agenda.2)
    (inited : s'.service.initedUserList = s.service.initedUserList) (sought : s.Sought → s'.Sought)
    (windows : s'.platform.windowReady = true → s.platform.windowReady = true ∨ s'.Coming .wmsStarted) :
    Attended userId s' := by
  obtain ⟨waits, first, sessions⟩ :
    s'.service.waitAccountReadyToInit = s.service.waitAccountReadyToInit ∧
      s'.service.isAccountSaFirstStart = s.service.isAccountSaFirstStart ∧
      s'.service.userSessions = s.service.userSessions := by
    simpa [Service.agenda] using agenda
  have announced : s.Announced userId → s'.Announced userId := fun ⟨fromUserId, given⟩ =>
    ⟨fromUserId, coming _ given⟩
  refine ⟨fun given => attended.present (removal given), ?_, fun ready => ?_⟩
  · rw [sessions]
    exact attended.session.imp_right (Or.imp announced sought)
  · rw [inited]
    rcases windows ready with before | starts
    · refine (attended.windows before).imp_right (Or.imp announced (Or.imp (coming _) ?_))
      rintro ⟨given, again⟩
      exact ⟨sought given, by rwa [waits, first]⟩
    · exact .inr (.inr (.inl starts))

theorem coming_told (message other : Message) :
    ({ s with notices := s.told message } : System).Coming other ↔
      s.Coming other ∨ (0 < s.platform.listeners ∧ other = message) := by
  simp only [System.Coming, System.told, List.mem_append, List.mem_replicate, Nat.pos_iff_ne_zero]
  tauto

theorem coming_arrive (i : Nat) (message : Message) : (s.arrive i).Coming message ↔
    s.Coming message := by
  unfold System.arrive
  split
  · rfl
  · rename_i first found
    obtain ⟨bound, rfl⟩ := List.getElem?_eq_some_iff.1 found
    have one : message ∈ s.notices ↔ message = s.notices[i] ∨ message ∈ s.notices.eraseIdx i := by
      rw [← (List.getElem_cons_eraseIdx_perm bound).mem_iff, List.mem_cons]
    simp only [System.Coming, List.mem_append, List.mem_singleton, one]
    tauto

theorem covered_arrive (covered : Covered userId s) (i : Nat) : Covered userId (s.arrive i) := by
  have coming := coming_arrive (s := s) i
  obtain ⟨platform, agenda, inited⟩ : (s.arrive i).platform = s.platform ∧
      (s.arrive i).service.agenda.2 = s.service.agenda.2 ∧
      (s.arrive i).service.initedUserList = s.service.initedUserList := by
    unfold System.arrive
    split <;> exact ⟨rfl, rfl, rfl⟩
  intro foreground
  rw [platform] at foreground
  refine (covered foreground).mono (fun message => (coming message).2) (coming _).1 agenda inited ?_ ?_
  · unfold System.Sought
    rw [coming, platform]
    exact id
  · rw [platform]
    exact .inl

theorem covered_switchUser (covered : Covered userId s) {fromUserId toUserId : Int32}
    (serves : toUserId = userId → ¬ s.Coming (.userRemoved userId) ∧
      (0 < s.platform.listeners ∨ s.LooksAgain)) :
    Covered userId (s.switchUser fromUserId toUserId) := by
  have coming := coming_told (s := s) (.userSwitched fromUserId toUserId)
  unfold System.switchUser
  split
  case isFalse => exact covered
  case isTrue =>
    intro foreground
    by_cases same : toUserId = userId
    · subst same
      obtain ⟨present, heard⟩ := serves rfl
      refine ⟨fun given => ?_, ?_, fun _ => ?_⟩
      · rcases (coming _).1 given with given | ⟨-, impossible⟩
        · exact present given
        · cases impossible
      all_goals
        rcases heard with listening | ⟨sought, again⟩
        · exact .inr (.inl ⟨fromUserId, (coming _).2 (.inr ⟨listening, rfl⟩)⟩)
      · exact .inr (.inr (sought.imp_left fun given => (coming _).2 (.inl given)))
      · exact .inr (.inr (.inr ⟨sought.imp_left fun given => (coming _).2 (.inl given), again⟩))
    · have before : userId ∈ s.platform.foreground := by
        rcases List.mem_cons.1 foreground with switched | kept
        · exact absurd switched.symm same
        · exact List.mem_of_mem_filter kept
      refine (covered before).mono (fun message given => (coming message).2 (.inl given))
        (fun given => ?_) rfl rfl
        (fun sought => ?_) .inl
      · rcases (coming _).1 given with given | ⟨-, impossible⟩
        · exact given
        · cases impossible
      · exact sought.imp_left fun given => (coming _).2 (.inl given)

theorem covered_removeUser (covered : Covered userId s) (v : Int32) :
    Covered userId (s.removeUser v) := by
  have coming := coming_told (s := s) (.userRemoved v)
  unfold System.removeUser
  split
  case isFalse => exact covered
  case isTrue can =>
    intro foreground
    refine (covered foreground).mono (fun message given => (coming message).2 (.inl given))
      (fun given => ?_) rfl rfl
      (fun sought => sought.imp_left fun given => (coming _).2 (.inl given)) .inl
    rcases (coming _).1 given with given | ⟨-, same⟩
    · exact given
    · cases same
      exact absurd foreground can.2

theorem covered_restart (s : System) : Covered userId s.restart := by
  intro foreground
  have sought : s.restart.Sought := by
    cases ready : s.platform.accountReady with
    | true => exact .inl (.inl (by simp [System.restart, ready]))
    | false => exact .inr ready
  refine ⟨?_, .inr (.inr sought), fun ready => .inr (.inr (.inl (.inl ?_)))⟩
  · rintro (notice | message)
    · simp [System.restart] at notice
    · cases message
  · have windows : s.platform.windowReady = true := ready
    simp [System.restart, windows]

/-! ### The turn of the work thread -/

section Turn

open Service (Keeps)

variable {message : Message} {messages : List Message} {scene : Scene}

/-- The state after a turn, by what the work thread has made of the process. -/
def turned (s : System) (scene : Scene) (message : Message) (after : Service) : System :=
  { s with platform := s.subscribe scene message, service := after }

theorem subscribe_same (message : Message) :
    (s.subscribe scene message).accountReady = s.platform.accountReady ∧
      (s.subscribe scene message).windowReady = s.platform.windowReady ∧
      (s.subscribe scene message).foreground = s.platform.foreground := by
  unfold System.subscribe
  split
  · split <;> exact ⟨rfl, rfl, rfl⟩
  · exact ⟨rfl, rfl, rfl⟩

/-- Every other message is still coming after the turn. -/
theorem coming_turned (queued : s.service.messages = message :: messages) {after : Service}
    (left : after.messages = messages) {other : Message} :
    s.Coming other ↔ (turned s scene message after).Coming other ∨ other = message := by
  simp only [System.Coming, turned, queued, left, List.mem_cons]
  tauto

theorem announced_turned (queued : s.service.messages = message :: messages) {after : Service}
    (left : after.messages = messages) (announced : s.Announced userId)
    (other : ∀ fromUserId, message ≠ .userSwitched fromUserId userId) :
    (turned s scene message after).Announced userId := by
  obtain ⟨fromUserId, given⟩ := announced
  rcases (coming_turned queued left).1 given with given | same
  · exact ⟨fromUserId, given⟩
  · exact absurd same.symm (other fromUserId)

variable (queued : s.service.messages = message :: messages)
  (foreground : userId ∈ s.platform.foreground)
  (attended : Attended userId s) (serves : Event.Serves userId s (.handles scene))

include queued foreground attended serves

theorem attended_osAccountStarted (same : message = .osAccountStarted) :
    Attended userId (turned s scene message
      (Service.handleOsAccountStarted (s.subscribe scene message) scene
        { s.service with messages })) := by
  obtain ⟨idsKnown, accountsKnown, passes⟩ := serves
  obtain ⟨accountReady, windowReady, present⟩ := @subscribe_same s scene message
  obtain ⟨sessions, done, members⟩ :=
    @Service.handleOsAccountStarted_eq (s.subscribe scene message) scene { s.service with messages }
  have kept : Keeps { s.service with messages }
    (Service.handleOsAccountStarted (s.subscribe scene message) scene
      { s.service with messages }) := Service.keeps_handleOsAccountStarted
  have foreground' : userId ∈ (s.subscribe scene message).foreground := by rwa [present]
  refine ⟨fun given => attended.present ((coming_turned queued kept.messages).2 (.inl given)), ?_,
    fun ready => ?_⟩
  · -- every user in the foreground gets a session, if the service knows who that is
    cases accounts : s.platform.accountReady with
    | false => exact .inr (.inr (.inr (accountReady.trans accounts)))
    | true =>
        refine .inl ?_
        show userId ∈ (Service.handleOsAccountStarted _ _ _).userSessions
        rw [done]
        refine (members userId).2 (.inr ?_)
        simpa [Platform.getForegroundOsAccountIds, accountReady, accounts, accountsKnown]
          using foreground'
  · have windows : s.platform.windowReady = true := windowReady ▸ ready
    rcases attended.windows windows with inited | announced | starts | ⟨-, again⟩
    · exact .inl (kept.inited _ inited)
    · exact .inr (.inl (announced_turned queued kept.messages announced (by simp [same])))
    · refine .inr (.inr (.inl (((coming_turned queued kept.messages).1 starts).resolve_right ?_)))
      simp [same]
    · -- it looks after the windows of all users now, or still does not know who they are
      cases accounts : s.platform.accountReady with
      | false =>
          refine .inr (.inr (.inr ⟨.inr (accountReady.trans accounts), .inr ?_⟩))
          show (Service.handleOsAccountStarted _ _ _).isAccountSaFirstStart = false
          rw [done]
      | true =>
          refine .inl ?_
          show userId ∈ (Service.handleOsAccountStarted _ _ _).initedUserList
          rw [done]
          show userId ∈ (Service.watched _ _ _).initedUserList
          have looks : (!s.service.isAccountSaFirstStart || s.service.waitAccountReadyToInit) =
            true := by
            rcases again with waits | later
            · simp [waits]
            · simp [later]
          unfold Service.watched
          rw [if_pos looks]
          exact Service.inited_initAllUsersWindowMonitors
            (accountReady.trans accounts) ready idsKnown foreground'
            (passes windows)

theorem attended_wmsStarted (same : message = .wmsStarted) :
    Attended userId (turned s scene message
      (Service.handleWmsStarted (s.subscribe scene message) scene { s.service with messages })) := by
  obtain ⟨idsKnown, -, passes⟩ := serves
  obtain ⟨accountReady, windowReady, present⟩ := @subscribe_same s scene message
  have kept : Keeps { s.service with messages }
    (Service.handleWmsStarted (s.subscribe scene message) scene
      { s.service with messages }) := Service.keeps_initAllUsersWindowMonitors
  have foreground' : userId ∈ (s.subscribe scene message).foreground := by rwa [present]
  refine ⟨fun given => attended.present ((coming_turned queued kept.messages).2 (.inl given)), ?_,
    fun ready => ?_⟩
  · rcases attended.session with session | announced | starts | unready
    · exact .inl (kept.sessions _ session)
    · exact .inr (.inl (announced_turned queued kept.messages announced (by simp [same])))
    · refine .inr (.inr (.inl (((coming_turned queued kept.messages).1 starts).resolve_right ?_)))
      simp [same]
    · exact .inr (.inr (.inr (accountReady.trans unready)))
  · cases accounts : s.platform.accountReady with
    | false =>
        have unready := accountReady.trans accounts
        exact .inr (.inr (.inr ⟨.inr unready, .inl (Service.waits_initAllUsersWindowMonitors unready)⟩))
    | true =>
        exact .inl (Service.inited_initAllUsersWindowMonitors
          (accountReady.trans accounts) ready idsKnown foreground'
          (passes (windowReady ▸ ready)))

omit foreground in
theorem attended_userSwitched {fromUserId toUserId : Int32}
    (same : message = .userSwitched fromUserId toUserId) :
    Attended userId (turned s scene message
      (Service.handleUserSwitchedIn scene { s.service with messages } toUserId)) := by
  obtain ⟨-, -, passes⟩ := serves
  obtain ⟨accountReady, windowReady, present⟩ := @subscribe_same s scene message
  have kept : Keeps { s.service with messages }
    (Service.handleUserSwitchedIn scene { s.service with messages } toUserId) :=
    Service.keeps_handleUserSwitchedIn toUserId
  obtain ⟨waits, first, made, inited⟩ :=
    @Service.handleUserSwitchedIn_does scene { s.service with messages } toUserId
  have left : ∀ {other : Message}, s.Coming other → other ≠ message → (turned s scene message
      (Service.handleUserSwitchedIn scene { s.service with messages } toUserId)).Coming other :=
        fun given different =>
    ((coming_turned queued kept.messages).1 given).resolve_right different
  refine ⟨fun given => attended.present ((coming_turned queued kept.messages).2 (.inl given)), ?_,
    fun ready => ?_⟩
  all_goals by_cases mine : toUserId = userId
  · exact .inl (mine ▸ made)
  · rcases attended.session with session | announced | starts | unready
    · exact .inl (kept.sessions _ session)
    · exact .inr (.inl (announced_turned queued kept.messages announced (by simp [same, mine])))
    · exact .inr (.inr (.inl (left starts (by simp [same]))))
    · exact .inr (.inr (.inr (accountReady.trans unready)))
  · exact .inl (mine ▸ inited (mine ▸ passes (windowReady ▸ ready)))
  · rcases attended.windows (windowReady ▸ ready) with inited | announced | starts | ⟨sought, again⟩
    · exact .inl (kept.inited _ inited)
    · exact .inr (.inl (announced_turned queued kept.messages announced (by simp [same, mine])))
    · exact .inr (.inr (.inl (left starts (by simp [same]))))
    · refine .inr (.inr (.inr
        ⟨sought.imp (fun given => left given (by simp [same])) accountReady.trans, ?_⟩))
      exact again.imp waits.trans first.trans

omit foreground serves in
theorem attended_userRemoved {v : Int32} (same : message = .userRemoved v) :
    Attended userId (turned s scene message (Service.onUserRemoved { s.service with messages } v)) := by
  obtain ⟨accountReady, windowReady, -⟩ := @subscribe_same s scene message
  have other : v ≠ userId := by
    rintro rfl
    exact attended.present (.inr (by simp [queued, same]))
  have left : ∀ {other : Message}, s.Coming other → other ≠ message → (turned s scene message
      (Service.onUserRemoved { s.service with messages } v)).Coming other := fun given different =>
    ((coming_turned queued rfl).1 given).resolve_right different
  refine ⟨fun given => attended.present ((coming_turned queued rfl).2 (.inl given)), ?_,
    fun ready => ?_⟩
  · rcases attended.session with session | announced | starts | unready
    · refine .inl (List.mem_filter.2 ⟨session, ?_⟩)
      simpa using other.symm
    · exact .inr (.inl (announced_turned queued rfl announced (by simp [same])))
    · exact .inr (.inr (.inl (left starts (by simp [same]))))
    · exact .inr (.inr (.inr (accountReady.trans unready)))
  · rcases attended.windows (windowReady ▸ ready) with inited | announced | starts | ⟨sought, again⟩
    · exact .inl inited
    · exact .inr (.inl (announced_turned queued rfl announced (by simp [same])))
    · exact .inr (.inr (.inl (left starts (by simp [same]))))
    · exact .inr (.inr (.inr
        ⟨sought.imp (fun given => left given (by simp [same])) accountReady.trans, again⟩))

end Turn

theorem covered_turn (covered : Covered userId s) {scene : Scene}
    (serves : Event.Serves userId s (.handles scene)) :
    Covered userId (s.turn scene) := by
  unfold System.turn
  split
  · exact covered
  · rename_i message messages queued
    intro given
    have present := (@subscribe_same s scene message).2.2
    have foreground : userId ∈ s.platform.foreground := present ▸ given
    have attended := covered foreground
    cases message with
    | osAccountStarted => exact attended_osAccountStarted queued foreground attended serves rfl
    | wmsStarted => exact attended_wmsStarted queued foreground attended serves rfl
    | userSwitched fromUserId toUserId => exact attended_userSwitched queued attended serves rfl
    | userRemoved v => exact attended_userRemoved queued attended rfl

theorem coming_more (message other : Message) {platform : Platform} :
    ({ s with platform, notices := s.notices ++ [message] } : System).Coming other ↔
      s.Coming other ∨ other = message := by
  simp only [System.Coming, List.mem_append, List.mem_singleton]
  tauto

theorem retry_rest (service : Service) (i : Nat) (accepted : Bool) :
    (service.retry i accepted).rest = service.rest := by
  unfold Service.retry
  split
  · rfl
  · dsimp only
    split <;> rfl

/-- What one step preserves. -/
theorem covered_step (covered : Covered userId s) {e : Event} (serves : e.Serves userId s) :
    Covered userId (step s e) := by
  cases e with
  | accountStarts remembers =>
      intro foreground
      refine (covered foreground).mono (fun message given => (coming_more ..).2 (.inl given))
        (fun given => ?_) rfl rfl
        (fun _ => .inl ((coming_more ..).2 (.inr rfl))) .inl
      exact ((coming_more ..).1 given).resolve_right (by simp)
  | accountStops => exact fun foreground =>
      (covered foreground).mono (fun _ => id) id rfl rfl (fun _ => .inr rfl) .inl
  | windowStarts =>
      intro foreground
      refine (covered foreground).mono (fun message given => (coming_more ..).2 (.inl given))
        (fun given => ?_) rfl rfl
        (fun sought => sought.imp_left fun given => (coming_more ..).2 (.inl given))
        fun _ => .inr ((coming_more ..).2 (.inr rfl))
      exact ((coming_more ..).1 given).resolve_right (by simp)
  | windowStops => exact fun foreground => (covered foreground).mono (fun _ => id) id rfl rfl id nofun
  | userSwitches fromUserId toUserId => exact covered_switchUser covered serves
  | userIsRemoved v => exact covered_removeUser covered v
  | arrives i => exact covered_arrive covered i
  | handles scene => exact covered_turn covered serves
  | retries i accepted =>
      intro foreground
      have rest := retry_rest s.service i accepted
      have messages : (s.service.retry i accepted).messages = s.service.messages :=
        congrArg (·.messages) rest
      have coming : ∀ message,
        (step s (.retries i accepted)).Coming message ↔ s.Coming message := fun message => by
        simp only [System.Coming, step, messages]
      refine (covered foreground).mono (fun message => (coming message).2) (coming _).1 ?_ ?_ ?_ .inl
      · exact congrArg (fun service => service.agenda.2) rest
      · exact congrArg (·.initedUserList) rest
      · exact Or.imp_left (coming _).2
  | restarts => exact covered_restart s

end Steps

/-- **Whatever starts first.**  In every run in which the service is told what there is to tell:
once both services run and nothing is on its way, a user in the foreground has a session and watched
windows. -/
theorem served_when_quiet {userId : Int32} {es : List Event}
    (serves : Meets step (fun s e => e.Serves userId s) {} es) (notices : (run step {} es).notices = [])
    (messages : (run step {} es).service.messages = [])
    (accounts : (run step {} es).platform.accountReady = true)
    (windows : (run step {} es).platform.windowReady = true)
    (foreground : userId ∈ (run step {} es).platform.foreground) :
    userId ∈ (run step {} es).service.userSessions ∧
      userId ∈ (run step {} es).service.initedUserList := by
  have start : Covered userId {} := fun given => by cases given
  have covered : Covered userId (run step {} es) :=
    run_keeps (P := Covered userId) (fun _ _ covered serves => covered_step covered serves) start serves
  have attended := covered foreground
  have nothing : ∀ message, ¬ (run step {} es).Coming message := by
    simp [System.Coming, notices, messages]
  have known : ¬ (run step {} es).Sought := by
    simp [System.Sought, nothing, accounts]
  have unannounced : ¬ (run step {} es).Announced userId := fun ⟨_, given⟩ => nothing _ given
  constructor
  · exact attended.session.resolve_right (by simp [unannounced, known])
  · exact (attended.windows windows).resolve_right
      (by simp [unannounced, nothing, System.LooksAgain, known])

/-- The first start of the account service does not make up for a switch before it that nobody heard
of. -/
example :
    let s := run step {}
      [.accountStarts true, .windowStarts, .arrives 1, .handles {}, .userSwitches 0 101,
      .arrives 0, .handles {}]
    (s.notices = [] ∧ s.service.messages = []) ∧ 101 ∈ s.platform.foreground ∧
      101 ∉ s.service.initedUserList := by
  decide

/-! ## Poles -/

section Poles

/-- The window service is there before the account service, and its listener is first refused. -/
def windowsFirst : List Event :=
  [.windowStarts, .arrives 0, .handles {}, .accountStarts true, .userSwitches 0 100, .arrives 0,
    .handles { registers := fun _ monitor => monitor ≠ .focusChanged }, .retries 0 true]

theorem windowsFirst_served :
    100 ∈ (run step {} windowsFirst).service.userSessions ∧
      100 ∈ (run step {} windowsFirst).service.initedUserList := by
  refine served_when_quiet ?_ rfl rfl rfl rfl (by decide)
  refine ⟨trivial, trivial, ⟨rfl, rfl, fun _ => rfl⟩, trivial,
    fun _ => ⟨?_, .inr ⟨.inl (.inl ?_), .inl ?_⟩⟩, trivial,
    ⟨rfl, rfl, fun _ => rfl⟩, trivial, trivial⟩
  · decide
  · decide
  · rfl

end Poles

end Imf.Startup
