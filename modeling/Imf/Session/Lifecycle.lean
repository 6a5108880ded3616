/-
# Imf.Session.Lifecycle -- the data of the real input method between its threads

`realImeData_` is the data of the input method that is being started, ready or exiting.  Starts,
stops, registrations and death notices run on different threads; each of them is a sequence of
steps that take the lock of the data one at a time, and between two steps of one call the data
can be removed and made anew.  An object that has been replaced stays where others hold it, so
the objects are kept in a list here and `realImeData` is a place in it.

The status follows a table.  What the table cannot say is which object a late step hits: a
registration that is overtaken by a removal and a new start makes the new object ready, which
nobody has registered.  Who registered the data is read off the steps of the run (`Account`), not
off the data.  `lifecycle_kept` says that late registrations, and an `InitConnect` of another
process, are all that goes wrong (`Orderly`); the pole `late_registration_unregistered` is a run
of the first kind.
-/
import Imf.Lib.Run
import Imf.Session.ImeData

namespace Imf.Lifecycle

set_option autoImplicit false

open Lib (Meets invariant_prefixes_iff_meets run run_always run_append)

/-! ## The data -/

inductive ImeEvent where
  | startIme
  | startImeTimeout
  | stopIme
  | setCoreAndAgent
  deriving DecidableEq, Repr

inductive ImeAction where
  | doNothing
  | handleStartingIme
  | startAfterForceStop
  | stopReadyIme
  | forceStopIme
  | doSetCoreAndAgent
  | doActionInNullImeData
  | doActionInImeEventConvertFailed
  deriving DecidableEq, Repr

def imeEventConverter : List ((ImeStatus × ImeEvent) × (ImeStatus × ImeAction)) :=
  [((.ready, .startIme), (.ready, .doNothing)),
    ((.starting, .startIme), (.starting, .handleStartingIme)),
    ((.exiting, .startIme), (.exiting, .startAfterForceStop)),
    ((.ready, .startImeTimeout), (.ready, .doNothing)),
    ((.starting, .startImeTimeout), (.exiting, .startAfterForceStop)),
    ((.exiting, .startImeTimeout), (.exiting, .startAfterForceStop)),
    ((.ready, .stopIme), (.exiting, .stopReadyIme)),
    ((.starting, .stopIme), (.exiting, .forceStopIme)),
    ((.exiting, .stopIme), (.exiting, .forceStopIme)),
    ((.ready, .setCoreAndAgent), (.ready, .doNothing)),
    ((.starting, .setCoreAndAgent), (.ready, .doSetCoreAndAgent)),
    ((.exiting, .setCoreAndAgent), (.exiting, .doNothing))]

structure Session where
  objects : List ImeData := []
  realImeData : Option Nat := none
  deriving DecidableEq, Repr

/-- The steps that take the lock of the data. -/
inductive Atom where
  | read
  | getImeAction (event : ImeEvent)
  | initRealImeData (ime : String × String) (connection : Bool)
  | updateRealImeData (core agent : Option Nat) (pid uid : Int32) (answers : FillAnswers)
  | removeRealImeData
  | removeRealImeDataOf (pid : Int32)
  | initConnect (pid : Int32)
  deriving DecidableEq, Repr

namespace Session

variable (s : Session)

def current : Option ImeData := s.realImeData.bind (s.objects[·]?)

def modify (f : ImeData → ImeData) : Session :=
  match s.realImeData with
  | none => s
  | some place => { s with objects := s.objects.modify place f }

/-- `GetImeAction`, with what it returns. -/
def getImeAction (event : ImeEvent) : Session × ImeAction :=
  match s.current with
  | none => (s, .doActionInNullImeData)
  | some data =>
      match imeEventConverter.lookup (data.imeStatus, event) with
      | none => (s, .doActionInImeEventConvertFailed)
      | some (imeStatus, action) => (s.modify fun data => { data with imeStatus }, action)

/-- `InitRealImeData`, with `isFirstStart` unless the connection cannot be created. -/
def initRealImeData (ime : String × String) (connection : Bool) : Session × Option Bool :=
  match s.current with
  | some _ => (s, some false)
  | none =>
      if connection then
        ({ objects := s.objects ++ [{ ime }], realImeData := some s.objects.length }, some true)
      else (s, none)

/-- `UpdateRealImeData`, with whether it returns the data. -/
def updateRealImeData (core agent : Option Nat) (pid uid : Int32) (answers : FillAnswers) :
    Session × Bool :=
  if core = none ∨ agent = none then (s, false)
  else
    match s.current with
    | none => (s, false)
    | some data =>
        (s.modify fun data => (fillImeData core agent pid .ime data uid answers).2,
          (fillImeData core agent pid .ime data uid answers).1 = .noError)

def removeRealImeData : Session := { s with realImeData := none }

def removeRealImeDataOf (pid : Int32) : Session :=
  match s.current with
  | none => s
  | some data => if data.pid ≠ pid then s else s.removeRealImeData

def initConnect (pid : Int32) : Session := s.modify fun data => { data with pid }

def after (s : Session) : Atom → Session
  | .read => s
  | .getImeAction event => (s.getImeAction event).1
  | .initRealImeData ime connection => (s.initRealImeData ime connection).1
  | .updateRealImeData core agent pid uid answers => (s.updateRealImeData core agent pid uid answers).1
  | .removeRealImeData => s.removeRealImeData
  | .removeRealImeDataOf pid => s.removeRealImeDataOf pid
  | .initConnect pid => s.initConnect pid

end Session

/-! ## The calls -/

/-- What follows a stop that succeeds. -/
inductive Next where
  | done
  | startInputService
  deriving DecidableEq, Repr

/-- What a call does next. -/
inductive Stage where
  /-- `StartIme`. -/
  | startIme (ime : String × String) (isStopCurrentIme : Bool)
  | startCurrentIme
  | startAction
  | timeoutAction
  /-- `StopCurrentIme`, `StopReadyCurrentIme` and `ForceStopCurrentIme`. -/
  | stopAction (next : Next)
  | stopReady (next : Next)
  | stopRequest (place : Nat) (next : Next)
  | forceStop (isNeedWait : Bool) (next : Next)
  | forceWait (next : Next)
  | forceRemove (next : Next)
  /-- `StartInputService`. -/
  | startInputService
  | connect (isFirstStart : Bool)
  | connectFailed
  /-- `OnSetCoreAndAgent`. -/
  | updateRealImeData (core agent : Option Nat) (pid uid : Int32)
  | setCoreAndAgent
  /-- `OnImeDied`. -/
  | imeDied (pid : Int32)
  | removeImeData (pid : Int32)
  deriving DecidableEq, Repr

/-- What a call is told between its steps. -/
structure Answers where
  /-- `HandleFirstStart` goes on to start the input method. -/
  firstStart : Bool := true
  /-- The start has taken more than `START_TIME_OUT`. -/
  timeout : Bool := false
  /-- The input method takes the stop request and stops in time. -/
  stops : Bool := true
  isRunningIme : Bool := false
  stopExtensionAbility : Bool := true
  /-- What `ChangeToDefaultImeIfNeed` makes of the input method to start. -/
  imeToStart : Option (String × String) := none
  connection : Bool := true
  connectExtensionAbility : Bool := true
  fill : FillAnswers := {}
  deriving DecidableEq, Repr

def Next.stage : Next → Option Stage
  | .done => none
  | .startInputService => some .startInputService

/-- One step of a call: the session after it and what the call does next.  Nothing that follows
the last step of a call touches the data; a restart after a death is a `StartIme` of its own. -/
def exec (s : Session) (answers : Answers) : Stage → Session × Option Stage
  | .startIme ime isStopCurrentIme =>
      match s.current with
      | none => (s, if answers.firstStart then some .startInputService else none)
      | some data =>
          (s, some (if data.ime = ime ∧ isStopCurrentIme = false then .startCurrentIme
            else .stopAction .startInputService))
  | .startCurrentIme =>
      match s.current with
      | none => (s, some .startInputService)
      | some _ => (s, some .startAction)
  | .startAction =>
      let (s, action) := s.getImeAction .startIme
      (s, match action with
        | .doActionInImeEventConvertFailed => none
        | .doActionInNullImeData => some .startInputService
        | .doNothing => none
        | .handleStartingIme => some (if answers.timeout then .timeoutAction else .startInputService)
        | _ => some (.forceStop true .startInputService))
  | .timeoutAction =>
      let (s, action) := s.getImeAction .startImeTimeout
      (s, match action with
        | .doActionInNullImeData => some .startInputService
        | .doActionInImeEventConvertFailed => none
        | .doNothing => none
        | _ => some (.forceStop false .startInputService))
  | .stopAction next =>
      let (s, action) := s.getImeAction .stopIme
      (s, match action with
        | .doActionInNullImeData => next.stage
        | .doActionInImeEventConvertFailed => none
        | .stopReadyIme => some (.stopReady next)
        | _ => some (.forceStop true next))
  | .stopReady next =>
      match s.realImeData with
      | none => (s, next.stage)
      | some place => (s, some (.stopRequest place next))
  | .stopRequest place next =>
      if (s.objects[place]?).bind ImeData.core = none then (s, some (.forceStop true next))
      else (s, if answers.stops then next.stage else some (.forceStop true next))
  | .forceStop isNeedWait next =>
      match s.realImeData with
      | none => (s, next.stage)
      | some _ =>
          if !answers.isRunningIme then (s, some (.forceRemove next))
          else if !answers.stopExtensionAbility then (s, none)
          else if !isNeedWait then (s, none)
          else (s, some (.forceWait next))
  | .forceWait next => (s, if answers.isRunningIme then none else some (.forceRemove next))
  | .forceRemove next => (s.removeRealImeData, next.stage)
  | .startInputService =>
      match answers.imeToStart with
      | none => (s, none)
      | some ime =>
          let (s, isFirstStart) := s.initRealImeData ime answers.connection
          (s, isFirstStart.map .connect)
  | .connect isFirstStart =>
      (s, if !answers.connectExtensionAbility && isFirstStart then some .connectFailed else none)
  | .connectFailed => (s.removeRealImeData, none)
  | .updateRealImeData core agent pid uid =>
      let (s, updated) := s.updateRealImeData core agent pid uid answers.fill
      (s, if updated then some .setCoreAndAgent else none)
  | .setCoreAndAgent => ((s.getImeAction .setCoreAndAgent).1, none)
  | .imeDied pid => (s, some (.removeImeData pid))
  | .removeImeData pid => (s.removeRealImeDataOf pid, none)

/-- The session, the `StartIme` that holds `imeStartLock_`, and the other calls. -/
structure State where
  session : Session := {}
  start : Option Stage := none
  calls : List Stage := []
  deriving DecidableEq, Repr

inductive Event where
  | startIme (ime : String × String) (isStopCurrentIme : Bool)
  | stopCurrentIme
  | onSetCoreAndAgent (core agent : Option Nat) (pid uid : Int32)
  | onImeDied (pid : Int32)
  | initConnect (pid : Int32)
  | advanceStart (answers : Answers)
  | advance (index : Nat) (answers : Answers)
  deriving DecidableEq, Repr

namespace State

variable (s : State)

def advanceStart (answers : Answers) : State :=
  match s.start with
  | none => s
  | some stage =>
      let (session, next) := exec s.session answers stage
      { s with session, start := next }

def advance (index : Nat) (answers : Answers) : State :=
  match s.calls[index]? with
  | none => s
  | some stage =>
      let (session, next) := exec s.session answers stage
      { s with session, calls := match next with
          | none => s.calls.eraseIdx index
          | some next => s.calls.set index next }

def step (s : State) : Event → State
  | .startIme ime isStopCurrentIme =>
      match s.start with
      | none => { s with start := some (.startIme ime isStopCurrentIme) }
      | some _ => s
  | .stopCurrentIme => { s with calls := s.calls ++ [.stopAction .done] }
  | .onSetCoreAndAgent core agent pid uid =>
      { s with calls := s.calls ++ [.updateRealImeData core agent pid uid] }
  | .onImeDied pid => { s with calls := s.calls ++ [.imeDied pid] }
  | .initConnect pid => { s with session := s.session.initConnect pid }
  | .advanceStart answers => s.advanceStart answers
  | .advance index answers => s.advance index answers

end State

/-! ## What a step does to the data -/

/-- The step on the data that a stage takes. -/
def Stage.atom (answers : Answers) : Stage → Atom
  | .startAction => .getImeAction .startIme
  | .timeoutAction => .getImeAction .startImeTimeout
  | .stopAction _ => .getImeAction .stopIme
  | .forceRemove _ => .removeRealImeData
  | .startInputService =>
      match answers.imeToStart with
      | none => .read
      | some ime => .initRealImeData ime answers.connection
  | .connectFailed => .removeRealImeData
  | .updateRealImeData core agent pid uid => .updateRealImeData core agent pid uid answers.fill
  | .setCoreAndAgent => .getImeAction .setCoreAndAgent
  | .removeImeData pid => .removeRealImeDataOf pid
  | _ => .read

theorem exec_session (s : Session) (answers : Answers) (stage : Stage) :
    (exec s answers stage).1 = s.after (stage.atom answers) := by
  cases stage with
  | startIme ime isStopCurrentIme =>
      simp only [exec]
      cases s.current <;> rfl
  | startCurrentIme =>
      simp only [exec]
      cases s.current <;> rfl
  | startAction => rfl
  | timeoutAction => rfl
  | stopAction next => rfl
  | stopReady next =>
      simp only [exec]
      cases s.realImeData <;> rfl
  | stopRequest place next =>
      simp only [exec]
      split <;> rfl
  | forceStop isNeedWait next =>
      simp only [exec]
      cases s.realImeData with
      | none => rfl
      | some place =>
          dsimp only
          split
          · rfl
          · split
            · rfl
            · split <;> rfl
  | forceWait next => rfl
  | forceRemove next => rfl
  | startInputService =>
      simp only [exec, Stage.atom]
      cases answers.imeToStart <;> rfl
  | connect isFirstStart => rfl
  | connectFailed => rfl
  | updateRealImeData core agent pid uid => rfl
  | setCoreAndAgent => rfl
  | imeDied pid => rfl
  | removeImeData pid => rfl

namespace State

variable (s : State)

/-- The step on the data that an event takes. -/
def atom : Event → Atom
  | .initConnect pid => .initConnect pid
  | .advanceStart answers =>
      match s.start with
      | none => .read
      | some stage => stage.atom answers
  | .advance index answers =>
      match s.calls[index]? with
      | none => .read
      | some stage => stage.atom answers
  | _ => .read

theorem step_session (event : Event) : (s.step event).session = s.session.after (s.atom event) := by
  cases event with
  | startIme ime isStopCurrentIme =>
      simp only [step]
      cases s.start <;> rfl
  | stopCurrentIme => rfl
  | onSetCoreAndAgent core agent pid uid => rfl
  | onImeDied pid => rfl
  | initConnect pid => rfl
  | advanceStart answers =>
      simp only [step, advanceStart, atom]
      cases s.start with
      | none => rfl
      | some stage => exact exec_session s.session answers stage
  | advance index answers =>
      simp only [step, advance, atom]
      cases s.calls[index]? with
      | none => rfl
      | some stage => exact exec_session s.session answers stage

end State

/-! ## The account of a run -/

/-- What a registration said. -/
structure Registration where
  core : Nat
  agent : Nat
  pid : Int32
  deriving DecidableEq, Repr

/-- What the steps said of the data that is in `realImeData_`: the last registration, and the
process that was named last. -/
structure Account where
  registration : Option Registration := none
  pid : Int32 := -1
  deriving DecidableEq, Repr

namespace Account

/-- The account after a step; there is one while there is data. -/
def after (account : Option Account) : Atom → Option Account
  | .initRealImeData _ true => some (account.getD {})
  | .updateRealImeData (some core) (some agent) pid _ _ =>
      account.map fun _ => { registration := some ⟨core, agent, pid⟩, pid }
  | .removeRealImeData => none
  | .removeRealImeDataOf pid => account.filter fun account => account.pid ≠ pid
  | .initConnect pid => account.map fun account => { account with pid }
  | _ => account

/-- The data was registered, and since then no step has named another process for it. -/
def Vouched (account : Account) : Prop := ∃ registration ∈ account.registration,
    registration.pid = account.pid

end Account

/-- The data has the core, the agent and the process of the last registration. -/
def Registered (data : ImeData) (account : Option Account) : Prop :=
  ∃ registration ∈ account.bind Account.registration,
    data.core = some registration.core ∧ data.agent = some registration.agent ∧
      data.pid = registration.pid

/-- The data holds what its account says. -/
structure Holds (data : ImeData) (account : Account) : Prop where
  pid : data.pid = account.pid
  core : ∀ registration ∈ account.registration, data.core = some registration.core
  agent : ∀ registration ∈ account.registration, data.agent = some registration.agent

theorem Holds.registered_iff {data : ImeData} {account : Account} (holds : Holds data account) :
    Registered data (some account) ↔ account.Vouched := by
  constructor
  · rintro ⟨registration, member, -, -, pid⟩
    exact ⟨registration, member, pid.symm.trans holds.pid⟩
  · rintro ⟨registration, member, pid⟩
    exact ⟨registration, member, holds.core _ member, holds.agent _ member, holds.pid.trans pid.symm⟩

namespace Session

variable {s : Session}

theorem current_modify (s : Session) (f : ImeData → ImeData) :
    (s.modify f).current = s.current.map f := by
  cases found : s.realImeData with
  | none => simp [modify, current, found]
  | some place => simp [modify, current, found, List.getElem?_modify]

theorem current_removeRealImeData (s : Session) : s.removeRealImeData.current = none := rfl

/-- The new status of the data. -/
theorem current_getImeAction {data : ImeData} (current : s.current = some data) {event : ImeEvent}
    {imeStatus : ImeStatus} {action : ImeAction}
    (entry : imeEventConverter.lookup (data.imeStatus, event) = some (imeStatus, action)) :
    (s.getImeAction event).1.current = some { data with imeStatus } := by
  simp only [getImeAction, current, entry]
  rw [current_modify, current]
  rfl

/-- There is data where there is an account, and it holds what the account says. -/
def Agrees (s : Session) (account : Option Account) : Prop := Option.Rel Holds s.current account

theorem agrees_none (absent : s.current = none) : s.Agrees none := by
  unfold Agrees
  rw [absent]
  exact .none

theorem agrees_some {data : ImeData} {known : Account} (current : s.current = some data)
    (holds : Holds data known) : s.Agrees (some known) := by
  unfold Agrees
  rw [current]
  exact .some holds

section Agreement

variable {account : Option Account}

/-- The account of data that is there. -/
theorem Agrees.known (agrees : s.Agrees account) {data : ImeData} (current : s.current = some data) :
    ∃ known, account = some known ∧ Holds data known := by
  unfold Agrees at agrees
  rw [current] at agrees
  cases agrees with
  | some holds => exact ⟨_, rfl, holds⟩

theorem Agrees.unknown (agrees : s.Agrees account) (absent : s.current = none) : account = none := by
  unfold Agrees at agrees
  rw [absent] at agrees
  cases agrees with
  | none => rfl

/-- What a change of the data makes of the account. -/
theorem Agrees.modify (agrees : s.Agrees account) {f : ImeData → ImeData} {g : Account → Account}
    (keeps : ∀ data known, Holds data known → Holds (f data) (g known)) :
    (s.modify f).Agrees (account.map g) := by
  cases current : s.current with
  | none =>
      rw [agrees.unknown current]
      exact agrees_none (by rw [current_modify, current]; rfl)
  | some data =>
      obtain ⟨known, rfl, holds⟩ := agrees.known current
      exact agrees_some (by rw [current_modify, current]; rfl) (keeps data known holds)

theorem Agrees.getImeAction (agrees : s.Agrees account) (event : ImeEvent) :
    (s.getImeAction event).1.Agrees account := by
  unfold Session.getImeAction
  split
  · exact agrees
  · split
    · exact agrees
    · rename_i imeStatus action _
      have kept := agrees.modify (f := fun data => { data with imeStatus }) (g := id)
        fun data known holds => ⟨holds.pid, holds.core, holds.agent⟩
      rwa [Option.map_id] at kept

theorem Agrees.initRealImeData (agrees : s.Agrees account) (ime : String × String) (connection : Bool) :
    (s.initRealImeData ime connection).1.Agrees
      (Account.after account (.initRealImeData ime connection)) := by
  unfold Session.initRealImeData
  cases found : s.current with
  | some data =>
      obtain ⟨known, rfl, holds⟩ := agrees.known found
      cases connection <;> exact agrees
  | none =>
      cases agrees.unknown found
      cases connection with
      | false => exact agrees
      | true =>
          have fresh : current
            { objects := s.objects ++ [{ ime }], realImeData := some s.objects.length } =
              some { ime } := by simp [current]
          exact agrees_some fresh ⟨rfl, nofun, nofun⟩

theorem Agrees.updateRealImeData (agrees : s.Agrees account) (core agent : Option Nat) (pid uid : Int32)
    (answers : FillAnswers) :
    (s.updateRealImeData core agent pid uid answers).1.Agrees
      (Account.after account (.updateRealImeData core agent pid uid answers)) := by
  cases core with
  | none => exact agrees
  | some core =>
      cases agent with
      | none => exact agrees
      | some agent =>
          unfold Session.updateRealImeData
          rw [if_neg (by simp)]
          cases found : s.current with
          | none =>
              cases agrees.unknown found
              exact agrees
          | some data =>
              refine agrees.modify fun data known _ => ?_
              obtain ⟨hasCore, hasAgent, hasPid, -⟩ := fillImeData_fills core agent pid data uid answers
              refine ⟨hasPid, ?_, ?_⟩
              · rintro registration ⟨⟩
                exact hasCore
              · rintro registration ⟨⟩
                exact hasAgent

theorem Agrees.removeRealImeDataOf (agrees : s.Agrees account) (pid : Int32) :
    (s.removeRealImeDataOf pid).Agrees (account.filter fun known => known.pid ≠ pid) := by
  unfold Session.removeRealImeDataOf
  cases found : s.current with
  | none =>
      cases agrees.unknown found
      exact agrees
  | some data =>
      obtain ⟨known, rfl, holds⟩ := agrees.known found
      dsimp only
      rw [Option.filter_some, holds.pid]
      by_cases other : known.pid ≠ pid
      · rw [if_pos other, if_pos (decide_eq_true other)]
        exact agrees
      · rw [if_neg other, if_neg (by simpa using other)]
        exact .none

end Agreement

/-- A step does to the data what the account says. -/
theorem Agrees.after {account : Option Account} (agrees : s.Agrees account) (atom : Atom) :
    (s.after atom).Agrees (Account.after account atom) := by
  cases atom with
  | read => exact agrees
  | getImeAction event => exact agrees.getImeAction event
  | initRealImeData ime connection => exact agrees.initRealImeData ime connection
  | updateRealImeData core agent pid uid answers =>
      exact agrees.updateRealImeData core agent pid uid answers
  | removeRealImeData => exact .none
  | removeRealImeDataOf pid => exact agrees.removeRealImeDataOf pid
  | initConnect pid => exact agrees.modify fun data account holds => ⟨rfl, holds.core, holds.agent⟩

/-! ## Ready data is registered -/

/-- Ready data has a core and an agent, and the process that registered them. -/
def ReadyRegistered (s : Session) (account : Option Account) : Prop :=
  ∀ data ∈ s.current, data.imeStatus = .ready → Registered data account

/-- A registration that goes on while the data is starting finds the data that it was made for,
or that another one was made for; `InitConnect` on ready data is for the process that registered
it. -/
def Orderly (s : Session) (account : Option Account) : Atom → Prop
  | .getImeAction .setCoreAndAgent =>
      s.current.map ImeData.imeStatus = some .starting → ∃ known ∈ account, known.Vouched
  | .initConnect pid =>
      s.current.map ImeData.imeStatus = some .ready →
        ∃ registration ∈ account.bind Account.registration, registration.pid = pid
  | _ => True

/-- Only a registration makes data ready that was not. -/
theorem lookup_ready {imeStatus : ImeStatus} {event : ImeEvent} {action : ImeAction}
    (entry : imeEventConverter.lookup (imeStatus, event) = some (.ready, action)) :
    imeStatus = .ready ∨ imeStatus = .starting ∧ event = .setCoreAndAgent := by
  have next : (imeEventConverter.lookup (imeStatus, event)).map Prod.fst = some .ready := by
    rw [entry]
    rfl
  revert next
  cases imeStatus <;> cases event <;> decide

theorem lookup_exiting {event : ImeEvent} {imeStatus : ImeStatus} {action : ImeAction}
    (entry : imeEventConverter.lookup (.exiting, event) = some (imeStatus, action)) :
    imeStatus = .exiting := by
  have next : (imeEventConverter.lookup (.exiting, event)).map Prod.fst = some .exiting := by
    cases event <;> decide
  rw [entry] at next
  exact Option.some.inj next

theorem lookup_total (imeStatus : ImeStatus) (event : ImeEvent) :
    ∃ next action, imeEventConverter.lookup (imeStatus, event) = some (next, action) := by
  cases imeStatus <;> cases event <;> exact ⟨_, _, rfl⟩

theorem readyRegistered_none {account : Option Account} (absent : s.current = none) :
    s.ReadyRegistered account := by
  intro data current
  rw [absent] at current
  cases current

theorem readyRegistered_some {data : ImeData} {account : Option Account}
    (current : s.current = some data) :
    s.ReadyRegistered account ↔ (data.imeStatus = .ready → Registered data account) := by
  unfold ReadyRegistered
  rw [current]
  simp

section Steps

variable {account : Option Account} (agrees : s.Agrees account) (kept : s.ReadyRegistered account)
include agrees kept

theorem readyRegistered_getImeAction (event : ImeEvent) :
    (s.getImeAction event).1.ReadyRegistered account ↔ s.Orderly account (.getImeAction event) := by
  cases current : s.current with
  | none =>
      have same : (s.getImeAction event).1 = s := by simp [getImeAction, current]
      rw [same]
      refine iff_of_true kept ?_
      cases event <;> simp [Orderly, current]
  | some data =>
      obtain ⟨known, rfl, holds⟩ := agrees.known current
      obtain ⟨next, action, entry⟩ := lookup_total data.imeStatus event
      rw [readyRegistered_some (current_getImeAction current entry)]
      have before := (readyRegistered_some current).1 kept
      constructor
      · intro after
        cases event with
        | setCoreAndAgent =>
            intro starting
            rw [current, Option.map_some, Option.some_inj] at starting
            rw [starting] at entry
            cases entry
            exact ⟨known, rfl, holds.registered_iff.1 (after rfl)⟩
        | startIme => trivial
        | startImeTimeout => trivial
        | stopIme => trivial
      · rintro orderly rfl
        rcases lookup_ready entry with ready | ⟨starting, rfl⟩
        · exact before ready
        · obtain ⟨other, same, vouched⟩ := orderly (by rw [current, Option.map_some, starting])
          cases same
          exact holds.registered_iff.2 vouched

theorem readyRegistered_initRealImeData (ime : String × String) (connection : Bool) :
    (s.initRealImeData ime connection).1.ReadyRegistered
      (Account.after account (.initRealImeData ime connection)) := by
  unfold initRealImeData
  cases found : s.current with
  | some data =>
      obtain ⟨known, rfl, -⟩ := agrees.known found
      cases connection <;> exact kept
  | none =>
      cases connection with
      | false => exact kept
      | true =>
          have current : current
            { objects := s.objects ++ [{ ime }], realImeData := some s.objects.length } =
              some { ime } := by simp [current]
          exact (readyRegistered_some current).2 fun ready => by cases ready

theorem readyRegistered_updateRealImeData (core agent : Option Nat) (pid uid : Int32)
    (answers : FillAnswers) :
    (s.updateRealImeData core agent pid uid answers).1.ReadyRegistered
      (Account.after account (.updateRealImeData core agent pid uid answers)) := by
  have updated := agrees.updateRealImeData core agent pid uid answers
  cases core with
  | none => exact kept
  | some core =>
      cases agent with
      | none => exact kept
      | some agent =>
          intro data current _
          obtain ⟨known, same, holds⟩ := updated.known current
          rw [same]
          obtain ⟨old, -, rfl⟩ := Option.map_eq_some_iff.1 same
          exact holds.registered_iff.2 ⟨_, rfl, rfl⟩

theorem readyRegistered_removeRealImeDataOf (pid : Int32) :
    (s.removeRealImeDataOf pid).ReadyRegistered (Account.after account (.removeRealImeDataOf pid)) := by
  have removed := agrees.removeRealImeDataOf pid
  intro data current ready
  obtain ⟨known, same, holds⟩ := removed.known current
  obtain ⟨rfl, -⟩ := Option.filter_eq_some_iff.1 same
  have here : s.current = some data := by
    unfold removeRealImeDataOf at current
    split at current
    · rename_i found
      rw [Option.mem_def, found] at current
      cases current
    · rename_i found
      split at current
      · exact current
      · cases current
  rw [Account.after, same]
  exact (readyRegistered_some here).1 kept ready

theorem readyRegistered_initConnect (pid : Int32) :
    (s.initConnect pid).ReadyRegistered (Account.after account (.initConnect pid)) ↔
      s.Orderly account (.initConnect pid) := by
  cases current : s.current with
  | none =>
      refine iff_of_true (readyRegistered_none ?_) ?_
      · rw [initConnect, current_modify, current]
        rfl
      · simp [Orderly, current]
  | some data =>
      obtain ⟨known, rfl, holds⟩ := agrees.known current
      have after : (s.initConnect pid).current = some { data with pid } := by
        rw [initConnect, current_modify, current]
        rfl
      have told : Holds { data with pid } { known with pid } := ⟨rfl, holds.core, holds.agent⟩
      rw [readyRegistered_some after]
      show (data.imeStatus = .ready → Registered _ (some { known with pid })) ↔ _
      rw [told.registered_iff, Orderly, current, Option.map_some, Option.some_inj]
      exact Iff.rfl

/-- A step keeps ready data registered exactly when it is orderly. -/
theorem readyRegistered_after (atom : Atom) :
    (s.after atom).ReadyRegistered (Account.after account atom) ↔ s.Orderly account atom := by
  cases atom with
  | read => exact iff_of_true kept trivial
  | getImeAction event => exact readyRegistered_getImeAction agrees kept event
  | initRealImeData ime connection =>
      exact iff_of_true (readyRegistered_initRealImeData agrees kept ime connection) trivial
  | updateRealImeData core agent pid uid answers =>
      exact iff_of_true (readyRegistered_updateRealImeData agrees kept core agent pid uid answers)
        trivial
  | removeRealImeData => exact iff_of_true (readyRegistered_none (current_removeRealImeData s)) trivial
  | removeRealImeDataOf pid =>
      exact iff_of_true (readyRegistered_removeRealImeDataOf agrees kept pid) trivial
  | initConnect pid => exact readyRegistered_initConnect agrees kept pid

end Steps

/-! ## Exiting data stays exiting -/

/-- The object at the place is exiting. -/
def ExitingAt (s : Session) (place : Nat) : Prop :=
  ∃ data ∈ s.objects[place]?, data.imeStatus = .exiting

theorem exitingAt_modify {place : Nat} (exiting : s.ExitingAt place) {f : ImeData → ImeData}
    (keeps : ∀ data, data.imeStatus = .exiting → s.current = some data →
      (f data).imeStatus = .exiting) :
    (s.modify f).ExitingAt place := by
  obtain ⟨data, found, status⟩ := exiting
  unfold modify
  cases target : s.realImeData with
  | none => exact ⟨data, found, status⟩
  | some at' =>
      by_cases same : at' = place
      · subst same
        refine ⟨f data, by simp [Option.mem_def.1 found], keeps data status ?_⟩
        rw [current, target]
        exact found
      · exact ⟨data, by simpa [List.getElem?_modify, same] using found, status⟩

theorem exitingAt_getImeAction {place : Nat} (exiting : s.ExitingAt place) (event : ImeEvent) :
    (s.getImeAction event).1.ExitingAt place := by
  unfold getImeAction
  cases current : s.current with
  | none => exact exiting
  | some data =>
      obtain ⟨next, action, entry⟩ := lookup_total data.imeStatus event
      simp only [entry]
      refine exitingAt_modify exiting fun found status here => ?_
      rw [current] at here
      cases here
      rw [status] at entry
      exact lookup_exiting entry

theorem exitingAt_after {place : Nat} (exiting : s.ExitingAt place) (atom : Atom) :
    (s.after atom).ExitingAt place := by
  cases atom with
  | read => exact exiting
  | getImeAction event => exact exitingAt_getImeAction exiting event
  | initRealImeData ime connection =>
      obtain ⟨data, found, status⟩ := exiting
      simp only [after, initRealImeData]
      split
      · exact ⟨data, found, status⟩
      · split
        · refine ⟨data, ?_, status⟩
          rw [Option.mem_def] at found ⊢
          obtain ⟨bound, -⟩ := List.getElem?_eq_some_iff.1 found
          exact (List.getElem?_append_left bound).trans found
        · exact ⟨data, found, status⟩
  | updateRealImeData core agent pid uid answers =>
      simp only [after, updateRealImeData]
      split
      · exact exiting
      · rename_i given
        obtain ⟨core, rfl⟩ := Option.ne_none_iff_exists'.1 fun none => given (.inl none)
        obtain ⟨agent, rfl⟩ := Option.ne_none_iff_exists'.1 fun none => given (.inr none)
        split
        · exact exiting
        · exact exitingAt_modify exiting fun data status _ =>
            (fillImeData_fills core agent pid data uid answers).2.2.2.trans status
  | removeRealImeData => exact exiting
  | removeRealImeDataOf pid =>
      simp only [after, removeRealImeDataOf]
      split
      · exact exiting
      · split <;> exact exiting
  | initConnect pid => exact exitingAt_modify exiting fun _ status _ => status

/-! ## A death removes its own data -/

theorem removeRealImeDataOf_other {data : ImeData} (current : s.current = some data) {pid : Int32}
    (other : data.pid ≠ pid) : s.removeRealImeDataOf pid = s := by
  simp [removeRealImeDataOf, current, other]

end Session

/-! ## Runs -/

namespace State

/-- A step of `OnImeDied` for a process leaves the data of another one. -/
def DiesAlone (s : State) (event : Event) : Prop :=
  ∀ index answers pid, event = .advance index answers →
    s.calls[index]? = some (.imeDied pid) ∨ s.calls[index]? = some (.removeImeData pid) →
    ∀ data ∈ s.session.current, data.pid ≠ pid → (s.step event).session = s.session

theorem diesAlone (s : State) (event : Event) : s.DiesAlone event := by
  rintro index answers pid rfl stage data current other
  rw [step_session]
  rcases stage with stage | stage
  · simp [atom, stage, Stage.atom, Session.after]
  · simp only [atom, stage, Stage.atom, Session.after]
    exact Session.removeRealImeDataOf_other current other

theorem exitingAt_run {s : State} {place : Nat} (exiting : s.session.ExitingAt place)
    (es : List Event) :
    (run step s es).session.ExitingAt place := by
  refine run_always (P := fun s : State => s.session.ExitingAt place)
    (fun s event exiting => ?_) exiting es
  rw [step_session]
  exact Session.exitingAt_after exiting _

end State

/-- A state with the account of the run up to it. -/
structure Accounted where
  state : State := {}
  account : Option Account := none
  deriving DecidableEq, Repr

namespace Accounted

def step (a : Accounted) (event : Event) : Accounted where
  state := a.state.step event
  account := Account.after a.account (a.state.atom event)

/-- The event is not a registration that hits data which nobody has registered, nor an
`InitConnect` of another process on ready data. -/
def Orderly (a : Accounted) (event : Event) : Prop :=
  a.state.session.Orderly a.account (a.state.atom event)

theorem state_run (a : Accounted) (es : List Event) :
    (run step a es).state = run State.step a.state es := by
  induction es generalizing a with
  | nil => rfl
  | cons event es ih => exact ih (a.step event)

theorem agrees_step {a : Accounted} (agrees : a.state.session.Agrees a.account) (event : Event) :
    (a.step event).state.session.Agrees (a.step event).account := by
  show (a.state.step event).session.Agrees _
  rw [State.step_session]
  exact agrees.after _

theorem readyRegistered_step {a : Accounted} (agrees : a.state.session.Agrees a.account)
    (kept : a.state.session.ReadyRegistered a.account) (event : Event) :
    (a.step event).state.session.ReadyRegistered (a.step event).account ↔ a.Orderly event := by
  show (a.state.step event).session.ReadyRegistered _ ↔ _
  rw [State.step_session]
  exact Session.readyRegistered_after agrees kept _

end Accounted

/-- The account of a run: who registered the data that is there, as the steps of the run say. -/
def accountOf (es : List Event) : Option Account := (run Accounted.step {} es).account

/-- The life of the data over a run: ready data has the core and the agent that were registered
last, and the process that did it; exiting data stays so; and a death takes the data of its own
process only. -/
structure Kept (es : List Event) : Prop where
  ready : ∀ fs, fs <+: es → (run State.step {} fs).session.ReadyRegistered (accountOf fs)
  exiting : ∀ before after place,
    before ++ after <+: es → (run State.step {} before).session.ExitingAt place →
    (run State.step {} (before ++ after)).session.ExitingAt place
  died : ∀ before event, before ++ [event] <+: es → (run State.step {} before).DiesAlone event

/-- **The life of the data.** It is kept over a run exactly when every step of the run is orderly. -/
theorem lifecycle_kept (es : List Event) : Kept es ↔ Meets Accounted.step Accounted.Orderly {} es := by
  have registered : (∀ fs, fs <+: es → (run State.step {} fs).session.ReadyRegistered (accountOf fs)) ↔
      Meets Accounted.step Accounted.Orderly {} es := by
    have exactly : (∀ fs, fs <+: es → (run Accounted.step {} fs).state.session.ReadyRegistered
        (run Accounted.step {} fs).account) ↔ Meets Accounted.step Accounted.Orderly {} es :=
      invariant_prefixes_iff_meets
        (P := fun a : Accounted => a.state.session.ReadyRegistered a.account)
        (I := fun (a : Accounted) (_ : List Event) => a.state.session.Agrees a.account)
        (fun a event _ agrees => Accounted.agrees_step agrees event)
        (fun a event _ agrees kept => Accounted.readyRegistered_step agrees kept event)
        .none (Session.readyRegistered_none rfl)
    refine Iff.trans (forall_congr' fun fs => ?_) exactly
    rw [Accounted.state_run]
    exact Iff.rfl
  constructor
  · intro kept
    exact registered.1 kept.ready
  · intro orderly
    refine ⟨registered.2 orderly,
      fun before after place _ exiting => ?_, fun before event _ => State.diesAlone _ event⟩
    rw [run_append]
    exact State.exitingAt_run exiting after

/-! ## Poles -/

/-- An input method that is started, whose start is not waited for. -/
def starting : List Event :=
  [.startIme ("bundle", "ext") false, .advanceStart {},
    .advanceStart { imeToStart := some ("bundle", "ext") },
    .advanceStart {}]

/-- Process 10 registers in time and is ready. -/
example : (run State.step {}
    (starting ++ [.onSetCoreAndAgent (some 1) (some 2) 10 20010040, .advance 0 {},
    .advance 0 {}])).session.current =
      some
        { core := some 1
          agent := some 2
          deathRecipient := true
          pid := 10
          uid := 20010040
          imeStatus := .ready
          ime := ("bundle", "ext") } := by
  decide

/-- Process 10 registers and dies before the registration is through.  The input method is
started again, and the rest of the registration makes the new data ready, which has no core. -/
theorem late_registration_unregistered :
    ¬ Kept (starting ++ [.onSetCoreAndAgent (some 1) (some 2) 10 20010040, .advance 0 {},
      .onImeDied 10, .advance 1 {},
      .advance 1 {}] ++ starting ++ [.advance 0 {}]) := by
  intro kept
  obtain ⟨registration, -, core, -⟩ := kept.ready _ (List.prefix_refl _)
    { ime := ("bundle", "ext"), imeStatus := .ready } (by decide) rfl
  cases core

end Imf.Lifecycle
