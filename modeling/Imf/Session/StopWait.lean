/-
# Imf.Session.StopWait -- waiting for an input method to stop

`StopReadyCurrentIme` and `ForceStopCurrentIme` ask an input method to stop and then wait, for
`STOP_IME_TIME` at most, until `OnImeDied` tells that it has.  `WaitForCurrentImeStop` arms
`isSwitching_`, `NotifyImeStopFinished` clears it, both under one lock; but the request has left
before the flag is armed, and a notice that comes in between is wiped out by the arming.  So is
one that a waiting call has not looked at yet when another call arms the flag.  And a notice wakes
one thread only (`notify_one`): of two that sleep for one input method the other sleeps on until
its time is over.

`notices_seen_iff` says that nothing else goes wrong: whoever waits is woken by the notice of its
input method exactly as long as the flag is never armed on top of one and a notice never leaves
somebody asleep for whom it is meant (`InTime`).  The other half holds in every run: the notice
that ends a wait is younger than the request of that wait.
-/
import Imf.Lib.Threads
import Imf.Session.Lifecycle

namespace Imf.StopWait

set_option autoImplicit false

open Lib (Meets forall_mem_goOn goOn invariant_prefixes_iff_meets mem_goOn_iff mem_threads_iff
  next_or_mem run run_always)
open Lifecycle (Atom Session)

/-! ## The calls -/

inductive Stopper where
  | stopReadyCurrentIme
  | forceStopCurrentIme
  deriving DecidableEq, Repr

/-- Who waits, for which data, and how many notices there had been when its request was sent. -/
structure Wait where
  stopper : Stopper
  place : Nat
  sent : Nat
  deriving DecidableEq, Repr

/-- A wait that is over: what `WaitForCurrentImeStop` returned, whether its time was over, the notice
that had cleared the flag, and the notices between the request and the end of the sleep. -/
structure Ended extends Wait where
  returned : Bool
  timedOut : Bool
  endedBy : Option Nat
  given : List Nat
  deriving DecidableEq, Repr

/-- What a call does next. -/
inductive Stage where
  /-- `StopCurrentIme` and `StopReadyCurrentIme`. -/
  | stopAction
  | stopReady
  | stopInputService (place : Nat)
  /-- `ForceStopCurrentIme`. -/
  | forceStop (isNeedWait : Bool)
  | stopExtensionAbility (place : Nat) (isNeedWait : Bool)
  | stillRunning
  | removeRealImeData
  /-- `WaitForCurrentImeStop`: before it has the lock; asleep in `wait_for`; awake, before it has the
  lock again; and after its time, with what had been given by then. -/
  | arm (wait : Wait)
  | waiting (wait : Wait)
  | woken (wait : Wait)
  | expired (wait : Wait) (given : List Nat)
  /-- `OnImeDied`. -/
  | imeDied (pid : Int32)
  | imeStatus (pid : Int32) (place : Nat)
  | removeExiting (pid : Int32) (place : Nat)
  | removeImeData (pid : Int32)
  | notifyImeStopFinished (place : Nat)
  deriving DecidableEq, Repr

/-- What a call is told between its steps. -/
structure Answers where
  stopInputService : Bool := true
  stopExtensionAbility : Bool := true
  isRunningIme : Bool := true
  /-- `STOP_IME_TIME` has passed for one that sleeps.  Without it the thread wakes for no reason. -/
  timeout : Bool := false
  /-- The call that `notify_one` wakes, if it sleeps. -/
  likely : Nat := 0
  deriving DecidableEq, Repr

/-- The call sleeps in `wait_for`. -/
def Stage.sleeps : Stage → Bool
  | .waiting _ => true
  | _ => false

def Stage.wake : Stage → Stage
  | .waiting wait => .woken wait
  | stage => stage

/-- `notify_one`: one of the calls that sleep wakes, the likely one if it does. -/
def notifyOne (calls : List Stage) (likely : Nat) : List Stage :=
  if calls[likely]?.any Stage.sleeps then calls.modify likely Stage.wake
  else
    match calls.findIdx? Stage.sleeps with
    | none => calls
    | some index => calls.modify index Stage.wake

/-- The session, with the data of each notice so far.  `clearedBy` is the notice that cleared the
flag since it was armed last. -/
structure State where
  session : Session := {}
  isSwitching : Bool := false
  notices : List Nat := []
  clearedBy : Option Nat := none
  ended : List Ended := []
  calls : List Stage := []
  deriving DecidableEq, Repr

inductive Event where
  | stopCurrentIme
  /-- The `ForceStopCurrentIme` of a start. -/
  | forceStopCurrentIme (isNeedWait : Bool)
  | onImeDied (pid : Int32)
  /-- A step of another call that takes the lock of the data. -/
  | data (atom : Atom)
  | advance (index : Nat) (answers : Answers)
  deriving DecidableEq, Repr

/-- Everything but a step of a call. -/
def Event.Outside : Event → Prop
  | .advance _ _ => False
  | _ => True

namespace State

variable (s : State)

/-- The place of `GetRealImeData`, of the input method with this process. -/
def realImeDataOf (pid : Int32) : Option Nat :=
  match s.session.current with
  | none => none
  | some data => if data.pid ≠ pid then none else s.session.realImeData

/-- The locked part of `WaitForCurrentImeStop` before it waits. -/
def armed : State := { s with isSwitching := true, clearedBy := none }

def notifyImeStopFinished (place likely : Nat) : State :=
  { s with
    isSwitching := false
    notices := s.notices ++ [place]
    clearedBy := some s.notices.length
    calls := notifyOne s.calls likely }

/-- The wait ends with what its predicate says now. -/
def endOf (wait : Wait) (timedOut : Bool) (given : List Nat) : Ended :=
  { wait with returned := !s.isSwitching, timedOut, endedBy := s.clearedBy, given }

/-- What the stopping call does once `WaitForCurrentImeStop` has returned. -/
def afterWait (wait : Wait) : Option Stage :=
  match wait.stopper with
  | .stopReadyCurrentIme => if s.isSwitching then some (.forceStop true) else none
  | .forceStopCurrentIme => some .stillRunning

/-- One step of a call: the state after it and what the call does next. -/
def exec (answers : Answers) : Stage → State × Option Stage
  | .stopAction =>
      let (session, action) := s.session.getImeAction .stopIme
      ({ s with session }, match action with
        | .doActionInNullImeData => none
        | .doActionInImeEventConvertFailed => none
        | .stopReadyIme => some .stopReady
        | _ => some (.forceStop true))
  | .stopReady => (s, s.session.realImeData.map .stopInputService)
  | .stopInputService place =>
      (s, some (if (s.session.objects[place]?).bind ImeData.core = none then .forceStop true
        else if answers.stopInputService then
          .arm { stopper := .stopReadyCurrentIme, place, sent := s.notices.length }
        else .forceStop true))
  | .forceStop isNeedWait =>
      (s, s.session.realImeData.map fun place =>
        if answers.isRunningIme then .stopExtensionAbility place isNeedWait else .removeRealImeData)
  | .stopExtensionAbility place isNeedWait =>
      (s, if answers.stopExtensionAbility && isNeedWait then
          some (.arm { stopper := .forceStopCurrentIme, place, sent := s.notices.length })
        else none)
  | .stillRunning => (s, if answers.isRunningIme then none else some .removeRealImeData)
  | .removeRealImeData => ({ s with session := s.session.removeRealImeData }, none)
  | .arm wait => (s.armed, some (.waiting wait))
  | .waiting wait =>
      (s, some (if answers.timeout then .expired wait (s.notices.drop wait.sent) else .woken wait))
  | .woken wait =>
      if s.isSwitching then (s, some (.waiting wait))
      else ({ s with ended := s.ended ++ [s.endOf wait false (s.notices.drop wait.sent)] },
        s.afterWait wait)
  | .expired wait given => ({ s with ended := s.ended ++ [s.endOf wait true given] }, s.afterWait wait)
  | .imeDied pid =>
      (s, some (match s.realImeDataOf pid with
        | none => .removeImeData pid
        | some place => .imeStatus pid place))
  | .imeStatus pid place =>
      (s, some (if (s.session.objects[place]?).map ImeData.imeStatus = some .exiting then
        .removeExiting pid place
        else .removeImeData pid))
  | .removeExiting pid place =>
      ({ s with session := s.session.removeRealImeDataOf pid }, some (.notifyImeStopFinished place))
  | .removeImeData pid => ({ s with session := s.session.removeRealImeDataOf pid }, none)
  | .notifyImeStopFinished place => (s.notifyImeStopFinished place answers.likely, none)

def step (s : State) : Event → State
  | .stopCurrentIme => { s with calls := s.calls ++ [.stopAction] }
  | .forceStopCurrentIme isNeedWait => { s with calls := s.calls ++ [.forceStop isNeedWait] }
  | .onImeDied pid => { s with calls := s.calls ++ [.imeDied pid] }
  | .data atom => { s with session := s.session.after atom }
  | .advance index answers =>
      match s.calls[index]? with
      | none => s
      | some stage =>
          let (s', next) := s.exec answers stage
          { s' with calls := goOn s'.calls index next }

end State

/-! ## What a step does to the flag -/

/-- The input method that is waited for has died, and the notice came after the request. -/
def Wait.Noticed (notices : List Nat) (wait : Wait) : Prop := wait.place ∈ notices.drop wait.sent

instance (notices : List Nat) (wait : Wait) : Decidable (wait.Noticed notices) :=
  inferInstanceAs (Decidable (_ ∈ _))

namespace Stage

/-- Who waits. -/
def wait? : Stage → Option Wait
  | .waiting wait => some wait
  | .woken wait => some wait
  | .expired wait _ => some wait
  | _ => none

/-- The call waits although it has been given its notice. -/
def Outstanding (notices : List Nat) : Stage → Prop
  | .waiting wait => wait.Noticed notices
  | .woken wait => wait.Noticed notices
  | .expired wait given => wait.place ∈ given
  | _ => False

instance (notices : List Nat) : ∀ stage : Stage, Decidable (stage.Outstanding notices)
  | .waiting wait => inferInstanceAs (Decidable (wait.Noticed notices))
  | .woken wait => inferInstanceAs (Decidable (wait.Noticed notices))
  | .expired wait given => inferInstanceAs (Decidable (wait.place ∈ given))
  | .stopAction | .stopReady | .stopInputService _ | .forceStop _ | .stopExtensionAbility _
      _ | .stillRunning
  | .removeRealImeData | .arm _ | .imeDied _ | .imeStatus _ _ | .removeExiting _ _ | .removeImeData _
  | .notifyImeStopFinished _ => .isFalse id

/-- The call sleeps until this input method has stopped. -/
def SleepsFor (place : Nat) : Stage → Prop
  | .waiting wait => wait.place = place
  | _ => False

instance (place : Nat) : ∀ stage : Stage, Decidable (stage.SleepsFor place)
  | .waiting wait => inferInstanceAs (Decidable (wait.place = place))
  | .stopAction | .stopReady | .stopInputService _ | .forceStop _ | .stopExtensionAbility _
      _ | .stillRunning
  | .removeRealImeData | .arm _ | .woken _ | .expired _ _ | .imeDied _ | .imeStatus _
      _ | .removeExiting _ _
  | .removeImeData _ | .notifyImeStopFinished _ => .isFalse id

/-- The call arms the flag or gives a notice. -/
def Signals : Stage → Prop
  | .arm _ => True
  | .notifyImeStopFinished _ => True
  | _ => False

/-- The call does not wait, and a request that it has sent is the last thing that happened. -/
def Fresh (notices : List Nat) : Stage → Prop
  | .waiting _ => False
  | .woken _ => False
  | .expired _ _ => False
  | .arm wait => wait.sent = notices.length
  | _ => True

theorem Fresh.not_outstanding {notices : List Nat} {stage : Stage} (fresh : stage.Fresh notices) :
    ¬ stage.Outstanding notices := by
  cases stage with
  | waiting wait => exact fresh.elim
  | woken wait => exact fresh.elim
  | expired wait given => exact fresh.elim
  | _ => exact id

end Stage

/-! ## Whom a notice wakes -/

/-- A call that is changed by the notice slept, and is awake. -/
theorem mem_notifyOne {calls : List Stage} {likely : Nat} {other : Stage}
    (member : other ∈ notifyOne calls likely) :
    other ∈ calls ∨ ∃ wait, other = .woken wait ∧ .waiting wait ∈ calls := by
  have changed : ∀ index, other ∈ calls.modify index Stage.wake →
      other ∈ calls ∨ ∃ wait, other = .woken wait ∧ .waiting wait ∈ calls := by
    intro index member
    obtain ⟨i, there⟩ := List.mem_iff_getElem?.1 member
    rw [List.getElem?_modify] at there
    obtain ⟨stage, before, after⟩ := Option.map_eq_some_iff.1 there
    have member := List.mem_of_getElem? before
    split at after
    · cases stage with
      | waiting wait => exact .inr ⟨wait, after.symm, member⟩
      | _ => exact .inl (after ▸ member)
    · exact .inl (after ▸ member)
  unfold notifyOne at member
  split at member
  · exact changed likely member
  · split at member
    · exact .inl member
    · exact changed _ member

/-- A call that does not sleep is left alone. -/
theorem getElem?_notifyOne {calls : List Stage} {likely index : Nat} {stage : Stage}
    (picked : calls[index]? = some stage) (awake : stage.wake = stage) :
    (notifyOne calls likely)[index]? = some stage := by
  have kept : ∀ i, (calls.modify i Stage.wake)[index]? = some stage := by
    intro i
    rw [List.getElem?_modify, picked]
    show some _ = some stage
    split
    · exact congrArg some awake
    · rfl
  unfold notifyOne
  split
  · exact kept likely
  · split
    · exact picked
    · exact kept _

namespace State

/-- What a step does to the flag and the waits: it arms the flag, wakes, times out, looks at the flag,
clears it, or leaves it and all that is known of the waits alone. -/
inductive Move (s : State) : Stage → State → Option Stage → Prop where
  | arm (wait : Wait) : Move s (.arm wait) s.armed (some (.waiting wait))
  | wake (wait : Wait) : Move s (.waiting wait) s (some (.woken wait))
  | expire (wait : Wait) : Move s (.waiting wait) s (some (.expired wait (s.notices.drop wait.sent)))
  | sleep (wait : Wait) (switching : s.isSwitching = true) :
      Move s (.woken wait) s (some (.waiting wait))
  | look (wait : Wait) (clear : s.isSwitching = false) :
      Move s (.woken wait)
        { s with ended := s.ended ++ [s.endOf wait false (s.notices.drop wait.sent)] }
        (s.afterWait wait)
  | giveUp (wait : Wait) (given : List Nat) :
      Move s (.expired wait given) { s with ended := s.ended ++ [s.endOf wait true given] }
        (s.afterWait wait)
  | notify (place likely : Nat) :
      Move s (.notifyImeStopFinished place) (s.notifyImeStopFinished place likely) none
  | plain {stage : Stage} (session : Session) {next : Option Stage} (plain : ¬ stage.Signals)
      (fresh : ∀ later ∈ next, later.Fresh s.notices) : Move s stage { s with session } next

variable {s : State} {answers : Answers} {stage : Stage}

theorem exec_moves (s : State) (answers : Answers) (stage : Stage) :
    s.Move stage (s.exec answers stage).1 (s.exec answers stage).2 := by
  cases stage with
  | stopAction =>
      refine .plain (s.session.getImeAction .stopIme).1 id ?_
      intro later member
      simp only [exec] at member
      split at member <;> cases member <;> trivial
  | stopReady =>
      refine .plain s.session id ?_
      intro later member
      obtain ⟨place, -, rfl⟩ := Option.map_eq_some_iff.1 member
      trivial
  | stopInputService place =>
      refine .plain s.session id ?_
      rintro later ⟨⟩
      split
      · trivial
      · split
        · rfl
        · trivial
  | forceStop isNeedWait =>
      refine .plain s.session id ?_
      intro later member
      obtain ⟨place, -, rfl⟩ := Option.map_eq_some_iff.1 member
      split <;> trivial
  | stopExtensionAbility place isNeedWait =>
      refine .plain s.session id ?_
      intro later member
      simp only [exec] at member
      split at member
      · cases member
        rfl
      · cases member
  | stillRunning =>
      refine .plain s.session id ?_
      intro later member
      simp only [exec] at member
      split at member <;> cases member
      trivial
  | removeRealImeData => exact .plain _ id (by rintro _ ⟨⟩)
  | arm wait => exact .arm wait
  | waiting wait =>
      simp only [exec]
      split
      · exact .expire wait
      · exact .wake wait
  | woken wait =>
      simp only [exec]
      split
      · rename_i switching
        exact .sleep wait switching
      · rename_i clear
        exact .look wait (by simpa using clear)
  | expired wait given => exact .giveUp wait given
  | imeDied pid =>
      refine .plain s.session id ?_
      rintro later ⟨⟩
      split <;> trivial
  | imeStatus pid place =>
      refine .plain s.session id ?_
      rintro later ⟨⟩
      split <;> trivial
  | removeExiting pid place =>
      refine .plain _ id ?_
      rintro later ⟨⟩
      trivial
  | removeImeData pid => exact .plain _ id (by rintro _ ⟨⟩)
  | notifyImeStopFinished place => exact .notify place answers.likely

theorem step_advance {index : Nat} (picked : s.calls[index]? = some stage) (answers : Answers) :
    ∃ s' next, s.Move stage s' next ∧ s.step (.advance index answers) =
      { s' with calls := goOn s'.calls index next } :=
  ⟨_, _, exec_moves s answers stage, by simp only [step, picked]⟩

/-- A call that there is not does nothing. -/
theorem step_nobody {index : Nat} (nobody : s.calls[index]? = none) (answers : Answers) :
    s.step (.advance index answers) = s := by
  simp only [step, nobody]

/-- What is added or changed from outside is no wait. -/
theorem step_outside (s : State) {event : Event} (outside : event.Outside) :
    ∃ session more, s.step event = { s with session, calls := s.calls ++ more } ∧
      ∀ stage ∈ more, stage.Fresh s.notices := by
  cases event with
  | stopCurrentIme => exact ⟨s.session, [.stopAction], rfl, by simp [Stage.Fresh]⟩
  | forceStopCurrentIme isNeedWait =>
      exact ⟨s.session, [.forceStop isNeedWait], rfl, by simp [Stage.Fresh]⟩
  | onImeDied pid => exact ⟨s.session, [.imeDied pid], rfl, by simp [Stage.Fresh]⟩
  | data atom => exact ⟨s.session.after atom, [], by simp [step], by simp⟩
  | advance index answers => exact outside.elim

end State

/-! ## The notice is seen -/

namespace State

/-- Whoever was given the notice of its input method between its request and the end of its sleep has
returned `true`, and not because its time was over; and whoever waits and has been given it does so
with the next step of its thread. -/
def NoticesSeen (s : State) : Prop :=
  (∀ ended ∈ s.ended, ended.place ∈ ended.given → ended.returned = true ∧ ended.timedOut = false) ∧
    ∀ index stage, s.calls[index]? = some stage → stage.Outstanding s.notices → ∀ answers,
      ∃ ended, stage.wait? = some ended.toWait ∧ ended.returned = true ∧ ended.timedOut = false ∧
        (s.step (.advance index answers)).ended = s.ended ++ [ended]

/-- The call that arms the flag has not been given its notice since its request, and neither has one
that waits; and a notice leaves nobody asleep who waits for its input method. -/
def InTime (s : State) (answers : Answers) : Stage → Prop
  | .arm wait => ¬ wait.Noticed s.notices ∧ ∀ stage ∈ s.calls, ¬ stage.Outstanding s.notices
  | .notifyImeStopFinished place => ∀ stage ∈ notifyOne s.calls answers.likely, ¬ stage.SleepsFor place
  | _ => True

/-- The flag is not armed on top of a notice that somebody has yet to see, and everybody whom a notice
is meant for wakes. -/
def StepInTime (s : State) : Event → Prop
  | .advance index answers => ∀ stage ∈ s.calls[index]?, s.InTime answers stage
  | _ => True

instance (s : State) (answers : Answers) : ∀ stage : Stage, Decidable (s.InTime answers stage)
  | .arm wait =>
      inferInstanceAs (Decidable
        (¬ wait.Noticed s.notices ∧ ∀ stage ∈ s.calls, ¬ stage.Outstanding s.notices))
  | .notifyImeStopFinished place =>
      inferInstanceAs (Decidable (∀ stage ∈ notifyOne s.calls answers.likely, ¬ stage.SleepsFor place))
  | .stopAction | .stopReady | .stopInputService _ | .forceStop _ | .stopExtensionAbility _
      _ | .stillRunning
  | .removeRealImeData | .waiting _ | .woken _ | .expired _ _ | .imeDied _ | .imeStatus _
      _ | .removeExiting _ _
  | .removeImeData _ => .isTrue trivial

instance (s : State) : ∀ event : Event, Decidable (s.StepInTime event)
  | .advance index answers =>
      inferInstanceAs (Decidable (∀ stage ∈ s.calls[index]?, s.InTime answers stage))
  | .stopCurrentIme | .forceStopCurrentIme _ | .onImeDied _ | .data _ => .isTrue trivial

/-- All ended waits have seen their notice, and whoever has yet to see it is awake and finds the flag
clear. -/
structure Clear (s : State) : Prop where
  seen : ∀ ended ∈ s.ended, ended.place ∈ ended.given → ended.returned = true ∧ ended.timedOut = false
  awake : ∀ stage ∈ s.calls, stage.Outstanding s.notices → ∃ wait, stage = .woken wait
  clear : ∀ stage ∈ s.calls, stage.Outstanding s.notices → s.isSwitching = false

variable {s : State}

theorem inTime_of_plain {answers : Answers} {stage : Stage} (plain : ¬ stage.Signals) :
    s.InTime answers stage := by
  cases stage with
  | arm wait => exact absurd trivial plain
  | notifyImeStopFinished place => exact absurd trivial plain
  | _ => trivial

/-- What the next step of a call that waits can do: only one that is awake ends by a notice, if the flag
is clear. -/
theorem noticesSeen_iff (s : State) : s.NoticesSeen ↔ s.Clear := by
  constructor
  · rintro ⟨seen, next⟩
    have ends : ∀ stage ∈ s.calls, stage.Outstanding s.notices →
        (∃ wait, stage = .woken wait) ∧ s.isSwitching = false := by
      intro stage member outstanding
      obtain ⟨index, picked⟩ := List.mem_iff_getElem?.1 member
      obtain ⟨ended, -, returned, untimed, log⟩ := next index stage picked outstanding {}
      cases stage with
      | waiting wait => simp [step, picked, exec] at log
      | woken wait =>
          refine ⟨⟨wait, rfl⟩, ?_⟩
          cases flag : s.isSwitching with
          | false => rfl
          | true => simp [step, picked, exec, flag] at log
      | expired wait given =>
          have now : s.endOf wait true given = ended := by
            simpa [step, picked, exec] using log
          rw [← now] at untimed
          cases untimed
      | _ => exact outstanding.elim
    exact ⟨seen, fun stage member outstanding => (ends stage member outstanding).1,
      fun stage member outstanding => (ends stage member outstanding).2⟩
  · rintro ⟨seen, awake, clear⟩
    refine ⟨seen, ?_⟩
    intro index stage picked outstanding answers
    obtain ⟨wait, rfl⟩ := awake stage (List.mem_of_getElem? picked) outstanding
    have flag := clear _ (List.mem_of_getElem? picked) outstanding
    refine ⟨s.endOf wait false (s.notices.drop wait.sent), rfl, ?_, rfl, ?_⟩
    · simp [endOf, flag]
    · simp [step, picked, exec, flag]

/-- Steps that add no outstanding wait keep what was clear. -/
theorem Clear.mono {s' : State} (before : s.Clear) (ended : s'.ended = s.ended)
    (notices : s'.notices = s.notices) (flag : s'.isSwitching = s.isSwitching)
    (calls : ∀ stage ∈ s'.calls, stage.Outstanding s.notices → stage ∈ s.calls) : s'.Clear := by
  refine ⟨?_, ?_, ?_⟩
  · rw [ended]
    exact before.seen
  · intro stage member outstanding
    rw [notices] at outstanding
    exact before.awake stage (calls stage member outstanding) outstanding
  · intro stage member outstanding
    rw [notices] at outstanding
    rw [flag]
    exact before.clear stage (calls stage member outstanding) outstanding

/-- Who sleeps, or was timed out, has not been given its notice. -/
theorem Clear.not_outstanding {stage : Stage} (before : s.Clear) (member : stage ∈ s.calls)
    (other : ∀ wait, stage ≠ .woken wait) : ¬ stage.Outstanding s.notices := by
  intro outstanding
  obtain ⟨wait, awake⟩ := before.awake stage member outstanding
  exact other wait awake

theorem afterWait_fresh {wait : Wait} : ∀ later ∈ s.afterWait wait, later.Fresh s.notices := by
  intro later member
  simp only [afterWait] at member
  split at member
  · split at member <;> cases member
    trivial
  · cases member
    trivial

/-- A notice is given to whoever waits for it with a request that is older. -/
theorem noticed_append {wait : Wait} {place : Nat} (sent : wait.sent ≤ s.notices.length) :
    wait.Noticed (s.notices ++ [place]) ↔ wait.Noticed s.notices ∨ wait.place = place := by
  rw [Wait.Noticed, List.drop_append_of_le_length sent, List.mem_append, List.mem_singleton]
  exact Iff.rfl

section Moves

variable {s' : State} {stage : Stage} {next : Option Stage} {index : Nat}
  (picked : s.calls[index]? = some stage)

include picked

/-- Whoever else there is was there before. -/
theorem mem_of_goOn_fresh (fresh : ∀ later ∈ next, ¬ later.Outstanding s.notices) :
    ∀ other ∈ goOn s.calls index next, other.Outstanding s.notices → other ∈ s.calls := by
  intro other member outstanding
  rcases next_or_mem picked member with on | before
  · exact absurd outstanding (fresh other on)
  · exact before

theorem arm_clear_iff {wait : Wait} {answers : Answers} (before : s.Clear) (arms : stage = .arm wait) :
    ({ s.armed with calls := goOn s.calls index (some (.waiting wait)) } : State).Clear ↔
      s.InTime answers stage := by
  subst arms
  constructor
  · intro after
    have never : ∀ other ∈ goOn s.calls index (some (.waiting wait)),
      ¬ other.Outstanding s.notices := by
      intro other member outstanding
      exact Bool.noConfusion (after.clear other member outstanding)
    refine ⟨never (.waiting wait) ((mem_goOn_iff picked).2 (.inl rfl)), ?_⟩
    intro other member outstanding
    rcases (mem_threads_iff picked).1 member with rfl | rest
    · exact outstanding
    · exact never other ((mem_goOn_iff picked).2 (.inr rest)) outstanding
  · rintro ⟨own, others⟩
    have never : ∀ other ∈ goOn s.calls index (some (.waiting wait)),
      ¬ other.Outstanding s.notices := by
      intro other member
      rcases next_or_mem picked member with on | before
      · cases on
        exact own
      · exact others other before
    exact ⟨before.seen, fun other member outstanding => absurd outstanding (never other member),
      fun other member outstanding => absurd outstanding (never other member)⟩

/-- A wait that ends leaves nothing outstanding behind. -/
theorem finish_clear {wait : Wait} {timedOut : Bool} {given : List Nat} (before : s.Clear)
    (seen : wait.place ∈ given → s.isSwitching = false ∧ timedOut = false) :
    ({ s with ended := s.ended ++ [s.endOf wait timedOut given]
              calls := goOn s.calls index (s.afterWait wait) } : State).Clear := by
  have fresh : ∀ later ∈ s.afterWait wait, ¬ later.Outstanding s.notices := fun later member =>
    (afterWait_fresh later member).not_outstanding
  have there := mem_of_goOn_fresh picked fresh
  refine ⟨?_, ?_, ?_⟩
  · intro ended member noticed
    rcases List.mem_append.1 member with earlier | now
    · exact before.seen ended earlier noticed
    · cases List.mem_singleton.1 now
      obtain ⟨flag, untimed⟩ := seen noticed
      exact ⟨by simp [endOf, flag], untimed⟩
  · intro other member outstanding
    exact before.awake other (there other member outstanding) outstanding
  · intro other member outstanding
    exact before.clear other (there other member outstanding) outstanding

/-- A notice is seen by everybody whom it does not leave asleep. -/
theorem notify_clear_iff {place : Nat} {answers : Answers} (before : s.Clear)
    (sent : ∀ wait, .waiting wait ∈ s.calls → wait.sent ≤ s.notices.length)
    (notifies : stage = .notifyImeStopFinished place) :
    ({ s.notifyImeStopFinished place answers.likely with
        calls := goOn (notifyOne s.calls answers.likely) index none } : State).Clear ↔
          s.InTime answers stage := by
  subst notifies
  have still : (notifyOne s.calls answers.likely)[index]? = some (.notifyImeStopFinished place) :=
    getElem?_notifyOne picked rfl
  constructor
  · intro after other member asleep
    cases other with
    | waiting wait =>
        have there : .waiting wait ∈ s.calls := by
          rcases mem_notifyOne member with there | ⟨wait, woken, -⟩
          · exact there
          · cases woken
        have rest : .waiting wait ∈ goOn (notifyOne s.calls answers.likely) index none := by
          rcases (mem_threads_iff still).1 member with same | rest
          · cases same
          · exact rest
        have noticed : wait.Noticed (s.notices ++ [place]) :=
          (noticed_append (sent wait there)).2 (.inr asleep)
        obtain ⟨other, woken⟩ := after.awake _ rest noticed
        cases woken
    | _ => exact asleep
  · intro nobody
    refine ⟨before.seen, ?_, fun _ _ _ => rfl⟩
    intro other member outstanding
    have member := (mem_threads_iff still).2 (.inr member)
    rcases mem_notifyOne member with there | ⟨wait, woken, -⟩
    · cases other with
      | waiting wait =>
          rcases (noticed_append (sent wait there)).1 outstanding with noticed | own
          · exact absurd noticed (before.not_outstanding there nofun)
          · exact absurd own (nobody _ member)
      | woken wait => exact ⟨wait, rfl⟩
      | expired wait given => exact absurd outstanding (before.not_outstanding there nofun)
      | _ => exact outstanding.elim
    · exact ⟨wait, woken⟩

end Moves

/-! ## No older notice ends a wait -/

/-- The request was sent before the notices that are still to come; and the notice that has cleared the
flag for a call that waits is younger than its request. -/
def Since (s : State) : Stage → Prop
  | .arm wait => wait.sent ≤ s.notices.length
  | .waiting wait | .woken wait | .expired wait _ =>
      wait.sent ≤ s.notices.length ∧
        (s.isSwitching = false → ∃ notice, s.clearedBy = some notice ∧ wait.sent ≤ notice)
  | _ => True

structure Younger (s : State) : Prop where
  ended : ∀ ended ∈ s.ended,
    ended.returned = true → ∃ notice, ended.endedBy = some notice ∧ ended.sent ≤ notice
  calls : ∀ stage ∈ s.calls, s.Since stage

theorem since_of_fresh {stage : Stage} (fresh : stage.Fresh s.notices) : s.Since stage := by
  cases stage with
  | waiting wait => exact fresh.elim
  | woken wait => exact fresh.elim
  | expired wait given => exact fresh.elim
  | arm wait => exact Nat.le_of_eq fresh
  | _ => trivial

theorem Since.armed {stage : Stage} (since : s.Since stage) : s.armed.Since stage := by
  cases stage with
  | waiting wait => exact ⟨since.1, Bool.noConfusion⟩
  | woken wait => exact ⟨since.1, Bool.noConfusion⟩
  | expired wait given => exact ⟨since.1, Bool.noConfusion⟩
  | arm wait => exact since
  | _ => trivial

/-- A notice is younger than every request before it. -/
theorem Since.notified {stage : Stage} (since : s.Since stage) (place likely : Nat) :
    (s.notifyImeStopFinished place likely).Since stage := by
  have longer : s.notices.length ≤ (s.notifyImeStopFinished place likely).notices.length := by
    simp [notifyImeStopFinished]
  have waits {wait : Wait} (sent : wait.sent ≤ s.notices.length) :
      wait.sent ≤ (s.notifyImeStopFinished place likely).notices.length ∧
        ((s.notifyImeStopFinished place likely).isSwitching = false →
          ∃ notice, (s.notifyImeStopFinished place likely).clearedBy = some notice ∧
            wait.sent ≤ notice) :=
    ⟨Nat.le_trans sent longer, fun _ => ⟨s.notices.length, rfl, sent⟩⟩
  cases stage with
  | waiting wait => exact waits since.1
  | woken wait => exact waits since.1
  | expired wait given => exact waits since.1
  | arm wait => exact Nat.le_trans since longer
  | _ => trivial

/-- What holds of the other calls and of what the picked one does next holds of all. -/
theorem younger_goOn {s' : State} {calls : List Stage} {stage : Stage}
    {next : Option Stage} {index : Nat} (ended : ∀ ended ∈ s'.ended,
      ended.returned = true → ∃ notice, ended.endedBy = some notice ∧ ended.sent ≤ notice)
    (still : calls[index]? = some stage) (others : ∀ other ∈ calls, s'.Since other)
    (on : ∀ later ∈ next, s'.Since later) :
    ({ s' with calls := goOn calls index next } : State).Younger := by
  have since : ∀ other ∈ goOn calls index next, s'.Since other := forall_mem_goOn still on others
  exact ⟨ended, since⟩

section Moves

variable {s' : State} {stage : Stage} {next : Option Stage} {index : Nat}
  (picked : s.calls[index]? = some stage)

include picked

/-- A wait that ends does so by what cleared the flag. -/
theorem finish_younger {wait : Wait} {timedOut : Bool} {given : List Nat} (before : s.Younger)
    (own : s.isSwitching = false → ∃ notice, s.clearedBy = some notice ∧ wait.sent ≤ notice) :
    ({ s with ended := s.ended ++ [s.endOf wait timedOut given]
              calls := goOn s.calls index (s.afterWait wait) } : State).Younger := by
  have log : ∀ ended ∈ s.ended ++ [s.endOf wait timedOut given], ended.returned = true →
      ∃ notice, ended.endedBy = some notice ∧ ended.sent ≤ notice := by
    intro ended member returned
    rcases List.mem_append.1 member with earlier | now
    · exact before.ended ended earlier returned
    · cases List.mem_singleton.1 now
      exact own (by simpa [endOf] using returned)
  exact ⟨log, forall_mem_goOn picked
    (fun later member => since_of_fresh (afterWait_fresh later member)) before.calls⟩

theorem move_younger (before : s.Younger) (move : s.Move stage s' next) :
    ({ s' with calls := goOn s'.calls index next } : State).Younger := by
  have own := before.calls stage (List.mem_of_getElem? picked)
  cases move with
  | arm wait =>
      refine younger_goOn before.ended picked (fun other member => (before.calls other member).armed) ?_
      rintro later ⟨⟩
      exact ⟨own, Bool.noConfusion⟩
  | wake wait =>
      refine younger_goOn before.ended picked before.calls ?_
      rintro later ⟨⟩
      exact own
  | expire wait =>
      refine younger_goOn before.ended picked before.calls ?_
      rintro later ⟨⟩
      exact own
  | sleep wait switching =>
      refine younger_goOn before.ended picked before.calls ?_
      rintro later ⟨⟩
      exact own
  | look wait clear => exact finish_younger picked before own.2
  | giveUp wait given => exact finish_younger picked before own.2
  | notify place likely =>
      refine younger_goOn before.ended (getElem?_notifyOne picked rfl) ?_ nofun
      intro other (member : other ∈ notifyOne s.calls likely)
      rcases mem_notifyOne member with there | ⟨wait, rfl, there⟩
      · exact (before.calls other there).notified place likely
      · exact (before.calls _ there).notified place likely
  | plain session plain fresh =>
      exact younger_goOn before.ended picked before.calls fun later member =>
        since_of_fresh (fresh later member)

/-- Only an arming can take the flag from somebody who has yet to see it clear, and only a notice can
leave somebody asleep whom it is meant for. -/
theorem move_clear_iff (before : s.Clear) (younger : s.Younger) {answers : Answers}
    (move : s.Move stage s' next) (taken : (s', next) = s.exec answers stage) :
    ({ s' with calls := goOn s'.calls index next } : State).Clear ↔ s.InTime answers stage := by
  have waits (later : Stage) (same : later.Outstanding s.notices → stage.Outstanding s.notices)
      (asleep : ∀ wait, stage ≠ .woken wait) :
      ({ s with calls := goOn s.calls index (some later) } : State).Clear := by
    have fresh : ∀ on ∈ some later, ¬ on.Outstanding s.notices := by
      rintro _ ⟨⟩ outstanding
      exact before.not_outstanding (List.mem_of_getElem? picked) asleep (same outstanding)
    have there := mem_of_goOn_fresh picked fresh
    exact before.mono rfl rfl rfl there
  cases move with
  | arm wait => exact arm_clear_iff picked before rfl
  | wake wait => exact iff_of_true (waits (.woken wait) id nofun) trivial
  | expire wait => exact iff_of_true (waits (.expired wait _) id nofun) trivial
  | sleep wait switching =>
      have fresh : ∀ on ∈ some (Stage.waiting wait), ¬ on.Outstanding s.notices := by
        rintro _ ⟨⟩ outstanding
        have clear := before.clear (.woken wait) (List.mem_of_getElem? picked) outstanding
        rw [switching] at clear
        cases clear
      have there := mem_of_goOn_fresh picked fresh
      exact iff_of_true (before.mono rfl rfl rfl there) trivial
  | look wait clear => exact iff_of_true (finish_clear picked before fun _ => ⟨clear, rfl⟩) trivial
  | giveUp wait given =>
      refine iff_of_true (finish_clear picked before fun noticed => ?_) trivial
      exact absurd noticed (before.not_outstanding (List.mem_of_getElem? picked) nofun)
  | notify place likely =>
      have same : s.notifyImeStopFinished place likely = s.notifyImeStopFinished place answers.likely :=
        congrArg Prod.fst taken
      rw [same]
      exact notify_clear_iff picked before (fun wait there => (younger.calls _ there).1) rfl
  | plain session plain fresh =>
      refine iff_of_true (before.mono rfl rfl rfl (mem_of_goOn_fresh picked ?_)) (inTime_of_plain plain)
      exact fun later member => (fresh later member).not_outstanding

end Moves

theorem outside_clear (before : s.Clear) {event : Event} (outside : event.Outside) :
    (s.step event).Clear := by
  obtain ⟨session, more, after, fresh⟩ := step_outside s outside
  rw [after]
  refine before.mono rfl rfl rfl ?_
  intro other member outstanding
  rcases List.mem_append.1 member with there | added
  · exact there
  · exact absurd outstanding (fresh other added).not_outstanding

theorem step_clear_iff (s : State) (event : Event) (younger : s.Younger) (before : s.Clear) :
    (s.step event).Clear ↔ s.StepInTime event := by
  cases event with
  | advance index answers =>
      cases picked : s.calls[index]? with
      | none =>
          rw [step_nobody picked]
          exact iff_of_true before (by simp [StepInTime, picked])
      | some stage =>
          have after : s.step (.advance index answers) = { (s.exec answers stage).1 with
              calls := goOn (s.exec answers stage).1.calls index (s.exec answers stage).2 } := by
            simp only [step, picked]
          rw [after, move_clear_iff picked before younger (exec_moves s answers stage) rfl]
          simp [StepInTime, picked]
  | _ => exact iff_of_true (outside_clear before trivial) trivial

theorem step_younger (s : State) (event : Event) (before : s.Younger) : (s.step event).Younger := by
  have outside (outside : event.Outside) : (s.step event).Younger := by
    obtain ⟨session, more, after, fresh⟩ := step_outside s outside
    rw [after]
    refine ⟨before.ended, ?_⟩
    intro other member
    rcases List.mem_append.1 member with there | added
    · exact before.calls other there
    · exact since_of_fresh (fresh other added)
  cases event with
  | advance index answers =>
      cases picked : s.calls[index]? with
      | none =>
          rw [step_nobody picked]
          exact before
      | some stage =>
          obtain ⟨s', next, move, after⟩ := step_advance picked answers
          rw [after]
          exact move_younger picked before move
  | _ => exact outside trivial

end State

/-! ## Poles -/

/-- An input method is started and registers. -/
def registration : List Event :=
  [.data (.initRealImeData ("ime", "extension") true),
    .data (.updateRealImeData (some 1) (some 2) 7 20010040 {}),
    .data (.getImeAction .setCoreAndAgent)]

/-- `StopCurrentIme`, as the call at `index`, up to its request. -/
def request (index : Nat) : List Event :=
  [.stopCurrentIme, .advance index {}, .advance index {}, .advance index {}]

/-- `OnImeDied`, as the call at `index`, with its notice. -/
def death (index : Nat) : List Event :=
  [.onImeDied 7, .advance index {}, .advance index {}, .advance index {}, .advance index {}]

/-- The time of the call at `index` is over, and it returns. -/
def timesOut (index : Nat) : List Event := [.advance index { timeout := true }, .advance index {}]

/-- The input method is gone before the call that asked it to stop gets to wait for it. -/
def earlyNotice : List Event := registration ++ request 0 ++ death 1 ++ [.advance 0 {}] ++ timesOut 0

/-- Two calls sleep, and one is woken. -/
def twoAsleep : List Event :=
  registration ++ request 0 ++ [.advance 0 {}] ++ request 1 ++ [.advance 1 {}] ++ death 2 ++
    [.advance 0 {}] ++
    timesOut 0

-- A second stop, of the input method that is exiting already, arms the flag after the notice and
-- before the first one has looked at it, which goes to sleep again until it is timed out.
example :
    (run State.step {}
      (registration ++ request 0 ++ [.advance 0 {}] ++ request 1 ++ death 2 ++
        [.advance 1 {}, .advance 0 {}] ++ timesOut 0)).ended =
      [⟨⟨.stopReadyCurrentIme, 0, 0⟩, false, true, none, [0]⟩] := by decide

-- The flag is armed when the notice comes, and nobody else sleeps.
example :
    Meets State.step State.StepInTime {}
      (registration ++ request 0 ++ [.advance 0 {}] ++ death 1 ++ [.advance 0 {}]) ∧
      (run State.step {} (registration ++ request 0 ++ [.advance 0 {}] ++ death 1 ++
        [.advance 0 {}])).ended =
        [⟨⟨.stopReadyCurrentIme, 0, 0⟩, true, false, some 0, [0]⟩] := by decide

end Imf.StopWait
