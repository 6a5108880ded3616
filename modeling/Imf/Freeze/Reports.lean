/-
# Imf.Freeze.Reports -- delayed freezes on a shared handler

`FreezeManager` reports a freeze three seconds late and `ImeLifecycleManager` stops its input
method twenty seconds late, both by a task on the handler that all managers share; becoming
unfrozen removes that task again.  The tasks are removed by name, and the name says nothing
about the manager that posted them.

`Tracks` is what the log of a manager and its pending tasks say about its flag.  It holds as
long as no other manager of its kind becomes unfrozen while a task of this one is pending
(`Spares`), and `reports_converge` reads off it what is left when nothing is pending.
-/
import Imf.Freeze.StateManager
import Mathlib.Logic.Function.Basic

namespace Imf.Freeze

set_option autoImplicit false

open Lib (Meets run run_keeps run_members)

/-! ## The managers of all input methods -/

def STOP_TASK_NAME : String := "ReportStop"

def STOP_IME_TASK_NAME : String := "StopImeTask"

/-- What a posted task does: `ReportRss` with the values it captured, or the stop function of
the manager. -/
inductive Task where
  | reportRss (shouldFreeze : Bool) (pid uid : Int)
  | stopImeFunc (pid : Int)
  deriving DecidableEq, Repr

def Task.pid : Task → Int
  | .reportRss _ pid _ => pid
  | .stopImeFunc pid => pid

structure Posted where
  name : String
  task : Task
  deriving DecidableEq, Repr

/-- The two classes that override `ControlIme`. -/
inductive Kind where
  | freezeManager
  | imeLifecycleManager
  deriving DecidableEq, Repr

/-- What has happened: a manager changed its flag, a report was sent, a stop function ran. -/
inductive Entry where
  | control (pid : Int) (shouldApply : Bool)
  | report (shouldFreeze : Bool) (pid uid : Int)
  | stopped (pid : Int)
  deriving DecidableEq, Repr

def Entry.pid : Entry → Int
  | .control pid _ => pid
  | .report _ pid _ => pid
  | .stopped pid => pid

/-- The managers by their pid, the tasks on the handler in the order of posting, and what has
happened, the latest first. -/
structure Service where
  requests : Int → Requests
  kind : Int → Kind
  eventHandler : Option (List Posted) := some []
  log : List Entry := []

inductive Event where
  | request (pid : Int) (turn : Turn)
  | temporaryActiveIme (pid : Int)
  | fire (task : Nat)
  deriving DecidableEq, Repr

namespace Service

variable (s : Service)

def reportRss (shouldFreeze : Bool) (pid uid : Int) : Service :=
  { s with log := .report shouldFreeze pid uid :: s.log }

def postTask (name : String) (task : Task) : Service :=
  { s with eventHandler := s.eventHandler.map (· ++ [⟨name, task⟩]) }

/-- The handler drops every task of this name that has not begun. -/
def removeTask (name : String) : Service :=
  { s with eventHandler := s.eventHandler.map fun tasks => tasks.filter (·.name != name) }

/-- `FreezeManager::ControlIme`. -/
def controlFreeze (m : ImeStateManager) (shouldApply : Bool) : Service :=
  if s.eventHandler = none then s.reportRss shouldApply m.pid m.uid
  else if shouldApply then s.postTask STOP_TASK_NAME (.reportRss shouldApply m.pid m.uid)
  else (s.removeTask STOP_TASK_NAME).reportRss shouldApply m.pid m.uid

/-- `ImeLifecycleManager::ControlIme`. -/
def controlLifecycle (m : ImeStateManager) (shouldApply : Bool) : Service :=
  if s.eventHandler = none then s
  else if !shouldApply then (s.reportRss false m.pid m.uid).removeTask STOP_IME_TASK_NAME
  else (s.reportRss true m.pid m.uid).postTask STOP_IME_TASK_NAME (.stopImeFunc m.pid)

def controlIme (pid : Int) (shouldApply : Bool) : Service :=
  let m := (s.requests pid).manager
  let s := { s with log := .control pid shouldApply :: s.log }
  match s.kind pid with
  | .freezeManager => s.controlFreeze m shouldApply
  | .imeLifecycleManager => s.controlLifecycle m shouldApply

def temporaryActiveIme (pid : Int) : Service :=
  let m := (s.requests pid).manager
  match s.kind pid with
  | .freezeManager =>
      if !m.isFrozen then s else (s.reportRss false m.pid m.uid).reportRss true m.pid m.uid
  | .imeLifecycleManager => s

/-- A step of a request of one manager, with the call of `ControlIme` made in it. -/
def request (pid : Int) (turn : Turn) : Service :=
  let called := (s.requests pid).take turn
  let s := { s with requests := Function.update s.requests pid called.1 }
  called.2.elim s fun shouldApply => s.controlIme pid shouldApply

def perform : Task → Service
  | .reportRss shouldFreeze pid uid => s.reportRss shouldFreeze pid uid
  | .stopImeFunc pid => { s with log := .stopped pid :: s.log }

/-- A pending task runs; its delay is over at any time. -/
def fire (task : Nat) : Service :=
  match s.eventHandler.bind fun tasks => tasks[task]? with
  | some posted =>
      perform { s with eventHandler := s.eventHandler.map fun tasks => tasks.eraseIdx task } posted.task
  | none => s

def step (s : Service) : Event → Service
  | .request pid turn => s.request pid turn
  | .temporaryActiveIme pid => s.temporaryActiveIme pid
  | .fire task => s.fire task

/-- The service with a handler and managers that have had no request. -/
def initial (kind : Int → Kind) (uid : Int → Int) : Service where
  requests pid := { manager := { pid, uid := uid pid } }
  kind := kind

/-- No request is in flight and no task is pending. -/
def Quiet : Prop := (∀ pid, (s.requests pid).inFlight = []) ∧ s.eventHandler = some []

end Service

/-! ## What the log says about a manager -/

/-- The last report for the pid, whether it was a stop. -/
def lastReport (pid : Int) : List Entry → Option Bool
  | [] => none
  | .report shouldFreeze q _ :: older => if q = pid then some shouldFreeze else lastReport pid older
  | _ :: older => lastReport pid older

/-- The flag of the manager after its last change. -/
def lastControl (pid : Int) : List Entry → Option Bool
  | [] => none
  | .control q shouldApply :: older => if q = pid then some shouldApply else lastControl pid older
  | _ :: older => lastControl pid older

/-- The stop function has run since the flag last changed. -/
def stoppedSince (pid : Int) : List Entry → Bool
  | [] => false
  | .control q _ :: older => if q = pid then false else stoppedSince pid older
  | .stopped q :: older => if q = pid then true else stoppedSince pid older
  | .report .. :: older => stoppedSince pid older

/-- The stop function has run at a time when the manager was unfrozen. -/
def stoppedUnfrozen (pid : Int) : List Entry → Bool
  | [] => false
  | .stopped q :: older =>
      (q == pid && lastControl pid older == some false) || stoppedUnfrozen pid older
  | _ :: older => stoppedUnfrozen pid older

/-- What has been reported or done for the manager agrees with its flag. -/
structure Converged (s : Service) (pid : Int) : Prop where
  reported : s.kind pid = .freezeManager →
    lastReport pid s.log = some (s.requests pid).manager.isFrozen
  stopped : s.kind pid = .imeLifecycleManager →
    (s.requests pid).manager.isFrozen = true → stoppedSince pid s.log = true
  running : s.kind pid = .imeLifecycleManager → stoppedUnfrozen pid s.log = false

section Log

variable {pid : Int} {entry : Entry} {log : List Entry}

theorem lastReport_foreign (other : entry.pid ≠ pid) :
    lastReport pid (entry :: log) = lastReport pid log := by
  cases entry <;> simp_all [lastReport, Entry.pid]

theorem lastControl_foreign (other : entry.pid ≠ pid) :
    lastControl pid (entry :: log) = lastControl pid log := by
  cases entry <;> simp_all [lastControl, Entry.pid]

theorem lastControl_foreigns {entries : List Entry} (other : ∀ entry ∈ entries, entry.pid ≠ pid) :
    lastControl pid (entries ++ log) = lastControl pid log := by
  induction entries with
  | nil => rfl
  | cons entry entries ih =>
      obtain ⟨first, rest⟩ := List.forall_mem_cons.1 other
      rw [List.cons_append, lastControl_foreign first, ih rest]

theorem stoppedSince_foreign (other : entry.pid ≠ pid) :
    stoppedSince pid (entry :: log) = stoppedSince pid log := by
  cases entry <;> simp_all [stoppedSince, Entry.pid]

theorem stoppedUnfrozen_foreign (other : entry.pid ≠ pid) :
    stoppedUnfrozen pid (entry :: log) = stoppedUnfrozen pid log := by
  cases entry <;> simp_all [stoppedUnfrozen, Entry.pid]

end Log

/-! ## The log and the pending tasks of one manager -/

/-- The task that a manager of this kind posts when it becomes frozen. -/
def Posted.Stops (posted : Posted) (pid : Int) : Kind → Prop
  | .freezeManager => posted.name = STOP_TASK_NAME ∧ ∃ uid, posted.task = .reportRss true pid uid
  | .imeLifecycleManager => posted.name = STOP_IME_TASK_NAME ∧ posted.task = .stopImeFunc pid

theorem Posted.Stops.pid {posted : Posted} {pid : Int} {kind : Kind} (stops : posted.Stops pid kind) :
    posted.task.pid = pid := by
  cases kind with
  | freezeManager =>
      obtain ⟨-, uid, task⟩ := stops
      rw [task, Task.pid]
  | imeLifecycleManager => rw [stops.2, Task.pid]

def Kind.taskName : Kind → String
  | .freezeManager => STOP_TASK_NAME
  | .imeLifecycleManager => STOP_IME_TASK_NAME

/-- A freeze has taken effect. -/
def Settled (kind : Kind) (log : List Entry) (pid : Int) : Prop :=
  (kind = .freezeManager → lastReport pid log = some true) ∧
    (kind = .imeLifecycleManager → stoppedSince pid log = true)

/-- Pending tasks are of a frozen manager, and one that is frozen has a task pending or its
freeze has taken effect. -/
structure Ledger (kind : Kind) (tasks : List Posted) (log : List Entry) (pid : Int) : Prop where
  own : ∀ posted ∈ tasks, posted.task.pid = pid →
    posted.Stops pid kind ∧ lastControl pid log = some true
  thawed : kind = .freezeManager → lastControl pid log = some false → lastReport pid log = some false
  frozen : lastControl pid log = some true →
    (∃ posted ∈ tasks, posted.task.pid = pid) ∨ Settled kind log pid
  running : stoppedUnfrozen pid log = false

namespace Ledger

variable {kind : Kind} {tasks tasks' : List Posted} {log : List Entry} {pid uid : Int} {entry : Entry}

theorem empty (kind : Kind) (pid : Int) : Ledger kind [] [] pid :=
  ⟨by simp, by simp [lastControl], by simp [lastControl], rfl⟩

theorem foreign (ledger : Ledger kind tasks log pid) (other : entry.pid ≠ pid) :
    Ledger kind tasks (entry :: log) pid := by
  obtain ⟨own, thawed, frozen, running⟩ := ledger
  constructor <;> simp only [Settled, lastControl_foreign other, lastReport_foreign other,
    stoppedSince_foreign other, stoppedUnfrozen_foreign other] <;> assumption

theorem sameOwn (ledger : Ledger kind tasks log pid)
    (same : ∀ posted, posted.task.pid = pid → (posted ∈ tasks' ↔ posted ∈ tasks)) :
    Ledger kind tasks' log pid where
  own posted member mine := ledger.own posted ((same posted mine).1 member) mine
  thawed := ledger.thawed
  frozen last := (ledger.frozen last).imp_left fun ⟨posted, member, mine⟩ =>
    ⟨posted, (same posted mine).2 member, mine⟩
  running := ledger.running

theorem foreigns (ledger : Ledger kind tasks log pid) {entries : List Entry}
    (other : ∀ entry ∈ entries, entry.pid ≠ pid) : Ledger kind tasks (entries ++ log) pid := by
  induction entries with
  | nil => exact ledger
  | cons entry entries ih =>
      obtain ⟨first, rest⟩ := List.forall_mem_cons.1 other
      exact (ih rest).foreign first

/-- The manager becomes frozen: its task is posted. -/
theorem freeze (ledger : Ledger kind tasks log pid) {posted : Posted} (stops : posted.Stops pid kind)
    (entries : List Entry) (last : lastControl pid (entries ++ log) = some true)
    (running : stoppedUnfrozen pid (entries ++ log) = stoppedUnfrozen pid log) :
    Ledger kind (tasks ++ [posted]) (entries ++ log) pid where
  own other member mine := by
    refine ⟨?_, last⟩
    rcases List.mem_append.1 member with old | new
    · exact (ledger.own other old mine).1
    · rw [List.mem_singleton.1 new]
      exact stops
  thawed _ thawed := by simp [last] at thawed
  frozen _ := .inl ⟨posted, by simp, stops.pid⟩
  running := running.trans ledger.running

/-- The manager becomes unfrozen: its task is removed with all tasks of the name. -/
theorem thaw (ledger : Ledger kind tasks log pid) :
    Ledger kind (tasks.filter (·.name != kind.taskName))
      (.report false pid uid :: .control pid false :: log) pid where
  own posted member mine := by
    simp only [List.mem_filter, bne_iff_ne] at member
    have stops := (ledger.own posted member.1 mine).1
    cases kind with
    | freezeManager => exact absurd stops.1 member.2
    | imeLifecycleManager => exact absurd stops.1 member.2
  thawed _ _ := by simp [lastReport]
  frozen last := by simp [lastControl] at last
  running := ledger.running

/-- Freeze reports are sent while the manager is not unfrozen. -/
theorem reported (ledger : Ledger .freezeManager tasks log pid)
    (unthawed : lastControl pid log ≠ some false) (left : tasks' ⊆ tasks) (entries : List Entry)
    (last : lastControl pid (entries ++ log) = lastControl pid log)
    (sent : lastReport pid (entries ++ log) = some true)
    (running : stoppedUnfrozen pid (entries ++ log) = stoppedUnfrozen pid log) :
    Ledger .freezeManager tasks' (entries ++ log) pid where
  own posted member mine := by
    rw [last]
    exact ledger.own posted (left member) mine
  thawed _ thawed := absurd (last.symm.trans thawed) unthawed
  frozen _ := .inr ⟨fun _ => sent, by simp⟩
  running := running.trans ledger.running

/-- The stop function runs while the manager is frozen. -/
theorem stopped (ledger : Ledger .imeLifecycleManager tasks log pid)
    (last : lastControl pid log = some true) (left : tasks' ⊆ tasks) :
    Ledger .imeLifecycleManager tasks' (.stopped pid :: log) pid where
  own posted member mine := ledger.own posted (left member) mine
  thawed kind := by simp at kind
  frozen _ := .inr ⟨by simp, fun _ => by simp [stoppedSince]⟩
  running := by simp [stoppedUnfrozen, last, ledger.running]

end Ledger

/-! ## Steps -/

namespace Requests

variable (r : Requests) (turn : Turn)

theorem take_pid : (r.take turn).1.manager.pid = r.manager.pid := by
  cases turn with
  | check type => rw [take, check_manager]
  | before request =>
      simp only [take, before]
      split
      · rw [ImeStateManager.beforeIpc_eq]
      · rfl
  | after request isSuccess =>
      simp only [take, after]
      split
      · rw [ImeStateManager.afterIpc_eq]
      · rfl

/-- The flag changes exactly with the calls of `ControlIme`. -/
theorem take_isFrozen : (r.take turn).1.manager.isFrozen = (r.take turn).2.getD r.manager.isFrozen := by
  cases turn with
  | check type => rw [take, check_manager, Option.getD_none]
  | before request =>
      simp only [take, before]
      split
      · rw [ImeStateManager.beforeIpc_eq]
        cases r.manager.isFrozen <;> rfl
      · rfl
  | after request isSuccess =>
      simp only [take, after]
      split
      · rw [ImeStateManager.afterIpc_eq]
        dsimp only
        split
        · rename_i same
          exact same.symm
        · rfl
      · rfl

/-- The manager has had no request yet. -/
structure Fresh : Prop where
  frozen : r.manager.isFrozen = true
  idle : r.inFlight = []
  new : r.completed = 0

variable {r turn}

theorem Fresh.take (fresh : r.Fresh) (silent : (r.take turn).2 = none) : (r.take turn).1.Fresh := by
  cases turn with
  | check type =>
      simp only [Requests.take, check]
      split
      · exact ⟨fresh.frozen, fresh.idle, fresh.new⟩
      · exact fresh
  | before request =>
      simp only [Requests.take, before] at silent ⊢
      split at silent
      · rw [ImeStateManager.beforeIpc_eq] at silent
        simp [fresh.frozen] at silent
      · rename_i missing
        simpa only [missing] using fresh
  | after request isSuccess =>
      simp only [Requests.take, after, fresh.idle, List.getElem?_nil]
      exact fresh

/-- The step unfreezes the input method: it is frozen, and a request begins or comes back and
leaves it in use. -/
def Thaws (r : Requests) : Turn → Prop
  | .check _ => False
  | .before request => r.manager.isFrozen = true ∧ request < r.admitted.length
  | .after request isSuccess => r.manager.isFrozen = true ∧
      r.inFlight[request]?.any fun type => r.manager.Keeps type isSuccess

instance decidableThaws (r : Requests) : (turn : Turn) → Decidable (r.Thaws turn)
  | .check _ => .isFalse fun impossible => impossible
  | .before request =>
      have := Nat.decLt request r.admitted.length
      inferInstanceAs (Decidable (r.manager.isFrozen = true ∧ request < r.admitted.length))
  | .after request isSuccess =>
      inferInstanceAs (Decidable (r.manager.isFrozen = true ∧
        (r.inFlight[request]?.any fun type => r.manager.Keeps type isSuccess) = true))

theorem thaws_of_take (thaw : (r.take turn).2 = some false) : r.Thaws turn := by
  cases turn with
  | check type => simp [Requests.take] at thaw
  | before request =>
      simp only [Requests.take, before] at thaw
      split at thaw
      · rename_i found
        rw [ImeStateManager.beforeIpc_eq] at thaw
        exact ⟨by simpa using thaw, (List.getElem?_eq_some_iff.1 found).1⟩
      · simp at thaw
  | after request isSuccess =>
      simp only [Requests.take, after] at thaw
      split at thaw
      · rename_i type found
        rw [ImeStateManager.afterIpc_eq] at thaw
        dsimp only at thaw
        split at thaw
        · simp at thaw
        · rename_i changed
          have used : r.manager.inUseAfter type isSuccess = true := by simpa using thaw
          refine ⟨by simpa [used] using changed, ?_⟩
          rw [found, Option.any_some, decide_eq_true_iff]
          exact (ImeStateManager.inUseAfter_iff _ _ _).1 used
      · simp at thaw

end Requests

namespace Service

variable {s : Service} {tasks : List Posted} {pid : Int}

theorem controlIme_false (handler : s.eventHandler = some tasks)
    (keyed : (s.requests pid).manager.pid = pid) :
    ∃ uid, s.controlIme pid false =
      { s with
        eventHandler := some (tasks.filter (·.name != (s.kind pid).taskName))
        log := .report false pid uid :: .control pid false :: s.log } := by
  refine ⟨(s.requests pid).manager.uid, ?_⟩
  cases kind : s.kind pid <;>
    simp [controlIme, kind, controlFreeze, controlLifecycle, handler, keyed, removeTask, reportRss,
      Kind.taskName]

theorem controlIme_true (handler : s.eventHandler = some tasks)
    (keyed : (s.requests pid).manager.pid = pid) :
    ∃ posted entries, posted.Stops pid (s.kind pid) ∧ (∀ entry ∈ entries, entry.pid = pid) ∧
      lastControl pid (entries ++ s.log) = some true ∧
      stoppedUnfrozen pid (entries ++ s.log) = stoppedUnfrozen pid s.log ∧
      s.controlIme pid true =
        { s with eventHandler := some (tasks ++ [posted]), log := entries ++ s.log } := by
  cases kind : s.kind pid with
  | freezeManager =>
      refine ⟨⟨STOP_TASK_NAME, .reportRss true pid (s.requests pid).manager.uid⟩, [.control pid true],
        ⟨rfl, _, rfl⟩, by simp [Entry.pid], by simp [lastControl], rfl, ?_⟩
      simp [controlIme, kind, controlFreeze, handler, keyed, postTask]
  | imeLifecycleManager =>
      refine ⟨⟨STOP_IME_TASK_NAME, .stopImeFunc pid⟩,
        [.report true pid (s.requests pid).manager.uid, .control pid true],
        ⟨rfl, rfl⟩, by simp [Entry.pid], by simp [lastControl], rfl, ?_⟩
      simp [controlIme, kind, controlLifecycle, handler, keyed, postTask, reportRss]

theorem controlIme_requests (shouldApply : Bool) :
    (s.controlIme pid shouldApply).requests = s.requests := by
  simp only [controlIme, controlFreeze, controlLifecycle]
  split <;> split <;> first | rfl | (split <;> rfl)

/-- What holds of one manager in every state. -/
structure Tracks (s : Service) (pid : Int) : Prop where
  keyed : ∀ q, (s.requests q).manager.pid = q
  flag : lastControl pid s.log = some (s.requests pid).manager.isFrozen ∨
    (lastControl pid s.log = none ∧ (s.requests pid).Fresh)
  ledger : ∃ tasks, s.eventHandler = some tasks ∧ Ledger (s.kind pid) tasks s.log pid

/-- No other manager of the kind becomes unfrozen while a task of this one is pending. -/
def Spares (pid : Int) (s : Service) : Event → Prop
  | .request q turn => q ≠ pid → s.kind q = s.kind pid → (s.requests q).Thaws turn →
      ∀ tasks ∈ s.eventHandler, ∀ posted ∈ tasks, posted.task.pid ≠ pid
  | _ => True

instance (pid : Int) (s : Service) (event : Event) : Decidable (s.Spares pid event) := by
  cases event <;> unfold Spares <;> infer_instance

theorem Tracks.initial (kind : Int → Kind) (uid : Int → Int) (pid : Int) :
    (Service.initial kind uid).Tracks pid where
  keyed _ := rfl
  flag := .inr ⟨rfl, rfl, rfl, rfl⟩
  ledger := ⟨[], rfl, Ledger.empty _ _⟩

/-- A frozen manager has not been unfrozen last. -/
theorem Tracks.unthawed (tracks : s.Tracks pid) (frozen : (s.requests pid).manager.isFrozen = true) :
    lastControl pid s.log ≠ some false := by
  rcases tracks.flag with last | ⟨last, -⟩
  · simp [last, frozen]
  · simp [last]

theorem keyed_update (keyed : ∀ q, (s.requests q).manager.pid = q) (q : Int) (turn : Turn) (p : Int) :
    (Function.update s.requests q ((s.requests q).take turn).1 p).manager.pid = p := by
  rcases eq_or_ne p q with rfl | other
  · rw [Function.update_self, Requests.take_pid, keyed]
  · rw [Function.update_of_ne other, keyed]

theorem Tracks.ownRequest (tracks : s.Tracks pid) (turn : Turn) : (s.request pid turn).Tracks pid := by
  obtain ⟨tasks, handler, ledger⟩ := tracks.ledger
  have keyed := keyed_update tracks.keyed pid turn
  have flag := (s.requests pid).take_isFrozen turn
  simp only [request]
  generalize updated : Function.update s.requests pid ((s.requests pid).take turn).1 =
    requests at keyed ⊢
  have mine : requests pid = ((s.requests pid).take turn).1 := by rw [← updated, Function.update_self]
  rw [← mine] at flag
  cases called : ((s.requests pid).take turn).2 with
  | none =>
      rw [called, Option.getD_none] at flag
      refine ⟨keyed, ?_, tasks, handler, ledger⟩
      rcases tracks.flag with last | ⟨last, fresh⟩
      · exact .inl (last.trans (congrArg some flag.symm))
      · refine .inr ⟨last, ?_⟩
        dsimp only [Option.elim_none]
        rw [mine]
        exact fresh.take called
  | some shouldApply =>
      rw [called, Option.getD_some] at flag
      let s' : Service := { s with requests }
      have handler' : s'.eventHandler = some tasks := handler
      cases shouldApply with
      | false =>
          obtain ⟨uid, equal⟩ := controlIme_false handler' (keyed pid)
          rw [Option.elim_some, equal]
          refine ⟨keyed, .inl ?_, _, rfl, ledger.thaw⟩
          simp only [lastControl, if_true]
          exact congrArg some flag.symm
      | true =>
          obtain ⟨posted, entries, stops, -, last, running, equal⟩ :=
            controlIme_true handler' (keyed pid)
          rw [Option.elim_some, equal]
          refine ⟨keyed, .inl ?_, _, rfl, ledger.freeze stops entries last running⟩
          exact last.trans (congrArg some flag.symm)

/-- Nothing of the manager itself changes. -/
theorem Tracks.frame (tracks : s.Tracks pid) (handler : s.eventHandler = some tasks)
    {requests : Int → Requests} (keyed : ∀ q, (requests q).manager.pid = q)
    (same : requests pid = s.requests pid) (entries : List Entry)
    (other : ∀ entry ∈ entries, entry.pid ≠ pid) {tasks' : List Posted}
    (own : ∀ posted, posted.task.pid = pid → (posted ∈ tasks' ↔ posted ∈ tasks)) :
    Tracks { s with requests, eventHandler := some tasks', log := entries ++ s.log } pid := by
  obtain ⟨old, oldHandler, ledger⟩ := tracks.ledger
  obtain rfl : old = tasks := by simpa [handler] using oldHandler.symm
  refine ⟨keyed, ?_, tasks', rfl, (ledger.foreigns other).sameOwn own⟩
  dsimp only
  rw [lastControl_foreigns other, same]
  exact tracks.flag

theorem Tracks.otherRequest (tracks : s.Tracks pid) {q : Int} (other : q ≠ pid) (turn : Turn)
    (spares : s.Spares pid (.request q turn)) : (s.request q turn).Tracks pid := by
  obtain ⟨tasks, handler, ledger⟩ := tracks.ledger
  have keyed := keyed_update tracks.keyed q turn
  simp only [request]
  generalize updated : Function.update s.requests q ((s.requests q).take turn).1 = requests at keyed ⊢
  have same : requests pid = s.requests pid := by rw [← updated, Function.update_of_ne other.symm]
  have handler' : ({ s with requests } : Service).eventHandler = some tasks := handler
  cases called : ((s.requests q).take turn).2 with
  | none =>
      have frame := tracks.frame handler keyed same [] (by simp) fun posted _ => Iff.rfl
      rw [← handler] at frame
      exact frame
  | some shouldApply =>
      cases shouldApply with
      | false =>
          obtain ⟨uid, equal⟩ := controlIme_false handler' (keyed q)
          rw [Option.elim_some, equal]
          refine tracks.frame handler keyed same [.report false q uid, .control q false]
            (by simp [Entry.pid, other]) ?_
          intro posted mine
          simp only [List.mem_filter, bne_iff_ne, and_iff_left_iff_imp]
          intro member name
          -- A task of the name is of this manager's own kind, and the step spares those.
          have stops := (ledger.own posted member mine).1
          have kind : s.kind q = s.kind pid := by
            revert name stops
            cases s.kind q <;> cases s.kind pid <;> simp +contextual [Posted.Stops, Kind.taskName,
              STOP_TASK_NAME, STOP_IME_TASK_NAME]
          exact spares other kind (Requests.thaws_of_take called) tasks handler posted member mine
      | true =>
          obtain ⟨posted, entries, stops, about, -, -, equal⟩ := controlIme_true handler' (keyed q)
          rw [Option.elim_some, equal]
          refine tracks.frame handler keyed same entries
            (fun entry member => (about entry member).trans_ne other) ?_
          intro mine isMine
          simp only [List.mem_append, List.mem_singleton, or_iff_left_iff_imp]
          rintro rfl
          exact absurd (stops.pid.symm.trans isMine) other

theorem Tracks.temporaryActiveIme (tracks : s.Tracks pid) (q : Int) :
    (s.temporaryActiveIme q).Tracks pid := by
  obtain ⟨tasks, handler, ledger⟩ := tracks.ledger
  simp only [Service.temporaryActiveIme]
  split
  · rename_i kind
    split
    · exact tracks
    · rename_i frozen
      have frozen : (s.requests q).manager.isFrozen = true := by simpa using frozen
      simp only [reportRss, tracks.keyed]
      rcases eq_or_ne q pid with rfl | other
      · refine ⟨tracks.keyed, by simpa only [lastControl] using tracks.flag, tasks, handler, ?_⟩
        rw [kind] at ledger ⊢
        exact ledger.reported (tracks.unthawed frozen) (List.Subset.refl _)
          [.report true q _, .report false q _] rfl (by simp [lastReport]) rfl
      · have frame := tracks.frame handler tracks.keyed rfl
          [.report true q (s.requests q).manager.uid, .report false q (s.requests q).manager.uid]
          (by simp [Entry.pid, other]) fun posted _ => Iff.rfl
        rw [← handler] at frame
        exact frame
  · exact tracks

theorem Tracks.fire (tracks : s.Tracks pid) (task : Nat) : (s.fire task).Tracks pid := by
  obtain ⟨tasks, handler, ledger⟩ := tracks.ledger
  simp only [Service.fire, handler, Option.bind_some, Option.map_some]
  split
  · rename_i posted found
    have member : posted ∈ tasks := List.mem_of_getElem? found
    have left : tasks.eraseIdx task ⊆ tasks := List.eraseIdx_subset
    by_cases mine : posted.task.pid = pid
    · obtain ⟨stops, last⟩ := ledger.own posted member mine
      have flag := tracks.flag
      cases kind : s.kind pid with
      | freezeManager =>
          rw [kind] at stops ledger
          obtain ⟨-, uid, equal⟩ := stops
          have fired := ledger.reported (by simp [last]) left [.report true pid uid] rfl
            (by simp [lastReport]) rfl
          rw [← kind] at fired
          rw [equal]
          exact ⟨tracks.keyed, flag, _, rfl, fired⟩
      | imeLifecycleManager =>
          rw [kind] at stops ledger
          have fired := ledger.stopped last left
          rw [← kind] at fired
          rw [stops.2]
          exact ⟨tracks.keyed, flag, _, rfl, fired⟩
    · have own : ∀ other : Posted, other.task.pid = pid →
          (other ∈ tasks.eraseIdx task ↔ other ∈ tasks) := by
        intro other otherMine
        refine ⟨fun inside => left inside, fun inside => ?_⟩
        obtain ⟨i, at_⟩ := List.mem_iff_getElem?.1 inside
        refine List.mem_eraseIdx_iff_getElem?.2 ⟨i, ?_, at_⟩
        rintro rfl
        rw [found] at at_
        exact mine (Option.some.inj at_ ▸ otherMine)
      cases task : posted.task with
      | reportRss shouldFreeze q uid =>
          rw [task] at mine
          exact tracks.frame handler tracks.keyed rfl [.report shouldFreeze q uid]
            (by simpa [Entry.pid, Task.pid] using mine) own
      | stopImeFunc q =>
          rw [task] at mine
          exact tracks.frame handler tracks.keyed rfl [.stopped q]
            (by simpa [Entry.pid, Task.pid] using mine) own
  · exact tracks

theorem Tracks.step (tracks : s.Tracks pid) (event : Event) (spares : s.Spares pid event) :
    (s.step event).Tracks pid := by
  cases event with
  | request q turn =>
      rcases eq_or_ne q pid with rfl | other
      · exact tracks.ownRequest turn
      · exact tracks.otherRequest other turn spares
  | temporaryActiveIme q => exact tracks.temporaryActiveIme q
  | fire task => exact tracks.fire task

end Service

/-- **The reported state converges.**  Whatever the managers, requests and task runs, a
manager with a completed request has reported its flag, or has stopped its input method
since it was frozen and never while it was not, once nothing is in flight and nothing is
pending, provided its tasks have been spared by the other managers. -/
theorem reports_converge (kind : Int → Kind) (uid : Int → Int) (pid : Int) (events : List Event)
    (spared : Meets Service.step (Service.Spares pid) (.initial kind uid) events)
    (quiet : (run Service.step (.initial kind uid) events).Quiet)
    (completed : 0 < ((run Service.step (.initial kind uid) events).requests pid).completed) :
    Converged (run Service.step (.initial kind uid) events) pid := by
  have tracks := run_keeps (fun (s : Service) event (tracks : s.Tracks pid) => tracks.step event)
    (Service.Tracks.initial kind uid pid) spared
  generalize run Service.step (.initial kind uid) events = s at quiet completed tracks
  obtain ⟨tasks, handler, ledger⟩ := tracks.ledger
  obtain rfl : tasks = [] := by simpa [quiet.2] using handler.symm
  have last : lastControl pid s.log = some (s.requests pid).manager.isFrozen := by
    rcases tracks.flag with last | ⟨-, fresh⟩
    · exact last
    · exact absurd fresh.new (Nat.ne_of_gt completed)
  have settled : (s.requests pid).manager.isFrozen = true → Settled (s.kind pid) s.log pid := by
    intro frozen
    rcases ledger.frozen (by rw [last, frozen]) with ⟨posted, member, -⟩ | settled
    · simp at member
    · exact settled
  refine ⟨fun freeze => ?_,
    fun lifecycle frozen => (settled frozen).2 lifecycle, fun _ => ledger.running⟩
  cases frozen : (s.requests pid).manager.isFrozen with
  | false => exact ledger.thawed freeze (by rw [last, frozen])
  | true => exact (settled frozen).1 freeze

/-- The requests of a manager that no event is about. -/
theorem untouched_requests {pid : Int} {events : List Event} (s : Service)
    (untouched : ∀ event ∈ events, ∀ turn, event ≠ .request pid turn) :
    (run Service.step s events).requests pid = s.requests pid := by
  refine run_members (P := fun t : Service => t.requests pid = s.requests pid) ?_ rfl
  intro t event member same
  rw [← same]
  cases event with
  | request q turn =>
      have other : q ≠ pid := by
        rintro rfl
        exact untouched _ member turn rfl
      simp only [Service.step, Service.request]
      cases ((t.requests q).take turn).2 with
      | none => exact Function.update_of_ne other.symm _ _
      | some shouldApply =>
          rw [Option.elim_some, Service.controlIme_requests]
          exact Function.update_of_ne other.symm _ _
  | temporaryActiveIme q =>
      simp only [Service.step, Service.temporaryActiveIme]
      split
      · split <;> rfl
      · rfl
  | fire task =>
      simp only [Service.step, Service.fire]
      split
      · rename_i posted _
        cases posted.task <;> rfl
      · rfl

/-! ## Poles -/

/-- An ordinary request from its check to its return. -/
def ordinaryRequest (pid : Int) : List Event :=
  [.request pid (.check .normal), .request pid (.before 0), .request pid (.after 0 true)]

/-- Two input methods have a request each, and the second one's freeze is reported before the
first one's request. -/
def separateRequests : List Event :=
  ordinaryRequest 2 ++ [.fire 0] ++ ordinaryRequest 1 ++ [.fire 0]

/-- The second request begins while the freeze of the first input method is pending. -/
def overtakingRequests : List Event :=
  ordinaryRequest 1 ++ ordinaryRequest 2 ++ [.fire 0]

theorem quiet_of_two {s : Service} (handler : s.eventHandler = some [])
    (first : (s.requests 1).inFlight = []) (second : (s.requests 2).inFlight = [])
    (rest : ∀ pid, pid ≠ 1 → pid ≠ 2 → (s.requests pid).inFlight = []) : s.Quiet := by
  refine ⟨fun pid => ?_, handler⟩
  by_cases one : pid = 1
  · rw [one, first]
  · by_cases two : pid = 2
    · rw [two, second]
    · exact rest pid one two

theorem untouched_separate (pid : Int) (one : pid ≠ 1) (two : pid ≠ 2) :
    ∀ event ∈ separateRequests, ∀ turn, event ≠ .request pid turn := by
  simp [separateRequests, ordinaryRequest, one.symm, two.symm]

theorem untouched_overtaking (pid : Int) (one : pid ≠ 1) (two : pid ≠ 2) :
    ∀ event ∈ overtakingRequests, ∀ turn, event ≠ .request pid turn := by
  simp [overtakingRequests, ordinaryRequest, one.symm, two.symm]

theorem quiet_separate (kind : Kind) :
    (run Service.step (.initial (fun _ => kind) fun _ => 0) separateRequests).Quiet := by
  refine quiet_of_two ?_ ?_ ?_ fun pid one two => ?_
  · cases kind <;> decide
  · cases kind <;> decide
  · cases kind <;> decide
  · rw [untouched_requests _ (untouched_separate pid one two)]
    rfl

theorem separate_requests_converge :
    Converged (run Service.step (.initial (fun _ => .freezeManager) fun _ => 0) separateRequests) 1 ∧
    Converged (run Service.step (.initial (fun _ => .imeLifecycleManager) fun _ =>
      0) separateRequests) 1 :=
  ⟨reports_converge _ _ _ _ (by decide) (quiet_separate _) (by decide),
    reports_converge _ _ _ _ (by decide) (quiet_separate _) (by decide)⟩

/-- The first input method stays frozen with a start as its last report. -/
theorem overtaken_freeze_lost :
    ¬ ∀ kind uid pid events, (run Service.step (.initial kind uid) events).Quiet →
      0 < ((run Service.step (.initial kind uid) events).requests pid).completed →
      Converged (run Service.step (.initial kind uid) events) pid := by
  intro all
  have converged := all (fun _ => .freezeManager) (fun _ => 0) 1 overtakingRequests
    (quiet_of_two (by decide) (by decide) (by decide) fun pid one two => by
      rw [untouched_requests _ (untouched_overtaking pid one two)]
      rfl) (by decide)
  have reported := converged.reported rfl
  revert reported
  decide

end Imf.Freeze
