/-
# Imf.Ability.Task -- actions and tasks of the ability's worker thread

The data of `inputmethod_ability/include/actions` and `include/tasks`.  An
`Action` holds a `std::function`; all that the manager can see of such a function
is the calls it makes back on the `TaskManager`, so a function is modelled by
the list of those calls, a `Body`.  An action object is executed at most once, so
a fixed `Body` for each object loses no behaviour: what a function decides at run
time is the `Body` of that run.  The functions that a body pends are smaller
bodies, which is why running one ends (`Task.weight`).

Every object carries an `oid`, its identity (the address behind its `unique_ptr`).
The source compares nothing by it; the theorems use it to say which object ran.
-/
import Mathlib.Data.List.Basic
import Mathlib.Algebra.BigOperators.Group.List.Basic
import Mathlib.Algebra.GroupWithZero.Nat

namespace Imf.Ability

set_option autoImplicit false

inductive RunningState where
  | idle
  | running
  | paused
  | completed
  | error
  deriving DecidableEq, Repr

inductive SourceType where
  | ams
  | ima
  | imsa
  | inner
  deriving DecidableEq, Repr

def SourceType.code : SourceType → Nat
  | .ams => 0
  | .ima => 1
  | .imsa => 2
  | .inner => 3

inductive TaskType where
  | amsInit
  | imaShowPanel
  | imaHidePanel
  | imsaStartInput
  | imsaStopInput
  | imsaShowKeyboard
  | imsaHideKeyboard
  | imsaClientInactive
  | imsaInitInputCtrlChannel
  | imsaCursorUpdate
  | imsaSendPrivateCommand
  | imsaSelectionChange
  | imsaAttributeChange
  | imsaStopInputService
  | imsaSetSubproperty
  | imsaSetCoreAndAgent
  | imsaAdjustKeyboard
  | imsaDiscardTypingText
  | imsaOnFunctionKey
  | imsaDisplayIdChanged
  | imsaWindowIdChanged
  | imsaHideCandidatePanel
  | resume
  deriving DecidableEq, Repr

namespace TaskType

def offset (src : SourceType) : Nat := src.code * 10000

/-- The `uint32_t` value of the enumerator. -/
def code : TaskType → Nat
  | .amsInit => offset .ams
  | .imaShowPanel => offset .ima
  | .imaHidePanel => offset .ima + 1
  | .imsaStartInput => offset .imsa
  | .imsaStopInput => offset .imsa + 1
  | .imsaShowKeyboard => offset .imsa + 2
  | .imsaHideKeyboard => offset .imsa + 3
  | .imsaClientInactive => offset .imsa + 4
  | .imsaInitInputCtrlChannel => offset .imsa + 5
  | .imsaCursorUpdate => offset .imsa + 6
  | .imsaSendPrivateCommand => offset .imsa + 7
  | .imsaSelectionChange => offset .imsa + 8
  | .imsaAttributeChange => offset .imsa + 9
  | .imsaStopInputService => offset .imsa + 10
  | .imsaSetSubproperty => offset .imsa + 11
  | .imsaSetCoreAndAgent => offset .imsa + 12
  | .imsaAdjustKeyboard => offset .imsa + 13
  | .imsaDiscardTypingText => offset .imsa + 14
  | .imsaOnFunctionKey => offset .imsa + 15
  | .imsaDisplayIdChanged => offset .imsa + 16
  | .imsaWindowIdChanged => offset .imsa + 17
  | .imsaHideCandidatePanel => offset .imsa + 18
  | .resume => offset .imsa + 19

def amsBegin : TaskType := .amsInit
def amsEnd : TaskType := .amsInit
def imaBegin : TaskType := .imaShowPanel
def imaEnd : TaskType := .imaHidePanel
def imsaBegin : TaskType := .imsaStartInput
def imsaEnd : TaskType := .imsaHideCandidatePanel

/-- `Task::GetSourceType`: whatever is in none of the three ranges is inner. -/
def getSourceType (type : TaskType) : SourceType :=
  if amsBegin.code ≤ type.code ∧ type.code ≤ amsEnd.code then .ams
  else if imaBegin.code ≤ type.code ∧ type.code ≤ imaEnd.code then .ima
  else if imsaBegin.code ≤ type.code ∧ type.code ≤ imsaEnd.code then .imsa
  else .inner

end TaskType

/-- A function given to the manager, as the calls it makes on it.  `pend` is
`Pend(std::function)`, `pendWait` is `Pend` of an `ActionWait` with its two
callbacks, `waitExec` is `WaitExec`, `setInited` is `SetInited`. -/
inductive Body where
  | done
  | pend (oid : Nat) (func next : Body)
  | pendWait (oid completeId timeoutMs : Nat) (onComplete onTimeout next : Body)
  | waitExec (waitOid execOid seqId timeoutMs : Nat) (func next : Body)
  | setInited (flag : Bool) (next : Body)
  deriving DecidableEq, Repr

/-- `Action` itself, or its subclass `ActionWait`. -/
inductive ActionKind where
  | plain (func : Body)
  | wait (timeoutMs completeId timeoutId : Nat) (onComplete onTimeout : Body)
  deriving DecidableEq, Repr

structure Action where
  oid : Nat
  state : RunningState := .idle
  kind : ActionKind
  deriving DecidableEq, Repr

namespace Action

def new (oid : Nat) (func : Body) : Action :=
  { oid := oid, kind := .plain func }

/-- `ActionWait(completeId, timeoutMs, onComplete, onTimeout)`; `timeoutId` is the
sequence number its constructor draws. -/
def newWait (oid completeId timeoutMs timeoutId : Nat) (onComplete onTimeout : Body) : Action :=
  { oid := oid, kind := .wait timeoutMs completeId timeoutId onComplete onTimeout }

/-- The id a wait can be completed with. -/
def completeId? (a : Action) : Option Nat :=
  match a.kind with
  | .plain _ => none
  | .wait _ completeId _ _ _ => some completeId

def isWait (a : Action) : Bool :=
  match a.kind with
  | .plain _ => false
  | .wait .. => true

end Action

structure Task where
  type : TaskType
  state : RunningState := .idle
  seqId : Nat
  curAction : Option Action := none
  actions : List Action := []
  pendingActions : List Action := []
  deriving DecidableEq, Repr

namespace Task

def getSourceType (t : Task) : SourceType := t.type.getSourceType

def isRunning (t : Task) : Bool := t.state == .running

/-- `TaskResume(seqId)`. -/
def newResume (seqId : Nat) : Task :=
  { type := .resume, seqId := seqId }

/-- `Task::Pend(std::shared_ptr<Task>)`: splice the other task's actions at the
end of `pendingActions_`, then swap the two lists. -/
def pendTask (t other : Task) : Task :=
  { t with
    actions := t.pendingActions ++ other.actions
    pendingActions := t.actions }

/-- `Task::Pend(std::unique_ptr<Action>)`. -/
def pendAction (t : Task) (a : Action) : Task :=
  { t with pendingActions := t.pendingActions ++ [a] }

/-- The pending check of `ExecuteInner`: splice `actions_` behind
`pendingActions_` and swap, when anything is pending. -/
def checkPending (t : Task) : Task :=
  if t.pendingActions = [] then t
  else { t with actions := t.pendingActions ++ t.actions, pendingActions := [] }

def resetCurAction (t : Task) : Task := { t with curAction := none }

/-- The actions a task holds and has not begun. -/
def queued (t : Task) : List Action := t.actions ++ t.pendingActions

/-- The objects a task holds, in `curAction_`, `actions_` or `pendingActions_`. -/
def held (t : Task) : List Nat :=
  t.curAction.toList.map Action.oid ++ t.queued.map Action.oid

/-- A task as its constructor leaves it: idle, nothing begun, every action
idle.  `TaskResume`, the one inner task, has no actions. -/
structure Fresh (t : Task) : Prop where
  state : t.state = .idle
  curAction : t.curAction = none
  pendingActions : t.pendingActions = []
  actions : ∀ a ∈ t.actions, a.state = .idle
  inner : t.getSourceType = .inner → t.actions = []

end Task

/-- What `PostTask` is given: a task object no one has run yet. -/
structure NewTask where
  task : Task
  fresh : task.Fresh

def NewTask.resume (seqId : Nat) : NewTask :=
  ⟨Task.newResume seqId, ⟨rfl, rfl, rfl, by simp [Task.newResume], fun _ => rfl⟩⟩

/-- A task with the given idle actions, of one of the three outer sources. -/
def NewTask.of (type : TaskType) (seqId : Nat) (actions : List Action)
    (idle : ∀ a ∈ actions, a.state = .idle) (outer : type.getSourceType ≠ .inner) : NewTask :=
  ⟨{ type := type, seqId := seqId, actions := actions },
    ⟨rfl, rfl, rfl, idle, fun inner => absurd inner outer⟩⟩

theorem imsaStartInput_outer : TaskType.imsaStartInput.getSourceType ≠ .inner := by decide

/-! ## The weight that running consumes -/

/-- How many actions running a body can pend, counting what those pend in turn. -/
def Body.weight : Body → Nat
  | .done => 0
  | .pend _ func next => 1 + func.weight + next.weight
  | .pendWait _ _ _ _ _ next => 1 + next.weight
  | .waitExec _ _ _ _ func next => 2 + func.weight + next.weight
  | .setInited _ next => next.weight

def Action.weight (a : Action) : Nat :=
  match a.kind with
  | .plain func => 1 + func.weight
  | .wait .. => 1

def Task.weight (t : Task) : Nat := (t.queued.map Action.weight).sum

@[simp] theorem Task.weight_checkPending (t : Task) : t.checkPending.weight = t.weight := by
  unfold Task.checkPending
  split
  · rfl
  · simp only [Task.weight, Task.queued, List.append_nil, List.map_append, List.sum_append]
    omega

@[simp] theorem Task.weight_resetCurAction (t : Task) : t.resetCurAction.weight = t.weight := rfl

end Imf.Ability
