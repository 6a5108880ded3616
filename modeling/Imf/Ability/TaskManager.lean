/-
# Imf.Ability.TaskManager -- the worker thread's scheduler

`inputmethod_ability/src/task_manager.cpp` with the methods of `tasks/task.cpp`
and `actions/action_wait.h` that it drives.  A method of `Task` or `Action` runs
on the object behind `curTask_` while the functions it calls reach the same
object through the singleton, so every such method is a function on the whole
manager here.

`PostTask`, `Complete` and `ProcessAsync` only hand something to the event
handler.  Its schedule is the event sequence of a run (`Event`), which is
arbitrary: every order in which the handler can deliver is among them.

`trace` is not a field of the source.  It records, newest first, what the
theorems talk about: which objects were accepted, begun, finished or discarded.
-/
import Imf.Common.ErrorCode
import Imf.Ability.Task

namespace Imf.Ability

set_option autoImplicit false
set_option linter.unusedVariables false

/-- One observable moment of a run. -/
inductive Mark where
  | arrive (src : SourceType) (seqId : Nat)
  | accept (oid : Nat) (completeId : Option Nat)
  | start (src : SourceType) (seqId : Nat)
  | execute (oid : Nat) (src : SourceType) (inited : Bool)
  | finish (oid : Nat)
  | discard (oid : Nat)
  | setInited (flag : Bool) (during : Option SourceType)
  | postTask (seqId delayMs : Nat)
  | processAsync
  deriving DecidableEq, Repr

def Mark.isSetInited : Mark → Bool
  | .setInited .. => true
  | _ => false

/-- `maxSeqId` is the static counter of `Task::GetNextSeqId`. -/
structure TaskManager where
  inited : Bool := false
  curTask : Option Task := none
  amsTasks : List Task := []
  imaTasks : List Task := []
  imsaTasks : List Task := []
  innerTasks : List Task := []
  maxSeqId : Nat := 1
  trace : List Mark := []
  deriving DecidableEq, Repr

namespace TaskManager

def mark (m : TaskManager) (e : Mark) : TaskManager :=
  { m with trace := e :: m.trace }

/-- Record several marks, given in the order in which they happen. -/
def marks (m : TaskManager) (es : List Mark) : TaskManager :=
  { m with trace := es.reverse ++ m.trace }

def setCur (m : TaskManager) (t : Option Task) : TaskManager :=
  { m with curTask := t }

def mapCur (m : TaskManager) (f : Task → Task) : TaskManager :=
  { m with curTask := m.curTask.map f }

def setCurAction (m : TaskManager) (a : Action) : TaskManager :=
  m.mapCur fun t => { t with curAction := some a }

/-- The four queues together, which nothing that an action does can touch. -/
def queues (m : TaskManager) : List Task × List Task × List Task × List Task :=
  (m.amsTasks, m.imaTasks, m.imsaTasks, m.innerTasks)

/-! ## What a running function can call -/

def getNextSeqId (m : TaskManager) : Nat × TaskManager :=
  (m.maxSeqId, { m with maxSeqId := m.maxSeqId + 1 })

/-- `TaskManager::Pend(action_ptr_t)`. -/
def pend (m : TaskManager) (action : Option Action) : TaskManager × ErrorCode :=
  match action with
  | none => (m, .errorNullPointer)
  | some a =>
      match m.curTask with
      | none => (m, .errorTaskManagerPendFailed)
      | some t =>
          if t.isRunning then
            ((m.setCur (some (t.pendAction a))).mark (.accept a.oid a.completeId?), .noError)
          else (m, .errorTaskManagerPendFailed)

/-- `TaskManager::WaitExec`: the wait is constructed, drawing its timeout id, before
anything is pended; the action is pended only when the wait was. -/
def waitExec (m : TaskManager) (waitOid execOid seqId timeoutMs : Nat) (func : Body) :
    TaskManager × ErrorCode :=
  let drawn := m.getNextSeqId
  let wait := drawn.2.pend (some (.newWait waitOid seqId timeoutMs drawn.1 .done .done))
  if wait.2 = .noError then wait.1.pend (some (.new execOid func)) else wait

/-- The source of the current task. -/
def curSource (m : TaskManager) : Option SourceType := m.curTask.map Task.getSourceType

def setInited (m : TaskManager) (flag : Bool) : TaskManager :=
  { m with inited := flag }.mark (.setInited flag m.curSource)

/-- Run a function: its calls in order. -/
def runBody : Body → TaskManager → TaskManager
  | .done, m => m
  | .pend oid func next, m => runBody next (m.pend (some (.new oid func))).1
  | .pendWait oid completeId timeoutMs onComplete onTimeout next, m =>
      let drawn := m.getNextSeqId
      runBody next
        (drawn.2.pend (some (.newWait oid completeId timeoutMs drawn.1 onComplete onTimeout))).1
  | .waitExec waitOid execOid seqId timeoutMs func next, m =>
      runBody next (m.waitExec waitOid execOid seqId timeoutMs func).1
  | .setInited flag next, m => runBody next (m.setInited flag)

/-! ## Frame and weight of a running function -/

def weight (m : TaskManager) : Nat := (m.curTask.map Task.weight).getD 0

theorem pend_queues (m : TaskManager) (action : Option Action) :
    (m.pend action).1.queues = m.queues := by
  unfold pend
  repeat' split
  all_goals rfl

theorem waitExec_queues (m : TaskManager) (w e s d : Nat) (func : Body) :
    (m.waitExec w e s d func).1.queues = m.queues := by
  unfold waitExec
  dsimp only
  split
  · rw [pend_queues, pend_queues]; rfl
  · rw [pend_queues]; rfl

@[simp] theorem runBody_queues (b : Body) (m : TaskManager) : (runBody b m).queues = m.queues := by
  induction b generalizing m with
  | done => rfl
  | pend oid func next _ ih => rw [runBody, ih, pend_queues]
  | pendWait oid c d onComplete onTimeout next _ _ ih => rw [runBody, ih, pend_queues]; rfl
  | waitExec w e s d func next _ ih => rw [runBody, ih, waitExec_queues]
  | setInited flag next ih => rw [runBody, ih]; rfl

theorem pend_weight (m : TaskManager) (a : Action) :
    (m.pend (some a)).1.weight ≤ m.weight + a.weight := by
  unfold pend
  cases h : m.curTask with
  | none => simp [weight, h]
  | some t =>
      by_cases running : t.isRunning
      · simp [running, weight, h, mark, setCur, Task.pendAction, Task.weight, Task.queued]
        omega
      · simp [running]

theorem waitExec_weight (m : TaskManager) (w e s d : Nat) (func : Body) :
    (m.waitExec w e s d func).1.weight ≤ m.weight + 2 + func.weight := by
  have first := pend_weight m.getNextSeqId.2 (.newWait w s d m.getNextSeqId.1 .done .done)
  have drawn : m.getNextSeqId.2.weight = m.weight := rfl
  have waitWeight : (Action.newWait w s d m.getNextSeqId.1 .done .done).weight = 1 := rfl
  have execWeight : (Action.new e func).weight = 1 + func.weight := rfl
  unfold waitExec
  dsimp only
  split
  · have second := pend_weight
      (m.getNextSeqId.2.pend (some (.newWait w s d m.getNextSeqId.1 .done .done))).1 (.new e func)
    omega
  · omega

/-- What a body pends weighs no more than the body. -/
theorem runBody_weight (b : Body) (m : TaskManager) :
    (runBody b m).weight ≤ m.weight + b.weight := by
  induction b generalizing m with
  | done => simp [runBody, Body.weight]
  | pend oid func next _ ih =>
      have first := pend_weight m (.new oid func)
      have actionWeight : (Action.new oid func).weight = 1 + func.weight := rfl
      have rest := ih (m.pend (some (.new oid func))).1
      simp only [runBody, Body.weight]
      omega
  | pendWait oid c d onComplete onTimeout next _ _ ih =>
      have first := pend_weight m.getNextSeqId.2
        (.newWait oid c d m.getNextSeqId.1 onComplete onTimeout)
      have drawn : m.getNextSeqId.2.weight = m.weight := rfl
      have actionWeight :
          (Action.newWait oid c d m.getNextSeqId.1 onComplete onTimeout).weight = 1 := rfl
      have rest := ih (m.getNextSeqId.2.pend
        (some (.newWait oid c d m.getNextSeqId.1 onComplete onTimeout))).1
      simp only [runBody, Body.weight]
      omega
  | waitExec w e s d func next _ ih =>
      have first := waitExec_weight m w e s d func
      have rest := ih (m.waitExec w e s d func).1
      simp only [runBody, Body.weight]
      omega
  | setInited flag next ih => exact ih (m.setInited flag)

/-! ## Executing and resuming the current task -/

/-- `curAction_->Execute()` for `curAction_ = a` of the current task, whose source is `src`. -/
def executeAction (m : TaskManager) (src : SourceType) (a : Action) : TaskManager × RunningState :=
  match a.kind with
  | .plain func =>
      if a.state = .idle then
        let begun := (m.mark (.execute a.oid src m.inited)).setCurAction { a with state := .running }
        ((runBody func begun).setCurAction { a with state := .completed }, .completed)
      else (m, .error)
  | .wait timeoutMs _ timeoutId _ _ =>
      let begun := (m.mark (.execute a.oid src m.inited)).setCurAction { a with state := .paused }
      (begun.mark (.postTask timeoutId timeoutMs), .paused)

@[simp] theorem executeAction_queues (m : TaskManager) (src : SourceType) (a : Action) :
    (m.executeAction src a).1.queues = m.queues := by
  unfold executeAction
  split
  · split
    · exact runBody_queues _ _
    · rfl
  · rfl

theorem executeAction_weight (m : TaskManager) (src : SourceType) (a : Action)
    (completed : (m.executeAction src a).2 = .completed) :
    (m.executeAction src a).1.weight + 1 ≤ m.weight + a.weight := by
  unfold executeAction at completed ⊢
  split at completed
  · rename_i func kind
    split at completed
    · rename_i idle
      have run := runBody_weight func
        ((m.mark (.execute a.oid src m.inited)).setCurAction { a with state := .running })
      have same : ∀ (n : TaskManager) (b : Action), (n.setCurAction b).weight = n.weight := by
        intro n b
        cases h : n.curTask
        · simp [weight, setCurAction, mapCur, h]
        · simp [weight, setCurAction, mapCur, h]; rfl
      rw [same] at run
      have begun : (m.mark (.execute a.oid src m.inited)).weight = m.weight := rfl
      have ownWeight : a.weight = 1 + func.weight := by simp only [Action.weight, kind]
      simp only [if_pos idle, same]
      omega
    · simp at completed
  · simp at completed

/-- The loop of `Task::ExecuteInner` on the current task.  Its first branch is
never taken: the method runs on the object behind `curTask_`. -/
def executeLoop (m : TaskManager) : TaskManager × RunningState :=
  match h : m.curTask with
  | none => (m, .error)
  | some t =>
      match ha : t.actions with
      | [] => (m.setCur (some { t with state := .completed }), .completed)
      | a :: rest =>
          let begun := m.setCur (some { t with curAction := some a, actions := rest })
          let ran := begun.executeAction t.getSourceType a
          let checked := ran.1.mapCur Task.checkPending
          if completed : ran.2 = .completed then
            executeLoop ((checked.mapCur Task.resetCurAction).mark (.finish a.oid))
          else (checked.mapCur fun t => { t with state := .paused }, .paused)
termination_by m.weight
decreasing_by
  have run := executeAction_weight
    (m.setCur (some { t with curAction := some a, actions := rest })) t.getSourceType a completed
  have before : m.weight =
      (m.setCur (some { t with curAction := some a, actions := rest })).weight + a.weight := by
    simp only [weight, h, setCur, Option.map_some, Option.getD_some, Task.weight, Task.queued, ha,
      List.cons_append, List.map_cons, List.sum_cons]
    omega
  have after : ∀ n : TaskManager,
      (((n.mapCur Task.checkPending).mapCur Task.resetCurAction).mark (.finish a.oid)).weight =
        n.weight := by
    intro n
    cases hn : n.curTask <;> simp [weight, mark, mapCur, hn]
  rw [after]
  omega

/-- `Task::ExecuteInner` on the current task. -/
def executeInner (m : TaskManager) : TaskManager × RunningState :=
  executeLoop (m.mapCur fun t => { t with state := .running : Task }.checkPending)

/-- `Task::Execute` on the current task. -/
def execute (m : TaskManager) : TaskManager × RunningState :=
  match m.curTask with
  | none => (m, .error)
  | some t => if t.state = .idle then m.executeInner else (m, .error)

/-- `curAction_->Resume(seqId)` for `curAction_ = a` of the current task. -/
def resumeAction (m : TaskManager) (a : Action) (seqId : Nat) : TaskManager × RunningState :=
  match a.kind with
  | .plain _ => (m, a.state)
  | .wait _ completeId timeoutId onComplete onTimeout =>
      if a.state ≠ .paused then (m, .error)
      else if seqId = completeId then
        ((runBody onComplete m).setCurAction { a with state := .completed }, .completed)
      else if seqId = timeoutId then
        ((runBody onTimeout m).setCurAction { a with state := .completed }, .completed)
      else (m, a.state)

/-- `Task::Resume` on the current task. -/
def resume (m : TaskManager) (seqId : Nat) : TaskManager × RunningState :=
  match m.curTask with
  | none => (m, .error)
  | some t =>
      match t.curAction with
      | none => (m, .error)
      | some a =>
          if t.state ≠ .paused then (m, .error)
          else
            let resumed := m.resumeAction a seqId
            match resumed.2 with
            | .paused => (resumed.1, t.state)
            | .completed =>
                ((resumed.1.mapCur Task.resetCurAction).mark (.finish a.oid)).executeInner
            | _ => (resumed.1, .error)

/-- `Task::OnTask` on the current task. -/
def onTask (m : TaskManager) (task : Task) : TaskManager × RunningState :=
  match m.curTask with
  | none => (m, .error)
  | some t =>
      match task.getSourceType with
      | .inner => m.resume task.seqId
      | .ima => (m.setCur (some (t.pendTask task)), t.state)
      | _ => (m, t.state)

@[simp] theorem executeLoop_queues (m : TaskManager) : m.executeLoop.1.queues = m.queues := by
  fun_induction executeLoop m with
  | case1 m h => rfl
  | case2 m t h ha => rfl
  | case3 m t h a rest ha begun ran checked completed ih =>
      rw [ih]
      exact executeAction_queues _ _ _
  | case4 m t h a rest ha begun ran checked completed => exact executeAction_queues _ _ _

@[simp] theorem executeInner_queues (m : TaskManager) : m.executeInner.1.queues = m.queues :=
  executeLoop_queues _

@[simp] theorem execute_queues (m : TaskManager) : m.execute.1.queues = m.queues := by
  unfold execute
  repeat' split
  · rfl
  · exact executeInner_queues m
  · rfl

theorem resumeAction_queues (m : TaskManager) (a : Action) (seqId : Nat) :
    (m.resumeAction a seqId).1.queues = m.queues := by
  unfold resumeAction
  repeat' split
  · rfl
  · rfl
  · exact runBody_queues _ _
  · exact runBody_queues _ _
  · rfl

@[simp] theorem resume_queues (m : TaskManager) (seqId : Nat) :
    (m.resume seqId).1.queues = m.queues := by
  unfold resume
  split
  · rfl
  · split
    · rfl
    · split
      · rfl
      · dsimp only
        split
        · exact resumeAction_queues _ _ _
        · rw [executeInner_queues]; exact resumeAction_queues _ _ _
        · exact resumeAction_queues _ _ _

@[simp] theorem onTask_queues (m : TaskManager) (task : Task) :
    (m.onTask task).1.queues = m.queues := by
  unfold onTask
  repeat' split
  · rfl
  · exact resume_queues _ _
  · rfl
  · rfl

/-! ## The four stages -/

/-- `TaskManager::ExecuteCurrentTask`. -/
def executeCurrentTask (m : TaskManager) : TaskManager :=
  match m.curTask with
  | none => m
  | some _ =>
      let ran := m.execute
      if ran.2 = .completed then (ran.1.setCur none).mark .processAsync
      else if ran.2 = .paused then ran.1
      else ran.1.setCur none

@[simp] theorem executeCurrentTask_queues (m : TaskManager) :
    m.executeCurrentTask.queues = m.queues := by
  unfold executeCurrentTask
  split
  · rfl
  · dsimp only
    split
    · exact execute_queues m
    · split <;> exact execute_queues m

def queue (m : TaskManager) : SourceType → List Task
  | .ams => m.amsTasks
  | .ima => m.imaTasks
  | .imsa => m.imsaTasks
  | .inner => m.innerTasks

def setQueue (m : TaskManager) (src : SourceType) (tasks : List Task) : TaskManager :=
  match src with
  | .ams => { m with amsTasks := tasks }
  | .ima => { m with imaTasks := tasks }
  | .imsa => { m with imsaTasks := tasks }
  | .inner => { m with innerTasks := tasks }

@[simp] theorem setQueue_queue (m : TaskManager) (src : SourceType) (tasks : List Task) :
    (m.setQueue src tasks).queue src = tasks := by
  cases src <;> rfl

theorem queue_congr {m n : TaskManager} (same : m.queues = n.queues) (src : SourceType) :
    m.queue src = n.queue src := by
  simp only [queues, Prod.mk.injEq] at same
  cases src <;> simp [queue, same]

/-- `curTask_ = queue.front(); queue.pop_front();` -/
def takeTask (m : TaskManager) (src : SourceType) (t : Task) (rest : List Task) : TaskManager :=
  ((m.setQueue src rest).setCur (some t)).mark (.start src t.seqId)

/-- The loop `while (!curTask_)` that ends three of the stages: take the next task
of the stage's queue and execute it, until one pauses or none is left. -/
def startTasks (src : SourceType) (m : TaskManager) : TaskManager :=
  match m.curTask, h : m.queue src with
  | some _, _ => m
  | none, [] => m
  | none, t :: rest => startTasks src (m.takeTask src t rest).executeCurrentTask
termination_by (m.queue src).length
decreasing_by
  rw [queue_congr (executeCurrentTask_queues _) src, h]
  cases src <;> simp [takeTask, queue, mark, setCur, setQueue]

/-- `TaskManager::ProcessNextInnerTask`. -/
def processNextInnerTask (m : TaskManager) : TaskManager :=
  match m.curTask, h : m.innerTasks with
  | none, _ => m
  | some _, [] => m
  | some _, task :: rest =>
      let ran := (m.setQueue .inner rest).onTask task
      if ran.2 = .completed then { ran.1 with curTask := none, innerTasks := [] }
      else if ran.2 = .paused then processNextInnerTask ran.1
      else { ran.1 with curTask := none, innerTasks := [] }
termination_by m.innerTasks.length
decreasing_by
  have same := queue_congr (onTask_queues (m.setQueue .inner rest) task) .inner
  simp only [queue] at same
  rw [same, h]
  exact Nat.lt_succ_self _

/-- `curTask_.reset()` on a task that was not finished: what it holds is dropped. -/
def dropCur (m : TaskManager) : TaskManager :=
  (m.marks ((m.curTask.map Task.held).getD [] |>.map Mark.discard)).setCur none

/-- `TaskManager::ProcessNextAmsTask`. -/
def processNextAmsTask (m : TaskManager) : TaskManager :=
  if m.amsTasks = [] then m
  else
    match m.curTask with
    | none => startTasks .ams m
    | some t => if t.getSourceType = .ams then m else startTasks .ams m.dropCur

/-- The first loop of `ProcessNextImaTask`: hand every IMA task to the current task. -/
def handImaTasks (m : TaskManager) : TaskManager :=
  match h : m.imaTasks with
  | [] => m
  | task :: rest =>
      let ran := (m.setQueue .ima rest).onTask task
      if ran.2 = .completed then ran.1.setCur none else handImaTasks ran.1
termination_by m.imaTasks.length
decreasing_by
  have same := queue_congr (onTask_queues (m.setQueue .ima rest) task) .ima
  simp only [queue] at same
  rw [same, h]
  exact Nat.lt_succ_self _

/-- `TaskManager::ProcessNextImaTask`. -/
def processNextImaTask (m : TaskManager) : TaskManager :=
  if m.imaTasks = [] then m
  else
    match m.curTask with
    | none => startTasks .ima m
    | some _ => startTasks .ima m.handImaTasks

/-- `TaskManager::ProcessNextImsaTask`. -/
def processNextImsaTask (m : TaskManager) : TaskManager :=
  if m.inited = false then m
  else if m.curTask.isSome ∨ m.imsaTasks = [] then m
  else startTasks .imsa m

/-- `TaskManager::Process`. -/
def process (m : TaskManager) : TaskManager :=
  m.processNextInnerTask.processNextAmsTask.processNextImaTask.processNextImsaTask

/-- The queueing half of `OnNewTask`. -/
def arrive (m : TaskManager) (t : Task) : TaskManager :=
  (m.setQueue t.getSourceType (m.queue t.getSourceType ++ [t])).marks
    (.arrive t.getSourceType t.seqId :: t.actions.map fun a => .accept a.oid a.completeId?)

/-- `TaskManager::OnNewTask`. -/
def onNewTask (m : TaskManager) (t : NewTask) : TaskManager :=
  (m.arrive t.task).process

/-- Everything the manager holds. -/
def held (m : TaskManager) : List Nat :=
  (m.curTask.map Task.held).getD [] ++
    (m.amsTasks ++ m.imaTasks ++ m.imsaTasks ++ m.innerTasks).flatMap Task.held

/-- `TaskManager::Reset`. -/
def reset (m : TaskManager) : TaskManager :=
  { m.marks (m.held.map Mark.discard) with
    inited := false, curTask := none, innerTasks := [], imaTasks := [], imsaTasks := [],
    amsTasks := [] }

end TaskManager

/-- What the worker thread runs: an accepted task, a `Process` that
`ProcessAsync` posted, `SetInited` or `Reset`. -/
inductive Event where
  | newTask (t : NewTask)
  | process
  | setInited (flag : Bool)
  | reset

namespace TaskManager

def step (m : TaskManager) : Event → TaskManager
  | .newTask t => m.onNewTask t
  | .process => m.process
  | .setInited flag => m.setInited flag
  | .reset => m.reset

end TaskManager

end Imf.Ability
