/-
# Imf.Ability.Order -- in which order merged IMA tasks run

`Task::Pend(task)` appends the actions of an IMA task to `pendingActions_` and then
swaps `pendingActions_` with `actions_`, on every delivery; `ExecuteInner` runs
`pendingActions_` before `actions_`.  The two lists are the double-buffered queue of
`Imf.Lib.Swap`, so the delivered tasks run in the order of their delivery, behind
the paused task's own actions, only when the blocks that the swaps move to the front
are empty (`ima_order_iff`).  Three deliveries of one action each already break it
(`ima_tasks_overtake`).
-/
import Imf.Ability.Conservation
import Imf.Lib.Swap
import Mathlib.Data.List.Induction
import Mathlib.Data.List.Nodup

namespace Imf.Ability

set_option autoImplicit false

open TaskManager

/-! ## What a stretch of execution runs -/

/-- The objects that a stretch of the trace begins, in order. -/
def begunIn (marks : List Mark) : List Nat := (objects .begun marks).reverse

theorem begunIn_append (later earlier : List Mark) :
    begunIn (later ++ earlier) = begunIn earlier ++ begunIn later := by
  simp [begunIn, objects]

/-- The objects begun since an earlier moment. -/
def TaskManager.ranSince (m earlier : TaskManager) : List Nat :=
  begunIn (m.trace.take (m.trace.length - earlier.trace.length))

theorem ranSince_eq {m earlier : TaskManager} {new : List Mark}
    (trace : m.trace = new ++ earlier.trace) : m.ranSince earlier = begunIn new := by
  simp [ranSince, trace]

/-- What the current task has still to run. -/
def TaskManager.remaining (m : TaskManager) : List Nat :=
  (m.curTask.map fun t => t.actions.map Action.oid).getD []

theorem remaining_of_cur {m : TaskManager} {t : Task} (cur : m.curTask = some t) :
    m.remaining = t.actions.map Action.oid := by
  simp [remaining, cur]

/-- A stretch that starts with a begun action. -/
theorem begunIn_of_suffix {m n : TaskManager} {oid : Nat} {src : SourceType} {inited : Bool}
    (suffix : (.execute oid src inited :: m.trace) <:+ n.trace) :
    ∃ new, n.trace = new ++ m.trace ∧ [oid].Sublist (begunIn new) := by
  obtain ⟨later, trace⟩ := suffix
  refine ⟨later ++ [.execute oid src inited], by simp [← trace], ?_⟩
  rw [begunIn_append]
  exact List.sublist_append_left _ _

/-- **The loop of `ExecuteInner` runs the queue from its front**; what a function pends comes
in between. -/
theorem executeLoop_order {m : TaskManager} {t : Task} (cur : m.curTask = some t)
    (looping : t.Looping) :
    ∃ new, m.executeLoop.1.trace = new ++ m.trace ∧
      (t.actions.map Action.oid).Sublist (begunIn new ++ m.executeLoop.1.remaining) := by
  revert t
  fun_induction executeLoop m with
  | case1 m h => intro t cur; rw [h] at cur; cases cur
  | case2 m t₀ h none =>
      intro t cur looping
      rw [h] at cur
      cases cur
      exact ⟨[], rfl, by simp [none]⟩
  | case3 m t₀ h a rest actions begun ran checked completed =>
      rename_i ih
      intro t cur looping
      rw [h] at cur
      cases cur
      cases kind : a.kind with
      | wait =>
          have paused := (executeAction_wait h looping actions (by simp [Action.isWait, kind])).1
          exact absurd (completed.symm.trans paused) (by decide)
      | plain func =>
          obtain ⟨-, cur', -, suffix⟩ := executeAction_plain h looping actions kind
          have looping' : ({ t₀ with actions := func.pended m.maxSeqId ++ rest } : Task).Looping :=
            looping.round actions (func.pended_idle _)
          obtain ⟨new, trace, sub⟩ := ih cur' looping'
          obtain ⟨round, trace', first⟩ := begunIn_of_suffix
            (n := (checked.mapCur Task.resetCurAction).mark (.finish a.oid))
            (suffix.trans (List.suffix_cons _ _))
          refine ⟨new ++ round, by rw [trace, trace', List.append_assoc], ?_⟩
          rw [begunIn_append, actions, List.map_cons, List.append_assoc]
          refine List.Sublist.append first (List.Sublist.trans ?_ sub)
          rw [List.map_append]
          exact List.sublist_append_right _ _
  | case4 m t₀ h a rest actions begun ran checked =>
      rename_i notCompleted
      intro t cur looping
      rw [h] at cur
      cases cur
      cases kind : a.kind with
      | plain func =>
          obtain ⟨completed, -⟩ := executeAction_plain h looping actions kind
          exact absurd completed notCompleted
      | wait =>
          obtain ⟨-, cur', -, suffix⟩ :=
            executeAction_wait h looping actions (by simp [Action.isWait, kind])
          obtain ⟨new, trace, first⟩ := begunIn_of_suffix suffix
          refine ⟨new, trace, ?_⟩
          have left : (checked.mapCur fun t => { t with state := .paused }).remaining =
              rest.map Action.oid := remaining_of_cur cur'
          rw [actions, List.map_cons, left]
          exact first.append (List.Sublist.refl _)

/-- **A resumed task runs `pendingActions_` and then `actions_`.** -/
theorem resume_order {m : TaskManager} {t : Task} {a : Action} (cur : m.curTask = some t)
    (waiting : t.Waiting) (act : t.curAction = some a) {seqId : Nat} (hit : a.resumedBy seqId) :
    ((t.pendingActions ++ t.actions).map Action.oid).Sublist
        ((m.resume seqId).1.ranSince m ++ (m.resume seqId).1.remaining) ∧
      Moves m (m.resume seqId).1 := by
  obtain ⟨mid, ran, resumed⟩ := resume_hit cur waiting act hit
  obtain ⟨-, -, -, moves⟩ := executeInner_spec resumed.cur rfl waiting.idle
  let running : Task := { t with curAction := none, state := .running }
  have looping : running.checkPending.Looping :=
    Task.looping_checkPending (t := { t with curAction := none }) rfl waiting.idle
  have actions : running.checkPending.actions = t.pendingActions ++ t.actions := by
    unfold Task.checkPending
    split
    · rename_i nil
      rw [show t.pendingActions = [] from nil]
      rfl
    · rfl
  have shape : mid.executeInner = (mid.setCur (some running.checkPending)).executeLoop := by
    rw [executeInner, mapCur_of_cur resumed.cur]
  obtain ⟨new, trace, sub⟩ := executeLoop_order (setCur_curTask mid _) looping
  obtain ⟨before, traceMid⟩ := moves_suffix resumed.moves
  have whole : (m.resume seqId).1.trace = (new ++ before) ++ m.trace := by
    rw [ran, shape, trace, setCur_trace, ← traceMid, List.append_assoc]
  refine ⟨?_, by rw [ran]; exact resumed.moves.trans moves⟩
  rw [ranSince_eq whole, begunIn_append, List.append_assoc, ran, shape, ← actions]
  exact sub.trans (List.sublist_append_right _ _)

/-! ## What deliveries do to the paused task -/

/-- Resumes that do not name the current wait are all dropped. -/
theorem processNextInnerTask_misses {m : TaskManager} {t : Task} {a : Action} (base : Base m)
    (cur : m.curTask = some t) (act : t.curAction = some a)
    (miss : ∀ task ∈ m.innerTasks, ¬ a.resumedBy task.seqId) :
    m.processNextInnerTask = m.setQueue .inner [] := by
  revert base cur miss
  fun_induction processNextInnerTask m with
  | case1 m none => intro base cur; rw [none] at cur; cases cur
  | case2 m t₀ nil cur₀ =>
      intro base cur miss
      rw [setQueue, ← nil]
  | case3 m t₀ task rest queue cur₀ ran completed =>
      intro base cur miss
      have shape := inner_round_miss base cur act queue (miss task (by simp [queue]))
      have paused : ran.2 = .paused := congrArg Prod.snd shape
      exact absurd (completed.symm.trans paused) (by decide)
  | case4 m t₀ task rest queue cur₀ ran notCompleted paused ih =>
      intro base cur miss
      have shape : ran = (m.setQueue .inner rest, .paused) :=
        inner_round_miss base cur act queue (miss task (by simp [queue]))
      have popped : Base (m.setQueue .inner rest) := by
        apply base.setQueue
        intro u member
        simp only [TaskManager.queue, queue]
        exact List.mem_cons_of_mem _ member
      have base' : Base ran.1 := by
        rw [shape]
        exact popped
      have same := ih base' (by rw [shape]; exact cur) (by
        rw [shape]
        intro u member
        exact miss u (by rw [queue]; exact List.mem_cons_of_mem _ member))
      rw [same, shape]
      rfl
  | case5 m t₀ task rest queue cur₀ ran notCompleted notPaused =>
      intro base cur miss
      have shape := inner_round_miss base cur act queue (miss task (by simp [queue]))
      exact absurd (congrArg Prod.snd shape) notPaused

/-- **An IMA task delivered while the current task stays paused** is merged into it. -/
theorem deliver_ima {m : TaskManager} {t : Task} {a : Action} (inv : Inv m)
    (cur : m.curTask = some t) (act : t.curAction = some a)
    (miss : ∀ task ∈ m.innerTasks, ¬ a.resumedBy task.seqId) (new : NewTask)
    (ima : new.task.getSourceType = .ima) :
    (m.onNewTask new).curTask = some (t.pendTask new.task) ∧ (m.onNewTask new).innerTasks = [] := by
  let arrived := m.arrive new.task
  have base := arrive_base inv.base new
  have curArrived : arrived.curTask = some t := by simpa [arrived, arrive, marks] using cur
  have queue : arrived.imaTasks = [new.task] := by
    simp [arrived, arrive, marks, ima, setQueue, TaskManager.queue, inv.ima]
  have inner : arrived.innerTasks = m.innerTasks := by
    simp [arrived, arrive, marks, ima, setQueue]
  have ams : arrived.amsTasks = m.amsTasks := by simp [arrived, arrive, marks, ima, setQueue]
  let drained := arrived.setQueue .inner []
  have first : arrived.processNextInnerTask = drained :=
    processNextInnerTask_misses base curArrived act (by rwa [inner])
  have second : drained.processNextAmsTask = drained := by
    unfold processNextAmsTask
    split
    · rfl
    · rename_i left
      have source := inv.ams (by rw [← ams]; exact left)
      rw [curSource, cur, Option.map_some] at source
      have curDrained : drained.curTask = some t := curArrived
      simp only [curDrained, Option.some.inj source, if_true]
  obtain ⟨baseHand, -, merged⟩ := handImaTasks_spec (m := drained)
    (base.setQueue fun _ member => by cases member) (t := t) curArrived
  have third : drained.processNextImaTask =
      (drained.setQueue .ima []).setCur (some (t.pendTask new.task)) := by
    have queued : drained.imaTasks = [new.task] := queue
    rw [queued, List.foldl_cons, List.foldl_nil] at merged
    have curDrained : drained.curTask = some t := curArrived
    unfold processNextImaTask
    rw [if_neg (by rw [queued]; exact List.cons_ne_nil _ _), curDrained]
    exact ((startTasks_spec .ima baseHand ima_gate).idle (by rw [merged]; rfl)).trans merged
  let merged := (drained.setQueue .ima []).setCur (some (t.pendTask new.task))
  have fourth : merged.processNextImsaTask = merged := by
    unfold processNextImsaTask
    split
    · rfl
    · rw [if_pos (.inl rfl)]
  have shape : m.onNewTask new = merged := by
    rw [onNewTask, process, first, second, third, fourth]
  rw [shape]
  exact ⟨rfl, rfl⟩

/-- Any number of them, in a row. -/
theorem deliver_all {m : TaskManager} {t : Task} {a : Action} (inv : Inv m)
    (cur : m.curTask = some t) (act : t.curAction = some a)
    (miss : ∀ task ∈ m.innerTasks, ¬ a.resumedBy task.seqId) (ts : List NewTask)
    (ima : ∀ new ∈ ts, new.task.getSourceType = .ima) :
    (Lib.run step m (ts.map .newTask)).curTask =
      some ((ts.map NewTask.task).foldl Task.pendTask t) := by
  induction ts generalizing m t with
  | nil => exact cur
  | cons new ts ih =>
      obtain ⟨cur', inner⟩ := deliver_ima inv cur act miss new (ima new List.mem_cons_self)
      have inv' : Inv (m.step (.newTask new)) := (step_inv inv (.newTask new)).1
      exact ih (m := m.step (.newTask new)) inv' cur' act
        (by rw [show (m.step (.newTask new)).innerTasks = [] from inner]; simp)
        (fun other member => ima other (List.mem_cons_of_mem _ member))

theorem foldl_pendTask_curAction (tasks : List Task) (t : Task) :
    (tasks.foldl Task.pendTask t).curAction = t.curAction := by
  induction tasks generalizing t with
  | nil => rfl
  | cons task tasks ih => exact ih (t.pendTask task)

/-- The objects of a task's `actions_`. -/
def Task.block (t : Task) : List Nat := t.actions.map Action.oid

/-- What the paused task and the delivered tasks bring, newest first. -/
def blocks (t : Task) (ts : List NewTask) : List (List Nat) :=
  (ts.map fun new => new.task.block).reverse ++ [t.block, t.pendingActions.map Action.oid]

/-- **The two lists of a task are a double-buffered queue.** -/
theorem foldl_pendTask_swapped (t : Task) (ts : List NewTask) :
    let merged := (ts.map NewTask.task).foldl Task.pendTask t
    (merged.block, merged.pendingActions.map Action.oid) = Lib.swapped (blocks t ts) := by
  induction ts using List.reverseRecOn with
  | nil => simp [blocks, Lib.swapped]
  | append_singleton ts new ih =>
      simp only [blocks, List.map_append, List.map_cons, List.map_nil, List.reverse_append,
        List.reverse_cons, List.reverse_nil, List.nil_append, List.cons_append, List.foldl_append,
        List.foldl_cons, List.foldl_nil, Lib.swapped] at ih ⊢
      rw [← ih]
      simp [Task.pendTask, Task.block]

/-- The order of delivery: the paused task's own actions, as they would run now, and then the
delivered tasks.  One delivery always gives it, so no other place of the own actions
can be the fixed one. -/
def deliveryOrder (t : Task) (ts : List NewTask) : List Nat :=
  (t.pendingActions ++ t.actions).map Action.oid ++ (ts.map fun new => new.task.block).flatten

theorem deliveryOrder_eq (t : Task) (ts : List NewTask) :
    deliveryOrder t ts = (blocks t ts).reverse.flatten := by
  simp [deliveryOrder, blocks, Task.block]

/-- Objects that are accepted once are begun or queued once. -/
theorem nodup_of_accepted_once {m earlier : TaskManager} (balanced : ∀ oid, Balanced m oid)
    (suffix : earlier.trace <:+ m.trace) (once : (objects .accepted m.trace).Nodup) :
    (m.ranSince earlier ++ m.remaining).Nodup := by
  obtain ⟨new, trace⟩ := suffix
  rw [List.nodup_iff_count_le_one]
  intro oid
  have ran : (m.ranSince earlier).count oid ≤ times .begun oid m.trace := by
    rw [ranSince_eq trace.symm, begunIn, List.count_reverse, count_objects, ← trace, times, times,
      List.countP_append]
    exact Nat.le_add_right _ _
  have left : m.remaining.count oid ≤ m.unbegun.count oid := by
    cases cur : m.curTask with
    | none => simp [remaining, cur]
    | some t =>
        rw [remaining_of_cur cur, unbegun_of_cur cur, Task.queued, List.map_append,
          List.count_append]
        omega
  have begun := (balanced oid).begun
  have accepted := List.nodup_iff_count_le_one.1 once oid
  rw [count_objects] at accepted
  rw [List.count_append]
  omega

/-- **When merged IMA tasks run in the order of their delivery.**  A run leaves a task paused
on the wait `a`; IMA tasks are delivered while it stays paused; then the wait is
completed and the task runs to its next pause or its end.  What it runs, followed by
what it has left to run, has the task's own actions first and then the delivered
tasks in order exactly when no nonempty block at an even distance from the last
delivery is older than a nonempty one at an odd distance.  Objects are accepted
once: an `Action` is handed over by `unique_ptr`. -/
theorem ima_order_iff (es : List Event) {t : Task} {a : Action}
    (cur : (Lib.run step {} es).curTask = some t) (act : t.curAction = some a)
    (stays : ∀ task ∈ (Lib.run step {} es).innerTasks, ¬ a.resumedBy task.seqId)
    (ts : List NewTask) (ima : ∀ new ∈ ts, new.task.getSourceType = .ima) (seqId : Nat)
    (hit : a.resumedBy seqId)
    (once : (objects .accepted
      ((Lib.run step {} (es ++ ts.map .newTask)).resume seqId).1.trace).Nodup) :
    let paused := Lib.run step {} (es ++ ts.map .newTask)
    let resumed := (paused.resume seqId).1
    (deliveryOrder t ts).Sublist (resumed.ranSince paused ++ resumed.remaining) ↔
      Lib.InStep 0 (blocks t ts) := by
  intro paused resumed
  let merged := (ts.map NewTask.task).foldl Task.pendTask t
  have curPaused : paused.curTask = some merged := by
    rw [show paused = _ from Lib.run_append step {} es _]
    exact deliver_all (run_inv es) cur act stays ts ima
  have actMerged : merged.curAction = some a := by
    rw [show merged.curAction = t.curAction from foldl_pendTask_curAction _ _]
    exact act
  have waiting : merged.Waiting := (run_inv (es ++ ts.map .newTask)).base.cur merged curPaused
  obtain ⟨ran, moves⟩ := resume_order curPaused waiting actMerged hit
  have history : History {} resumed :=
    (run_history _).trans (history_of_changes (changes_of_moves moves))
  have distinct : (resumed.ranSince paused ++ resumed.remaining).Nodup :=
    nodup_of_accepted_once (fun oid => balanced_history history oid) (moves_suffix moves) once
  -- what the task runs, read from the two lists
  have swapped := foldl_pendTask_swapped t ts
  have actual : (merged.pendingActions ++ merged.actions).map Action.oid =
      (Lib.swapped (blocks t ts)).2 ++ (Lib.swapped (blocks t ts)).1 := by
    rw [← swapped, List.map_append]
    rfl
  rw [actual] at ran
  have perm : ((Lib.swapped (blocks t ts)).2 ++ (Lib.swapped (blocks t ts)).1).Perm
      (blocks t ts).reverse.flatten :=
    List.perm_append_comm.trans (Lib.swapped_perm _)
  rw [deliveryOrder_eq, ← (Lib.swapped_order _ (perm.nodup_iff.1 (distinct.sublist ran))).1]
  constructor
  · intro promised
    exact (distinct.perm_iff_eq_of_sublist ran promised).1 perm
  · intro same
    rw [← same]
    exact ran

/-- An IMSA task that waits and then has the action 10 left. -/
def pausing : List Event :=
  [.setInited true, .newTask (.of .imsaStartInput 100
    [.newWait 1 50 1000 51 .done .done, .new 10 .done] (by decide) imsaStartInput_outer)]

/-- An IMA task with one action. -/
def panelTask (oid : Nat) : NewTask :=
  .of .imaShowPanel (oid + 100) [.new oid .done] (by simp [Action.new]) (by decide)

/-- The task as `pausing` leaves it. -/
def pausedTask : Task :=
  { type := .imsaStartInput, state := .paused, seqId := 100,
    curAction := some { Action.newWait 1 50 1000 51 .done .done with state := .paused },
    actions := [.new 10 .done] }

/-- One delivery runs behind the task's own action. -/
theorem one_ima_task_in_order :
    let paused := Lib.run step {} (pausing ++ [panelTask 11].map .newTask)
    let resumed := (paused.resume 50).1
    (deliveryOrder pausedTask [panelTask 11]).Sublist
      (resumed.ranSince paused ++ resumed.remaining) := by
  have cur : (Lib.run step {} pausing).curTask = some pausedTask := by decide +kernel
  refine (ima_order_iff pausing cur rfl (by decide +kernel) [panelTask 11] (by decide)
    50 (.inl rfl) (by decide +kernel)).2 ?_
  intro p q b c lt _ atQ _ nonempty parity
  have last : q = 2 := by
    have bound : q < 3 := (List.getElem?_eq_some_iff.1 atQ).1
    omega
  subst last
  exact nonempty (Option.some.inj atQ).symm

/-- Three deliveries of one action each run in the order 10, 12, 11, 13. -/
theorem ima_tasks_overtake :
    let paused := Lib.run step {} (pausing ++ [panelTask 11, panelTask 12, panelTask 13].map .newTask)
    let resumed := (paused.resume 50).1
    resumed.ranSince paused = [10, 12, 11, 13] ∧
      ¬ [11, 12, 13].Sublist (resumed.ranSince paused ++ resumed.remaining) := by
  decide +kernel

end Imf.Ability
