/-
# Imf.Ability.Conservation -- no action is lost or run twice

Every object the manager accepted, with a task or through `Pend` and `WaitExec`, is
finished, held in one place, or was thrown away by one of the two explicit
discards.  The books are kept per object: how often it was accepted must equal how
often it was finished, is held and was discarded.  Every move and every discard
balances them, so they balance at every moment of every run; splicing and swapping
the two lists of a task are moves that change neither side.
-/
import Imf.Ability.Trace

namespace Imf.Ability

set_option autoImplicit false

open TaskManager

/-- What a mark says about an object. -/
inductive Fate where
  | accepted
  | begun
  | finished
  | discarded
  deriving DecidableEq, Repr

def Mark.fate? : Mark → Option (Fate × Nat)
  | .accept oid _ => some (.accepted, oid)
  | .execute oid _ _ => some (.begun, oid)
  | .finish oid => some (.finished, oid)
  | .discard oid => some (.discarded, oid)
  | _ => none

/-- How often an object was accepted, begun, finished or discarded. -/
def times (fate : Fate) (oid : Nat) (trace : List Mark) : Nat :=
  trace.countP fun e => e.fate? = some (fate, oid)

@[simp] theorem times_cons (fate : Fate) (oid : Nat) (e : Mark) (trace : List Mark) :
    times fate oid (e :: trace) =
      times fate oid trace + if e.fate? = some (fate, oid) then 1 else 0 := by
  simp [times, List.countP_cons]

/-- The objects that met the fate, newest first. -/
def objects (fate : Fate) (trace : List Mark) : List Nat :=
  trace.filterMap fun e => e.fate?.bind fun met => if met.1 = fate then some met.2 else none

theorem count_objects (fate : Fate) (trace : List Mark) (oid : Nat) :
    (objects fate trace).count oid = times fate oid trace := by
  induction trace with
  | nil => rfl
  | cons e trace ih =>
      rw [times_cons, ← ih]
      cases met : e.fate? with
      | none => simp [objects, met]
      | some pair =>
          obtain ⟨kind, which⟩ := pair
          by_cases same : kind = fate
          · simp [objects, met, same, List.count_cons]
          · simp [objects, met, same]

/-- A block of marks of one kind. -/
theorem times_block {α : Type} (fate kind : Fate) (oid : Nat) (xs : List α) (oidOf : α → Nat)
    (mk : α → Mark) (kinds : ∀ x, (mk x).fate? = some (kind, oidOf x)) (trace : List Mark) :
    times fate oid ((xs.map mk).reverse ++ trace) =
      times fate oid trace + if kind = fate then (xs.map oidOf).count oid else 0 := by
  induction xs generalizing trace with
  | nil => simp
  | cons x xs ih =>
      simp only [List.map_cons, List.reverse_cons, List.append_assoc, List.cons_append,
        List.nil_append, ih, times_cons, kinds, List.count_cons, Option.some.injEq, Prod.mk.injEq]
      by_cases same : kind = fate <;> by_cases this : oidOf x = oid <;>
        (simp [same, this]; try omega)

/-- The object in `curAction_` of the current task, which has begun. -/
def TaskManager.begun (m : TaskManager) : List Nat :=
  (m.curTask.bind Task.curAction).toList.map Action.oid

/-- What the queued tasks hold. -/
def TaskManager.waiting (m : TaskManager) : List Nat :=
  (m.amsTasks ++ m.imaTasks ++ m.imsaTasks ++ m.innerTasks).flatMap Task.held

@[simp] theorem waiting_setCur (m : TaskManager) (t : Option Task) :
    (m.setCur t).waiting = m.waiting := rfl

@[simp] theorem waiting_marks (m : TaskManager) (es : List Mark) :
    (m.marks es).waiting = m.waiting := rfl

/-- The objects that are held and have not begun. -/
def TaskManager.unbegun (m : TaskManager) : List Nat :=
  (m.curTask.map fun t => t.queued.map Action.oid).getD [] ++ m.waiting

theorem held_count (m : TaskManager) (oid : Nat) :
    m.held.count oid = m.begun.count oid + m.unbegun.count oid := by
  cases cur : m.curTask with
  | none => simp [held, begun, unbegun, waiting, cur]
  | some t => simp [held, begun, unbegun, waiting, cur, Task.held]

/-- The books of one object. -/
structure Balanced (m : TaskManager) (oid : Nat) : Prop where
  accepted : times .accepted oid m.trace =
    times .finished oid m.trace + m.held.count oid + times .discarded oid m.trace
  begun : times .begun oid m.trace + m.unbegun.count oid ≤ times .accepted oid m.trace
  finished : times .finished oid m.trace + m.begun.count oid ≤ times .begun oid m.trace

/-- A change that concerns no object, or moves one between lists that hold it. -/
theorem Balanced.of_same {m n : TaskManager} {oid : Nat} (balanced : Balanced m oid)
    (marks : ∀ fate, times fate oid n.trace = times fate oid m.trace)
    (begun : n.begun = m.begun) (unbegun : n.unbegun.count oid = m.unbegun.count oid) :
    Balanced n oid := by
  have held : n.held.count oid = m.held.count oid := by
    rw [held_count, held_count, begun, unbegun]
  refine ⟨?_, ?_, ?_⟩
  · rw [marks, marks, marks, held]
    exact balanced.accepted
  · rw [marks, marks, unbegun]
    exact balanced.begun
  · rw [marks, marks, begun]
    exact balanced.finished

/-- The books from what a change did to each side of them. -/
theorem Balanced.of_counts {m n : TaskManager} {oid : Nat} (balanced : Balanced m oid)
    (new began ended thrown : Nat)
    (accepted : times .accepted oid n.trace = times .accepted oid m.trace + new)
    (begun : times .begun oid n.trace = times .begun oid m.trace + began)
    (finished : times .finished oid n.trace = times .finished oid m.trace + ended)
    (discarded : times .discarded oid n.trace = times .discarded oid m.trace + thrown)
    (total : n.begun.count oid + n.unbegun.count oid + ended + thrown =
      m.begun.count oid + m.unbegun.count oid + new)
    (queue : n.unbegun.count oid + began ≤ m.unbegun.count oid + new)
    (current : n.begun.count oid + ended ≤ m.begun.count oid + began) : Balanced n oid := by
  obtain ⟨acceptedBefore, begunBefore, finishedBefore⟩ := balanced
  rw [held_count] at acceptedBefore
  refine ⟨?_, ?_, ?_⟩
  · rw [held_count]
    omega
  · omega
  · omega

/-- Replacing one queue by another. -/
theorem waiting_setQueue (m : TaskManager) (src : SourceType) (ts : List Task) (oid : Nat) :
    (m.setQueue src ts).waiting.count oid + ((m.queue src).flatMap Task.held).count oid =
      m.waiting.count oid + (ts.flatMap Task.held).count oid := by
  cases src <;>
    simp only [waiting, setQueue, TaskManager.queue, List.flatMap_append, List.count_append] <;> omega

theorem unbegun_of_cur {m : TaskManager} {t : Task} (cur : m.curTask = some t) (oid : Nat) :
    m.unbegun.count oid = (t.queued.map Action.oid).count oid + m.waiting.count oid := by
  simp [unbegun, cur]

theorem begun_of_cur {m : TaskManager} {t : Task} (cur : m.curTask = some t) :
    m.begun = t.curAction.toList.map Action.oid := by
  simp [begun, cur]

/-- The objects of a queue of tasks without any. -/
theorem flatMap_held_nil {tasks : List Task} (empty : ∀ task ∈ tasks, task.held = []) :
    tasks.flatMap Task.held = [] :=
  List.flatMap_eq_nil_iff.2 empty

theorem Task.Fresh.held_eq {t : Task} (fresh : t.Fresh) : t.held = t.actions.map Action.oid := by
  simp [Task.held, Task.queued, fresh.curAction, fresh.pendingActions]

/-- Replacing the current task by one that holds the same objects in the same roles. -/
theorem Balanced.setCur {m : TaskManager} {oid : Nat} {t t' : Task} (balanced : Balanced m oid)
    (cur : m.curTask = some t)
    (act : t'.curAction.toList.map Action.oid = t.curAction.toList.map Action.oid)
    (queued : (t'.queued.map Action.oid).count oid = (t.queued.map Action.oid).count oid) :
    Balanced (m.setCur (some t')) oid := by
  refine balanced.of_same (fun _ => rfl) ?_ ?_
  · rw [begun_of_cur cur, begun_of_cur (setCur_curTask m _), act]
  · rw [unbegun_of_cur cur, unbegun_of_cur (setCur_curTask m _), queued]
    rfl

theorem Balanced.setQueue {m : TaskManager} {oid : Nat} {src : SourceType} {ts : List Task}
    (balanced : Balanced m oid)
    (same : (ts.flatMap Task.held).count oid = ((m.queue src).flatMap Task.held).count oid) :
    Balanced (m.setQueue src ts) oid := by
  apply balanced.of_same (fun fate => by rw [setQueue_trace]) (by simp [TaskManager.begun])
  have queues := waiting_setQueue m src ts oid
  simp only [unbegun, setQueue_curTask, List.count_append]
  omega

theorem balanced_arrive {m : TaskManager} {oid : Nat} (balanced : Balanced m oid) (t : NewTask) :
    Balanced (m.arrive t.task) oid := by
  obtain ⟨accepted, begun, finished⟩ := balanced
  let src := t.task.getSourceType
  have queues := waiting_setQueue m src (m.queue src ++ [t.task]) oid
  simp only [List.flatMap_append, List.count_append, List.flatMap_cons, List.flatMap_nil,
    List.append_nil, t.fresh.held_eq] at queues
  have counts : ∀ fate, times fate oid (m.arrive t.task).trace = times fate oid m.trace +
      if Fate.accepted = fate then (t.task.actions.map Action.oid).count oid else 0 := by
    intro fate
    rw [arrive_trace, List.reverse_cons, List.append_assoc,
      times_block fate .accepted oid t.task.actions Action.oid _ (fun _ => rfl)]
    simp [Mark.fate?]
  have sameBegun : (m.arrive t.task).begun = m.begun := by
    simp [TaskManager.begun, arrive, TaskManager.marks]
  have more : (m.arrive t.task).unbegun.count oid =
      m.unbegun.count oid + (t.task.actions.map Action.oid).count oid := by
    have waits : (m.arrive t.task).waiting = (m.setQueue src (m.queue src ++ [t.task])).waiting := rfl
    simp only [unbegun, List.count_append, waits]
    simp only [arrive, TaskManager.marks, setQueue_curTask]
    omega
  rw [held_count] at accepted
  refine ⟨?_, ?_, ?_⟩
  · rw [held_count, sameBegun, more, counts, counts, counts]
    simp
    omega
  · rw [more, counts, counts]
    simp
    omega
  · rw [sameBegun, counts, counts]
    simpa using finished

theorem balanced_pend {m : TaskManager} {oid : Nat} {t : Task} (balanced : Balanced m oid)
    (cur : m.curTask = some t) (a : Action) :
    Balanced ((m.setCur (some (t.pendAction a))).mark (.accept a.oid a.completeId?)) oid := by
  let n := (m.setCur (some (t.pendAction a))).mark (.accept a.oid a.completeId?)
  have begun : n.begun = m.begun := by
    rw [begun_of_cur cur, begun_of_cur (m := n) rfl]
    rfl
  have unbegun : n.unbegun.count oid = m.unbegun.count oid + if a.oid = oid then 1 else 0 := by
    rw [unbegun_of_cur cur, unbegun_of_cur (m := n) rfl]
    have waits : n.waiting = m.waiting := rfl
    simp only [Task.pendAction, Task.queued, waits, List.map_append, List.map_cons, List.map_nil,
      List.count_append, List.count_singleton, beq_iff_eq]
    omega
  refine Balanced.of_counts (n := n) balanced (if a.oid = oid then 1 else 0) 0 0 0 ?_ ?_ ?_ ?_ ?_ ?_ ?_
  · simp [n, Mark.fate?]
  · simp [n, Mark.fate?]
  · simp [n, Mark.fate?]
  · simp [n, Mark.fate?]
  · rw [begun, unbegun]
    omega
  · exact Nat.le_of_eq unbegun
  · exact Nat.le_of_eq (by rw [begun])

theorem balanced_begin {m : TaskManager} {oid : Nat} {t : Task} {a : Action} {rest : List Action}
    (balanced : Balanced m oid) (cur : m.curTask = some t) (none : t.curAction = none)
    (actions : t.actions = a :: rest) :
    Balanced ((m.setCur (some { t with curAction := some a, actions := rest })).mark
      (.execute a.oid t.getSourceType m.inited)) oid := by
  let n := (m.setCur (some { t with curAction := some a, actions := rest })).mark
    (.execute a.oid t.getSourceType m.inited)
  have begun : n.begun.count oid = if a.oid = oid then 1 else 0 := by
    rw [begun_of_cur (m := n) rfl]
    simp [List.count_singleton]
  have nothing : m.begun = [] := by
    rw [begun_of_cur cur, none]
    rfl
  have unbegun : n.unbegun.count oid + (if a.oid = oid then 1 else 0) = m.unbegun.count oid := by
    rw [unbegun_of_cur cur, unbegun_of_cur (m := n) rfl]
    have waits : n.waiting = m.waiting := rfl
    simp only [Task.queued, waits, actions, List.cons_append, List.map_cons, List.count_cons,
      beq_iff_eq]
    omega
  refine Balanced.of_counts (n := n) balanced 0 (if a.oid = oid then 1 else 0) 0 0 ?_ ?_ ?_ ?_ ?_ ?_ ?_
  · simp [n, Mark.fate?]
  · simp [n, Mark.fate?]
  · simp [n, Mark.fate?]
  · simp [n, Mark.fate?]
  · rw [begun, nothing, List.count_nil]
    omega
  · exact Nat.le_of_eq unbegun
  · rw [begun, nothing, List.count_nil]
    omega

theorem balanced_finish {m : TaskManager} {oid : Nat} {t : Task} {a : Action}
    (balanced : Balanced m oid) (cur : m.curTask = some t) (act : t.curAction = some a) :
    Balanced ((m.setCur (some t.resetCurAction)).mark (.finish a.oid)) oid := by
  let n := (m.setCur (some t.resetCurAction)).mark (.finish a.oid)
  have begun : m.begun.count oid = if a.oid = oid then 1 else 0 := by
    rw [begun_of_cur cur, act]
    simp [List.count_singleton]
  have nothing : n.begun = [] := by
    rw [begun_of_cur (m := n) rfl]
    rfl
  have unbegun : n.unbegun.count oid = m.unbegun.count oid := by
    rw [unbegun_of_cur cur, unbegun_of_cur (m := n) rfl]
    rfl
  refine Balanced.of_counts (n := n) balanced 0 0 (if a.oid = oid then 1 else 0) 0 ?_ ?_ ?_ ?_ ?_ ?_ ?_
  · simp [n, Mark.fate?]
  · simp [n, Mark.fate?]
  · simp [n, Mark.fate?]
  · simp [n, Mark.fate?]
  · rw [nothing, unbegun, begun, List.count_nil]
    omega
  · exact Nat.le_of_eq unbegun
  · rw [nothing, begun, List.count_nil]
    omega

theorem balanced_complete {m : TaskManager} {oid : Nat} {t : Task} (balanced : Balanced m oid)
    (cur : m.curTask = some t) (empty : t.held = []) : Balanced (m.setCur none) oid := by
  obtain ⟨act, queued⟩ := List.append_eq_nil_iff.1 empty
  refine balanced.of_same (fun _ => rfl) ?_ ?_
  · rw [begun_of_cur cur, act]
    rfl
  · rw [unbegun_of_cur cur, queued]
    simp [unbegun]

theorem balanced_take {m : TaskManager} {oid : Nat} {src : SourceType} {t : Task} {rest : List Task}
    (balanced : Balanced m oid) (cur : m.curTask = none) (queue : m.queue src = t :: rest)
    (fresh : t.Fresh) : Balanced (m.takeTask src t rest) oid := by
  have queues := waiting_setQueue m src rest oid
  rw [queue, List.flatMap_cons, List.count_append, fresh.held_eq] at queues
  refine balanced.of_same (fun fate => ?_) ?_ ?_
  · simp [takeTask, Mark.fate?]
  · rw [begun_of_cur (m := m.takeTask src t rest) rfl, fresh.curAction]
    simp [TaskManager.begun, cur]
  · rw [unbegun_of_cur (m := m.takeTask src t rest) rfl]
    have waits : (m.takeTask src t rest).waiting = (m.setQueue src rest).waiting := rfl
    simp only [waits, Task.queued, fresh.pendingActions, List.append_nil, unbegun, cur,
      Option.map_none, Option.getD_none, List.nil_append]
    omega

theorem balanced_merge {m : TaskManager} {oid : Nat} {t task : Task} {rest : List Task}
    (balanced : Balanced m oid) (cur : m.curTask = some t) (queue : m.imaTasks = task :: rest)
    (fresh : task.Fresh) :
    Balanced ((m.setQueue .ima rest).setCur (some (t.pendTask task))) oid := by
  have queues := waiting_setQueue m .ima rest oid
  rw [TaskManager.queue, queue, List.flatMap_cons, List.count_append, fresh.held_eq] at queues
  refine balanced.of_same (fun fate => ?_) ?_ ?_
  · rw [setCur_trace, setQueue_trace]
  · rw [begun_of_cur (setCur_curTask _ _), begun_of_cur cur]
    rfl
  · rw [unbegun_of_cur (setCur_curTask _ _), unbegun_of_cur cur, waiting_setCur]
    simp only [Task.queued, Task.pendTask, List.map_append, List.count_append]
    omega

/-- **Every move balances the books.** -/
theorem balanced_move {m n : TaskManager} {oid : Nat} (move : Move m n)
    (balanced : Balanced m oid) : Balanced n oid := by
  cases move with
  | setInited flag =>
      exact balanced.of_same (fun fate => by simp [TaskManager.setInited, Mark.fate?]) rfl rfl
  | draw => exact balanced.of_same (fun _ => rfl) rfl rfl
  | postTask seqId delayMs => exact balanced.of_same (fun fate => by simp [Mark.fate?]) rfl rfl
  | processAsync => exact balanced.of_same (fun fate => by simp [Mark.fate?]) rfl rfl
  | popInner task rest queue empty =>
      apply balanced.setQueue
      simp [TaskManager.queue, queue, empty]
  | clearInner empty =>
      apply balanced.setQueue
      rw [TaskManager.queue, flatMap_held_nil empty]
      rfl
  | setState t s cur => exact balanced.setCur cur rfl rfl
  | setActionState t a s cur act => exact balanced.setCur cur (by simp [act]) rfl
  | pend t a cur running idle => exact balanced_pend balanced cur a
  | splice t cur =>
      refine balanced.setCur cur ?_ ?_
      · unfold Task.checkPending
        split <;> rfl
      · unfold Task.checkPending
        split
        · rfl
        · simp only [Task.queued, List.append_nil, List.map_append, List.count_append]
          omega
  | begin t a rest cur none actions => exact balanced_begin balanced cur none actions
  | finish t a cur act => exact balanced_finish balanced cur act
  | complete t cur empty => exact balanced_complete balanced cur empty
  | take src t rest cur queue source allowed fresh => exact balanced_take balanced cur queue fresh
  | merge t task rest cur queue fresh => exact balanced_merge balanced cur queue fresh

/-- Throwing `oids` away. -/
theorem times_discards (fate : Fate) (oid : Nat) (oids : List Nat) (trace : List Mark) :
    times fate oid ((oids.map Mark.discard).reverse ++ trace) =
      times fate oid trace + if Fate.discarded = fate then oids.count oid else 0 := by
  have block := times_block fate .discarded oid oids id Mark.discard (fun _ => rfl) trace
  rwa [List.map_id] at block

/-- **A discard throws away what it says and balances the books.** -/
theorem balanced_drop {m n : TaskManager} {oid : Nat} (drop : Drop m n)
    (balanced : Balanced m oid) : Balanced n oid := by
  cases drop with
  | preempt t cur other waiting =>
      have counts : ∀ fate, times fate oid m.dropCur.trace = times fate oid m.trace +
          if Fate.discarded = fate then t.held.count oid else 0 := by
        intro fate
        rw [show t.held = (m.curTask.map Task.held).getD [] by rw [cur]; rfl]
        exact times_discards fate oid _ m.trace
      have held : t.held.count oid =
          m.begun.count oid + (t.queued.map Action.oid).count oid := by
        rw [begun_of_cur cur, Task.held, List.count_append]
      have before := unbegun_of_cur cur oid
      have after : m.dropCur.unbegun.count oid = m.waiting.count oid := by
        simp [unbegun, dropCur]
      have nothing : m.dropCur.begun.count oid = 0 := rfl
      refine balanced.of_counts 0 0 0 (t.held.count oid) ?_ ?_ ?_ ?_ ?_ ?_ ?_
      · simp [counts]
      · simp [counts]
      · simp [counts]
      · simp [counts]
      · omega
      · omega
      · omega
  | reset =>
      have counts : ∀ fate, times fate oid m.reset.trace = times fate oid m.trace +
          if Fate.discarded = fate then m.held.count oid else 0 :=
        fun fate => times_discards fate oid m.held m.trace
      have held := held_count m oid
      have nothing : m.reset.begun.count oid = 0 := rfl
      have nothing' : m.reset.unbegun.count oid = 0 := rfl
      refine balanced.of_counts 0 0 0 (m.held.count oid) ?_ ?_ ?_ ?_ ?_ ?_ ?_
      · simp [counts]
      · simp [counts]
      · simp [counts]
      · simp [counts]
      · omega
      · omega
      · omega

theorem discarded_quiet {new : List Mark} (quiet : ∀ e ∈ new, e.quiet = true) (oid : Nat)
    (trace : List Mark) : times .discarded oid (new ++ trace) = times .discarded oid trace := by
  have none : new.countP (fun e => e.fate? = some (.discarded, oid)) = 0 := by
    rw [List.countP_eq_zero]
    intro e member
    have calm := quiet e member
    cases e <;> simp_all [Mark.fate?, Mark.quiet]
  rw [times, List.countP_append, none, Nat.zero_add, times]

/-- Moves discard nothing. -/
theorem discarded_move {m n : TaskManager} (move : Move m n) (oid : Nat) :
    times .discarded oid n.trace = times .discarded oid m.trace := by
  rcases move_trace move with ⟨new, trace, quiet⟩ | ⟨t, a, cur, trace⟩
  · rw [trace, discarded_quiet quiet]
  · simp [trace, Mark.fate?]

theorem discarded_moves {m n : TaskManager} (moves : Moves m n) (oid : Nat) :
    times .discarded oid n.trace = times .discarded oid m.trace :=
  Lib.steps_keep (P := fun n => times .discarded oid n.trace = times .discarded oid m.trace)
    (fun _ _ move same => (discarded_move move oid).trans same) moves rfl

theorem discarded_enter (m : TaskManager) (ev : Event) (oid : Nat) :
    times .discarded oid (ev.enter m).trace = times .discarded oid m.trace := by
  cases ev with
  | newTask t =>
      obtain ⟨new, trace, quiet⟩ := arrive_quiet m t.task
      rw [Event.enter, trace, discarded_quiet quiet]
  | process => rfl
  | setInited flag => rfl
  | reset => rfl

theorem balanced_init (oid : Nat) : Balanced {} oid :=
  ⟨rfl, Nat.le_refl _, Nat.le_refl _⟩

theorem balanced_history {m : TaskManager} (history : History {} m) (oid : Nat) : Balanced m oid :=
  history_keeps (P := fun m => Balanced m oid) (fun _ _ => balanced_move) (fun _ _ => balanced_drop)
    (fun _ t holds => balanced_arrive holds t) history (balanced_init oid)

/-- Where one object is: it was finished, it is held, it was discarded. -/
def TaskManager.whereabouts (m : TaskManager) (oid : Nat) : Nat × Nat × Nat :=
  (times .finished oid m.trace, m.held.count oid, times .discarded oid m.trace)

/-- **No action is lost, duplicated or run twice.**  At every moment `m` of every run, inside
an event or between two of them, an object is as often accepted as it is finished,
held and discarded together, and begun no more often than accepted; so an object
accepted once is begun at most once and is exactly one of finished, held in one
place, and discarded.  An event discards only when it is `Reset`, or when an AMS
task arrives while a task of another source is current. -/
theorem actions_conserved (es : List Event) :
    (∀ m, History (Lib.run step {} es) m → ∀ oid,
      times .accepted oid m.trace =
        times .finished oid m.trace + m.held.count oid + times .discarded oid m.trace ∧
      times .finished oid m.trace ≤ times .begun oid m.trace ∧
      times .begun oid m.trace + m.unbegun.count oid ≤ times .accepted oid m.trace ∧
      (times .accepted oid m.trace = 1 → times .begun oid m.trace ≤ 1 ∧
        m.whereabouts oid ∈ [(1, 0, 0), (0, 1, 0), (0, 0, 1)])) ∧
    (∀ ev, ¬ ev.Discards (Lib.run step {} es) → ∀ oid,
      times .discarded oid ((Lib.run step {} es).step ev).trace =
        times .discarded oid (Lib.run step {} es).trace) := by
  constructor
  · intro m history oid
    obtain ⟨accepted, begun, finished⟩ := balanced_history ((run_history es).trans history) oid
    refine ⟨accepted, by omega, begun, fun once => ⟨by omega, ?_⟩⟩
    simp only [whereabouts, List.mem_cons, Prod.mk.injEq, List.not_mem_nil, or_false]
    omega
  · intro ev calm oid
    exact (discarded_moves ((step_inv (run_inv es) ev).2.2 calm) oid).trans
      (discarded_enter _ ev oid)

end Imf.Ability
