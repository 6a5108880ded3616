/-
# Imf.Ability.DepthFirst -- the order in which a task executes

What the functions of a task pend goes to `pendingActions_` and is spliced in front of `actions_`
when the action that pended it has run, and again when the task is resumed.  So a task executes
depth-first: an action, then what it pended in the order of the calls, each with what it pended in
turn, and then the rest (`Action.script`).  A wait is begun, and what stands behind it is begun when
the wait is done.

`executes_depth_first` says this of every task that any run starts, as long as no IMA task is merged
into a paused one: what has been executed of the task is the beginning of its script, and all of it
when the task has come to its end.  The callbacks of a wait are called while its task is paused;
what they try to pend is refused.
-/
import Imf.Ability.Order

namespace Imf.Ability

set_option autoImplicit false

open Relation (ReflTransGen)
open TaskManager

/-! ## Scripts -/

/-- What can be seen of the execution of tasks: a task is started, an action is begun, an action is
done. -/
inductive Beat where
  | started (src : SourceType) (seqId : Nat)
  | begun (oid : Nat)
  | done (oid : Nat)
  deriving DecidableEq, Repr

def Mark.beat? : Mark → Option Beat
  | .start src seqId => some (.started src seqId)
  | .execute oid _ _ => some (.begun oid)
  | .finish oid => some (.done oid)
  | _ => none

/-- The beats of a trace, oldest first. -/
def beats (trace : List Mark) : List Beat := trace.reverse.filterMap Mark.beat?

/-- What a function makes the task execute: what it pends, depth-first. -/
def Body.script : Body → List Beat
  | .done => []
  | .pend oid func next => .begun oid :: .done oid :: (func.script ++ next.script)
  | .pendWait oid _ _ _ _ next => .begun oid :: .done oid :: next.script
  | .waitExec waitOid execOid _ _ func next =>
      .begun waitOid :: .done waitOid :: .begun execOid :: .done execOid :: (func.script ++ next.script)
  | .setInited _ next => next.script

/-- An action, and then what it pends. -/
def Action.script (a : Action) : List Beat :=
  .begun a.oid :: .done a.oid ::
    match a.kind with
    | .plain func => func.script
    | .wait .. => []

/-- Actions one after the other. -/
def script (actions : List Action) : List Beat := actions.flatMap Action.script

/-- What is left to execute of a task: the end of its current action, and then what is pending and
what is queued. -/
def Task.left (t : Task) : List Beat :=
  t.curAction.toList.map (fun a => .done a.oid) ++ script (t.pendingActions ++ t.actions)

theorem beats_append (later earlier : List Mark) :
    beats (later ++ earlier) = beats earlier ++ beats later := by
  simp [beats]

theorem beats_quiet {new trace : List Mark} (quiet : ∀ e ∈ new, e.beat? = none) :
    beats (new ++ trace) = beats trace := by
  have none : beats new = [] :=
    List.filterMap_eq_nil_iff.2 fun e member => quiet e (List.mem_reverse.1 member)
  rw [beats_append, none, List.append_nil]

theorem beats_cons_quiet {e : Mark} (quiet : e.beat? = none) (trace : List Mark) :
    beats (e :: trace) = beats trace :=
  @beats_quiet [e] trace (by simpa using quiet)

theorem beats_cons {e : Mark} {beat : Beat} (seen : e.beat? = some beat) (trace : List Mark) :
    beats (e :: trace) = beats trace ++ [beat] := by
  rw [← List.singleton_append, beats_append]
  simp [beats, seen]

theorem script_append (first second : List Action) :
    script (first ++ second) = script first ++ script second :=
  List.flatMap_append

/-- The script of a function is that of the actions it pends. -/
theorem script_pended (b : Body) (n : Nat) : script (b.pended n) = b.script := by
  induction b generalizing n with
  | done => rfl
  | pend oid func next _ ih =>
      rw [Body.script, ← ih n]
      rfl
  | pendWait oid c d onComplete onTimeout next _ _ ih =>
      rw [Body.script, ← ih (n + 1)]
      rfl
  | waitExec w e s d func next _ ih =>
      rw [Body.script, ← ih (n + 1)]
      rfl
  | setInited flag next ih => exact ih n

/-! ## What one stretch of execution adds -/

theorem pend_beats (m : TaskManager) (a : Action) :
    beats (m.pend (some a)).1.trace = beats m.trace := by
  unfold TaskManager.pend
  dsimp only
  split
  · rfl
  · split
    · exact beats_cons_quiet rfl m.trace
    · rfl

/-- A function begins and ends nothing while it runs. -/
theorem runBody_beats (b : Body) (m : TaskManager) : beats (runBody b m).trace = beats m.trace := by
  induction b generalizing m with
  | done => rfl
  | pend oid func next _ ih => rw [runBody, ih, pend_beats]
  | pendWait oid c d onComplete onTimeout next _ _ ih =>
      rw [runBody, ih, pend_beats]
      rfl
  | waitExec w e s d func next _ ih =>
      rw [runBody, ih, TaskManager.waitExec]
      split
      · rw [pend_beats, pend_beats]
        rfl
      · rw [pend_beats]
        rfl
  | setInited flag next ih =>
      rw [runBody, ih]
      exact beats_cons_quiet rfl m.trace

theorem executeAction_beats {m : TaskManager} {src : SourceType} {a : Action} (idle : a.state = .idle) :
    beats (m.executeAction src a).1.trace = beats m.trace ++ [.begun a.oid] := by
  have begun : beats (.execute a.oid src m.inited :: m.trace) = beats m.trace ++ [.begun a.oid] :=
    beats_cons rfl _
  unfold TaskManager.executeAction
  split
  · rename_i func kind
    rw [if_pos idle]
    exact (runBody_beats func _).trans begun
  · rename_i ms completeId timeoutId onComplete onTimeout kind
    exact (beats_cons_quiet rfl _).trans begun

/-- The current task executes on: it leaves less, and what it has executed is the difference. -/
def Executes (m n : TaskManager) (t : Task) : Prop :=
  ∃ t' ran, n.curTask = some t' ∧ beats n.trace = beats m.trace ++ ran ∧ ran ++ t'.left = t.left

/-- What a task leaves that begins with a plain action: the action, and then what it pends in front. -/
theorem Task.Looping.left_plain {t : Task} (looping : t.Looping) {a : Action} {rest : List Action}
    (actions : t.actions = a :: rest) {func : Body} (kind : a.kind = .plain func) (seqId : Nat) :
    t.left = [.begun a.oid, .done a.oid] ++
      Task.left { t with actions := func.pended seqId ++ rest } := by
  simp only [Task.left, looping.curAction, looping.pendingActions, actions,
    List.nil_append, script_append,
    script_pended, Option.toList_none, List.map_nil]
  show Action.script a ++ script rest = _
  simp only [Action.script, kind, List.cons_append, List.nil_append]

/-- **The loop of `ExecuteInner` follows the script.** -/
theorem executeLoop_script {m : TaskManager} {t : Task} (cur : m.curTask = some t)
    (looping : t.Looping) :
    Executes m m.executeLoop.1 t := by
  revert t
  fun_induction executeLoop m with
  | case1 m h => intro t cur; rw [h] at cur; cases cur
  | case2 m t₀ h none =>
      intro t cur looping
      rw [h] at cur
      cases cur
      exact ⟨_, [], rfl, (List.append_nil _).symm, rfl⟩
  | case3 m t₀ h a rest actions begun ran checked completed =>
      rename_i ih
      intro t cur looping
      rw [h] at cur
      cases cur
      have idle : a.state = .idle := looping.idle a (by rw [actions]; exact List.mem_cons_self)
      cases kind : a.kind with
      | wait =>
          have paused := (executeAction_wait h looping actions (by simp [Action.isWait, kind])).1
          exact absurd (completed.symm.trans paused) (by decide)
      | plain func =>
          obtain ⟨-, cur', -, -⟩ := executeAction_plain h looping actions kind
          obtain ⟨t', later, cur'', added, order⟩ :=
            ih cur' (looping.round actions (func.pended_idle _))
          -- the action itself, and then what the loop does with what it pended in front
          have round : beats (((checked.mapCur Task.resetCurAction).mark (.finish a.oid)).trace) =
              beats m.trace ++ [.begun a.oid, .done a.oid] := by
            rw [mark_trace, beats_cons rfl]
            show beats ran.1.trace ++ _ = _
            rw [executeAction_beats idle, List.append_assoc]
            rfl
          refine ⟨t', [.begun a.oid, .done a.oid] ++ later, cur'', ?_, ?_⟩
          · rw [added, round, List.append_assoc]
          · rw [List.append_assoc, order, looping.left_plain actions kind]
  | case4 m t₀ h a rest actions begun ran checked =>
      rename_i notCompleted
      intro t cur looping
      rw [h] at cur
      cases cur
      have idle : a.state = .idle := looping.idle a (by rw [actions]; exact List.mem_cons_self)
      cases kind : a.kind with
      | plain func =>
          obtain ⟨completed, -⟩ := executeAction_plain h looping actions kind
          exact absurd completed notCompleted
      | wait =>
          obtain ⟨-, cur', -, -⟩ := executeAction_wait h looping actions (by simp [Action.isWait, kind])
          refine ⟨_, [.begun a.oid], cur', executeAction_beats idle, ?_⟩
          simp only [Task.left, looping.curAction, looping.pendingActions, actions, List.nil_append,
            Option.toList_some,
            Option.toList_none, List.map_cons, List.map_nil, List.cons_append]
          show _ = Action.script a ++ script rest
          simp only [Action.script, kind, List.cons_append, List.nil_append]

/-- `ExecuteInner` on a task without a current action. -/
theorem executeInner_script {m : TaskManager} {t : Task} (cur : m.curTask = some t)
    (none : t.curAction = none)
    (idle : ∀ a ∈ t.queued, a.state = .idle) : Executes m m.executeInner.1 t := by
  let running : Task := { t with state := .running }
  have looping : running.checkPending.Looping := Task.looping_checkPending none idle
  have left : running.checkPending.left = t.left := by
    unfold Task.checkPending
    split
    · rfl
    · rfl
  have shape : m.executeInner = (m.setCur (some running.checkPending)).executeLoop := by
    rw [executeInner, mapCur_of_cur cur]
  obtain ⟨t', ran, cur', added, order⟩ := executeLoop_script (setCur_curTask m _) looping
  rw [shape]
  exact ⟨t', ran, cur', added, order.trans left⟩

/-- `Execute` on a task taken from a queue. -/
theorem execute_script {m : TaskManager} {t : Task} (cur : m.curTask = some t) (fresh : t.Fresh) :
    Executes m m.execute.1 t := by
  have shape : m.execute = m.executeInner := by simp [execute, cur, fresh.state]
  rw [shape]
  refine executeInner_script cur fresh.curAction fun a member => ?_
  rw [Task.queued, fresh.pendingActions, List.append_nil] at member
  exact fresh.actions a member

/-- **A resume that names the wait** goes on with what is behind it. -/
theorem resume_script {m : TaskManager} {t : Task} {a : Action} (cur : m.curTask = some t)
    (waiting : t.Waiting) (act : t.curAction = some a) {seqId : Nat} (hit : a.resumedBy seqId) :
    Executes m (m.resume seqId).1 t := by
  obtain ⟨mid, ran, resumed⟩ := resume_hit cur waiting act hit
  obtain ⟨new, trace, only⟩ := resumed.trace
  obtain ⟨t', later, cur', added, order⟩ := executeInner_script resumed.cur rfl waiting.idle
  have quiet : ∀ e ∈ new, e.beat? = none := by
    intro e member
    obtain ⟨flag, during, rfl⟩ := only e member
    rfl
  have ended : beats mid.trace = beats m.trace ++ [.done a.oid] := by
    rw [trace, List.cons_append, beats_cons rfl, beats_quiet quiet]
  rw [ran]
  refine ⟨t', [.done a.oid] ++ later, cur', by rw [added, ended, List.append_assoc], ?_⟩
  rw [List.append_assoc, order, Task.left, Task.left, act]
  rfl

/-! ## Turns -/

/-- One turn of the manager: nothing is executed; a task is taken from its queue; the current task
executes on, has come to its end, or is dropped. -/
inductive Turn (m n : TaskManager) : Prop where
  | quiet (cur : n.curTask = m.curTask) (same : beats n.trace = beats m.trace)
  | take (src : SourceType) (t : Task) (none : m.curTask = none) (queued : t ∈ m.queue src)
      (fresh : t.Fresh)
      (source : t.getSourceType = src) (cur : n.curTask = some t)
      (added : beats n.trace = beats m.trace ++ [.started src t.seqId])
  | execute (t : Task) (cur : m.curTask = some t) (executes : Executes m n t)
  | complete (t : Task) (cur : m.curTask = some t) (nothing : t.left = []) (none : n.curTask = none)
      (same : beats n.trace = beats m.trace)
  | drop (t : Task) (a : Action) (cur : m.curTask = some t) (act : t.curAction = some a)
      (none : n.curTask = none)
      (same : beats n.trace = beats m.trace) (discarded : .discard a.oid ∈ n.trace)

/-- A turn; queues only shrink, the trace only grows. -/
structure Lap (m n : TaskManager) : Prop where
  turn : Turn m n
  queues : ∀ src, ∀ t ∈ n.queue src, t ∈ m.queue src
  suffix : m.trace <:+ n.trace

abbrev Laps : TaskManager → TaskManager → Prop := ReflTransGen Lap

theorem Lap.of_quiet {m n : TaskManager} (cur : n.curTask = m.curTask) (trace : n.trace = m.trace)
    (queues : ∀ src, ∀ t ∈ n.queue src, t ∈ m.queue src) : Lap m n :=
  ⟨.quiet cur (by rw [trace]), queues, trace ▸ List.suffix_refl _⟩

theorem mem_setQueue {m : TaskManager} {src : SourceType} {ts : List Task}
    (sub : ∀ t ∈ ts, t ∈ m.queue src)
    (other : SourceType) : ∀ t ∈ (m.setQueue src ts).queue other, t ∈ m.queue other := by
  intro t member
  by_cases same : other = src
  · subst same
    rw [setQueue_queue] at member
    exact sub t member
  · rwa [setQueue_queue_ne m same] at member

/-- A resume that is popped is handed to the current task. -/
theorem inner_laps {m : TaskManager} {t task : Task} {rest : List Task} (base : Base m)
    (cur : m.curTask = some t)
    (queue : m.innerTasks = task :: rest) : Laps m ((m.setQueue .inner rest).onTask task).1 := by
  let popped := m.setQueue .inner rest
  have pops : Lap m popped := by
    refine .of_quiet rfl rfl (mem_setQueue fun u member => ?_)
    rw [TaskManager.queue, queue]
    exact List.mem_cons_of_mem _ member
  have curPopped : popped.curTask = some t := cur
  obtain ⟨-, inner⟩ := base.fresh .inner task (by simp [TaskManager.queue, queue])
  have shape : popped.onTask task = popped.resume task.seqId := by simp [onTask, curPopped, inner]
  have waiting := base.cur t cur
  obtain ⟨a, act, -, -⟩ := waiting.wait
  rw [shape]
  by_cases hit : a.resumedBy task.seqId
  · obtain ⟨-, -, -, moves, -⟩ := onTask_inner curPopped waiting inner
    rw [shape] at moves
    refine .tail (.single pops) ⟨.execute t curPopped (resume_script curPopped waiting act hit),
      fun src u member => ?_,
      moves_suffix moves⟩
    rwa [queue_congr (resume_queues popped task.seqId) src] at member
  · rw [resume_miss curPopped waiting act hit]
    exact .single pops

theorem Task.Done.left_nil {t : Task} (done : t.Done) : t.left = [] := by
  have empty := done.empty
  simp only [Task.held, Task.queued, List.append_eq_nil_iff, List.map_eq_nil_iff] at empty
  simp [Task.left, empty.1, empty.2.1, empty.2.2, script]

theorem processNextInnerTask_laps {m : TaskManager} (base : Base m) :
    Laps m m.processNextInnerTask := by
  revert base
  fun_induction processNextInnerTask m with
  | case1 m none => exact fun _ => .refl
  | case2 m t nil cur => exact fun _ => .refl
  | case3 m t task rest queue cur ran completed =>
      intro base
      obtain ⟨t', cur', -, done⟩ := inner_round_completed base cur queue completed
      refine (inner_laps base cur queue).tail
        ⟨.complete t' cur' done.left_nil rfl rfl, fun src u member => ?_,
        List.suffix_refl _⟩
      cases src
      · exact member
      · exact member
      · exact member
      · cases member
  | case4 m t task rest queue cur ran notCompleted paused ih =>
      intro base
      obtain ⟨-, t', cur', -, -, waiting⟩ := inner_round_paused base cur queue notCompleted
      exact (inner_laps base cur queue).trans (ih (inner_round_base base queue cur' waiting))
  | case5 m t task rest queue cur ran notCompleted notPaused =>
      intro base
      exact absurd (inner_round_paused base cur queue notCompleted).1 notPaused

/-- A task is taken and executed. -/
theorem takeTask_laps {m : TaskManager} {src : SourceType} {t : Task} {rest : List Task} (base : Base m)
    (none : m.curTask = none) (queue : m.queue src = t :: rest) :
    Laps m (m.takeTask src t rest).executeCurrentTask := by
  obtain ⟨fresh, source⟩ := base.fresh src t (by rw [queue]; exact List.mem_cons_self)
  let taken := m.takeTask src t rest
  have curTaken : taken.curTask = some t := rfl
  have traceTaken : taken.trace = .start src t.seqId :: m.trace := by simp [taken, takeTask]
  have takes : Lap m taken := by
    refine ⟨.take src t none (by rw [queue]; exact List.mem_cons_self) fresh source curTaken ?_,
      fun other u member => ?_, ?_⟩
    · rw [traceTaken, beats_cons rfl]
    · have sub : ∀ u ∈ rest,
        u ∈ m.queue src := fun u member => by rw [queue]; exact List.mem_cons_of_mem _ member
      refine mem_setQueue sub other u ?_
      simpa [taken, takeTask] using member
    · rw [traceTaken]
      exact List.suffix_cons _ _
  obtain ⟨t', cur', ended, moves⟩ := execute_spec curTaken fresh
  have executes : Lap taken taken.execute.1 := by
    refine ⟨.execute t curTaken (execute_script curTaken fresh),
      fun other u member => ?_, moves_suffix moves⟩
    rwa [queue_congr (execute_queues taken) other] at member
  have ran : Laps m taken.execute.1 := (ReflTransGen.single takes).tail executes
  rcases ended.cases with ⟨completed, done⟩ | ⟨paused, -, -⟩
  · have shape : taken.executeCurrentTask =
      (taken.execute.1.setCur Option.none).mark .processAsync := by
      simp only [executeCurrentTask, curTaken, completed, if_true]
    show Laps m taken.executeCurrentTask
    rw [shape]
    refine ran.tail ⟨.complete t' cur' done.left_nil rfl (beats_cons_quiet rfl _),
      fun other u member => ?_,
      List.suffix_cons _ _⟩
    simpa using member
  · have shape : taken.executeCurrentTask = taken.execute.1 := by
      simp only [executeCurrentTask, curTaken, paused, reduceCtorEq, if_false, if_true]
    show Laps m taken.executeCurrentTask
    rw [shape]
    exact ran

theorem startTasks_laps (src : SourceType) {m : TaskManager} (base : Base m)
    (gate : src = .imsa → m.inited = true ∨ m.Revoked) : Laps m (startTasks src m) := by
  revert base gate
  fun_induction startTasks src m with
  | case1 m t cur => exact fun _ _ => .refl
  | case2 m nil none => exact fun _ _ => .refl
  | case3 m t rest queue none ih =>
      intro base gate
      obtain ⟨base', -, -, -, gate'⟩ := takeTask_spec base none queue gate
      exact (takeTask_laps base none queue).trans (ih base' gate')

/-- What is current is dropped; everything that it holds is discarded. -/
theorem dropCur_lap {m : TaskManager} {t : Task} (cur : m.curTask = some t) (waiting : t.Waiting) :
    Lap m m.dropCur := by
  obtain ⟨a, act, -, -⟩ := waiting.wait
  have quiet : ∀ e ∈ ((t.held.map Mark.discard).reverse), e.beat? = none := by
    intro e member
    obtain ⟨oid, -, rfl⟩ := List.mem_map.1 (List.mem_reverse.1 member)
    rfl
  have trace : m.dropCur.trace = (t.held.map Mark.discard).reverse ++ m.trace := by
    simp [dropCur, marks, cur]
  refine ⟨.drop t a cur act rfl (by rw [trace, beats_quiet quiet]) ?_, fun src u member => ?_, ?_⟩
  · rw [trace]
    simp [Task.held, act]
  · cases src <;> exact member
  · rw [trace]
    exact List.suffix_append _ _

theorem processNextAmsTask_laps {m : TaskManager} (base : Base m) : Laps m m.processNextAmsTask := by
  unfold processNextAmsTask
  split
  · exact .refl
  · split
    · exact startTasks_laps .ams base ams_gate
    · rename_i t cur
      split
      · exact .refl
      · have dropped : Base m.dropCur :=
          ⟨by simp [dropCur], fun src u member => base.fresh src u (by cases src <;> exact member)⟩
        exact .head (dropCur_lap cur (base.cur t cur)) (startTasks_laps .ams dropped ams_gate)

/-- Without a current task to merge them into, or without any, IMA tasks are executed like all
others. -/
theorem processNextImaTask_laps {m : TaskManager} (base : Base m)
    (calm : m.imaTasks = [] ∨ m.curTask = none) :
    Laps m m.processNextImaTask := by
  unfold processNextImaTask
  split
  · exact .refl
  · rename_i left
    rw [calm.resolve_left left]
    exact startTasks_laps .ima base ima_gate

theorem processNextImsaTask_laps {m : TaskManager} (base : Base m) : Laps m m.processNextImsaTask := by
  unfold processNextImsaTask
  split
  · exact .refl
  · rename_i inited
    split
    · exact .refl
    · exact startTasks_laps .imsa base fun _ => .inl (by simpa using inited)

/-- No IMA task is there, or no task to merge it into. -/
def Calm (m : TaskManager) : Prop := m.imaTasks = [] ∨ (m.curTask = none ∧ m.amsTasks = [])

theorem process_laps {m : TaskManager} (base : Base m) (single : m.imaTasks.length ≤ 1)
    (calm : Calm m) :
    Laps m m.process := by
  have inner := processNextInnerTask_spec base
  have ams := processNextAmsTask_spec inner.base
  have ima : m.processNextInnerTask.processNextAmsTask.imaTasks = m.imaTasks :=
    (ams.other .ima (by decide)).trans (inner.other .ima (by decide))
  obtain ⟨base₃, -, -, -, -⟩ := processNextImaTask_spec ams.base ams.behind (by rw [ima]; exact single)
  have calm' : m.processNextInnerTask.processNextAmsTask.imaTasks = [] ∨
      m.processNextInnerTask.processNextAmsTask.curTask = none := by
    rcases calm with nil | ⟨none, noAms⟩
    · exact .inl (ima.trans nil)
    · have first : m.processNextInnerTask = m := by
        unfold processNextInnerTask
        simp only [none]
      have second : m.processNextAmsTask = m := by
        unfold processNextAmsTask
        rw [if_pos noAms]
      rw [first, second]
      exact .inr none
  exact (((processNextInnerTask_laps base).trans (processNextAmsTask_laps inner.base)).trans
    (processNextImaTask_laps ams.base calm')).trans (processNextImsaTask_laps base₃)

/-! ## The log of a run -/

/-- A task that was started: what was executed of it, and what is left. -/
structure Entry where
  task : Task
  ran : List Beat
  left : List Beat

/-- Nothing is left, or the action it was in was discarded. -/
def Entry.Ended (e : Entry) (trace : List Mark) : Prop :=
  e.left = [] ∨ ∃ oid, .done oid ∈ e.left ∧ .discard oid ∈ trace

/-- **The executions of the started tasks, oldest first.**  One after the other they are all that
the trace shows; each follows the script of its task, as far as it came; all but the current one
have ended. -/
structure Logged (delivered : List Task) (m : TaskManager) (log : List Entry) : Prop where
  tasks : ∀ e ∈ log, e.task ∈ delivered
  queued : ∀ src, ∀ t ∈ m.queue src, t ∈ delivered
  trace : beats m.trace = log.flatMap fun e => .started e.task.getSourceType e.task.seqId :: e.ran
  order : ∀ e ∈ log, e.ran ++ e.left = script e.task.actions
  idle : m.curTask = none → ∀ e ∈ log, e.Ended m.trace
  current : ∀ t, m.curTask = some t → ∃ older e,
    log = older ++ [e] ∧ e.left = t.left ∧ ∀ e ∈ older, e.Ended m.trace

theorem Entry.Ended.mono {e : Entry} {trace trace' : List Mark} (ended : e.Ended trace)
    (suffix : trace <:+ trace') : e.Ended trace' :=
  ended.imp_right fun ⟨oid, here, discarded⟩ => ⟨oid, here, suffix.subset discarded⟩

namespace Logged

variable {delivered : List Task} {m n : TaskManager} {log : List Entry}

/-- Nothing is executed. -/
theorem quiet (logged : Logged delivered m log) (cur : n.curTask = m.curTask)
    (same : beats n.trace = beats m.trace)
    (queues : ∀ src, ∀ t ∈ n.queue src, t ∈ delivered) (suffix : m.trace <:+ n.trace) :
    Logged delivered n log := by
  refine ⟨logged.tasks, queues, same.trans logged.trace, logged.order,
    fun none e member => ?_, fun t now => ?_⟩
  · exact (logged.idle (cur.symm.trans none) e member).mono suffix
  · obtain ⟨older, e, shape, left, ended⟩ := logged.current t (cur.symm.trans now)
    exact ⟨older, e, shape, left, fun e member => (ended e member).mono suffix⟩

/-- The current task stops being current: it has come to its end, or is dropped. -/
theorem stops (logged : Logged delivered m log) {t : Task} (cur : m.curTask = some t)
    (none : n.curTask = none)
    (same : beats n.trace = beats m.trace) (queues : ∀ src, ∀ t ∈ n.queue src, t ∈ delivered)
    (suffix : m.trace <:+ n.trace)
    (ends : t.left = [] ∨ ∃ oid, .done oid ∈ t.left ∧ .discard oid ∈ n.trace) :
    Logged delivered n log := by
  obtain ⟨older, e, shape, left, ended⟩ := logged.current t cur
  refine ⟨logged.tasks, queues, same.trans logged.trace, logged.order, fun _ e' member => ?_,
    fun t now => absurd (none.symm.trans now) (by simp)⟩
  rw [shape] at member
  rcases List.mem_append.1 member with old | new
  · exact (ended e' old).mono suffix
  · rw [List.mem_singleton.1 new, Entry.Ended, left]
    exact ends

/-- **Every turn is logged.** -/
theorem lap (logged : Logged delivered m log) (lap : Lap m n) : ∃ log', Logged delivered n log' := by
  have queues : ∀ src, ∀ t ∈ n.queue src, t ∈ delivered := fun src t member =>
    logged.queued src t (lap.queues src t member)
  have suffix := lap.suffix
  cases lap.turn with
  | quiet cur same => exact ⟨log, logged.quiet cur same queues suffix⟩
  | take src t none queued fresh source cur added =>
      have whole : t.left = script t.actions := by
        simp [Task.left, fresh.curAction, fresh.pendingActions]
      refine ⟨log ++ [⟨t, [], t.left⟩], fun e member => ?_, queues, ?_, fun e member => ?_,
        fun none => absurd (cur.symm.trans none) (by simp), fun u now => ?_⟩
      · rcases List.mem_append.1 member with old | new
        · exact logged.tasks e old
        · rw [List.mem_singleton.1 new]
          exact logged.queued src t queued
      · rw [added, logged.trace, List.flatMap_append, source.symm]
        rfl
      · rcases List.mem_append.1 member with old | new
        · exact logged.order e old
        · rw [List.mem_singleton.1 new]
          exact whole
      · obtain rfl : t = u := Option.some.inj (cur.symm.trans now)
        exact ⟨log, _, rfl, rfl, fun e member => (logged.idle none e member).mono suffix⟩
  | execute t cur executes =>
      obtain ⟨t', ran, cur', added, order⟩ := executes
      obtain ⟨older, e, rfl, left, ended⟩ := logged.current t cur
      refine ⟨older ++ [{ e with ran := e.ran ++ ran, left := t'.left }],
        fun e' member => ?_, queues, ?_,
        fun e' member => ?_, fun none => absurd (cur'.symm.trans none) (by simp), fun u now => ?_⟩
      · rcases List.mem_append.1 member with old | new
        · exact logged.tasks e' (List.mem_append_left _ old)
        · rw [List.mem_singleton.1 new]
          exact logged.tasks e (by simp)
      · rw [added, logged.trace]
        simp
      · rcases List.mem_append.1 member with old | new
        · exact logged.order e' (List.mem_append_left _ old)
        · rw [List.mem_singleton.1 new]
          show (e.ran ++ ran) ++ t'.left = _
          rw [List.append_assoc, order, ← left]
          exact logged.order e (by simp)
      · obtain rfl : t' = u := Option.some.inj (cur'.symm.trans now)
        exact ⟨older, _, rfl, rfl, fun e member => (ended e member).mono suffix⟩
  | complete t cur nothing none same =>
      exact ⟨log, logged.stops cur none same queues suffix (.inl nothing)⟩
  | drop t a cur act none same discarded =>
      refine ⟨log, logged.stops cur none same queues suffix (.inr ⟨a.oid, ?_, discarded⟩)⟩
      simp [Task.left, act]

theorem laps (logged : Logged delivered m log) (laps : Laps m n) : ∃ log', Logged delivered n log' := by
  refine Lib.steps_keep (P := fun k => ∃ log', Logged delivered k log')
    (fun k l lap => ?_) laps ⟨log, logged⟩
  rintro ⟨log', logged'⟩
  exact logged'.lap lap

end Logged

/-! ## Every run -/

/-- No IMA task is delivered while a task is paused. -/
def Event.Undisturbed (m : TaskManager) : Event → Prop
  | .newTask t => t.task.getSourceType = .ima → m.curTask = none
  | _ => True

instance (m : TaskManager) : (e : Event) → Decidable (e.Undisturbed m)
  | .newTask _ => inferInstanceAs (Decidable (_ → _))
  | .process => .isTrue trivial
  | .setInited _ => .isTrue trivial
  | .reset => .isTrue trivial

def Event.delivers : Event → List Task
  | .newTask t => [t.task]
  | _ => []

theorem arrive_calm {m : TaskManager} (inv : Inv m) {t : NewTask}
    (undisturbed : Event.Undisturbed m (.newTask t)) :
    Calm (m.arrive t.task) := by
  by_cases ima : t.task.getSourceType = .ima
  · have none := undisturbed ima
    have noAms : m.amsTasks = [] := by
      by_contra left
      have source := inv.ams left
      simp [curSource, none] at source
    refine .inr ⟨by simpa [arrive, marks] using none, ?_⟩
    simpa [arrive, marks, ima, setQueue] using noAms
  · refine .inl ?_
    have queue := setQueue_queue_ne m (Ne.symm ima) (m.queue t.task.getSourceType ++ [t.task])
    exact queue.trans inv.ima

theorem Logged.step {delivered : List Task} {m : TaskManager} {log : List Entry}
    (logged : Logged delivered m log) (inv : Inv m) {e : Event} (undisturbed : e.Undisturbed m) :
    ∃ log', Logged (delivered ++ e.delivers) (m.step e) log' := by
  have grown : Logged (delivered ++ e.delivers) m log :=
    { logged with
      tasks := fun e member => List.mem_append_left _ (logged.tasks e member)
      queued := fun src t member => List.mem_append_left _ (logged.queued src t member) }
  cases e with
  | newTask t =>
      have arrived : Logged (delivered ++ [t.task]) (m.arrive t.task) log := by
        refine grown.quiet (by simp [arrive, marks]) ?_ (fun src u member => ?_) ?_
        · rw [arrive_trace]
          refine beats_quiet fun e member => ?_
          simp only [List.mem_reverse, List.mem_cons, List.mem_map] at member
          rcases member with rfl | ⟨a, -, rfl⟩
          · rfl
          · rfl
        · have queued : u ∈ (m.setQueue t.task.getSourceType
            (m.queue t.task.getSourceType ++ [t.task])).queue src := by
            cases src <;> exact member
          by_cases same : src = t.task.getSourceType
          · subst same
            rw [setQueue_queue] at queued
            rcases List.mem_append.1 queued with old | new
            · exact grown.queued _ u old
            · exact List.mem_append_right _ new
          · rw [setQueue_queue_ne m same] at queued
            exact grown.queued src u queued
        · rw [arrive_trace]
          exact List.suffix_append _ _
      exact arrived.laps (process_laps (arrive_base inv.base t) (arrive_ima_single inv.ima t.task)
        (arrive_calm inv undisturbed))
  | process => exact grown.laps (process_laps inv.base (by simp [inv.ima]) (.inl inv.ima))
  | setInited flag =>
      refine ⟨log, grown.quiet rfl (beats_cons_quiet rfl _) (fun src u member => ?_)
        (List.suffix_cons _ _)⟩
      exact grown.queued src u (by cases src <;> exact member)
  | reset =>
      have trace : (m.step .reset).trace = (m.held.map Mark.discard).reverse ++ m.trace := rfl
      have same : beats (m.step .reset).trace = beats m.trace := by
        rw [trace]
        refine beats_quiet fun e member => ?_
        obtain ⟨oid, -, rfl⟩ := List.mem_map.1 (List.mem_reverse.1 member)
        rfl
      have queues : ∀ src, ∀ t ∈ (m.step .reset).queue src, t ∈ delivered ++ [] := by
        intro src t member
        cases src <;> cases member
      have suffix : m.trace <:+ (m.step .reset).trace := by
        rw [trace]
        exact List.suffix_append _ _
      cases cur : m.curTask with
      | none => exact ⟨log, grown.quiet (n := m.step .reset) (by rw [cur]; rfl) same queues suffix⟩
      | some t =>
          obtain ⟨a, act, -, -⟩ := (inv.base.cur t cur).wait
          refine ⟨log, grown.stops cur rfl same queues suffix
            (.inr ⟨a.oid, by simp [Task.left, act], ?_⟩)⟩
          rw [trace]
          simp [TaskManager.held, cur, Task.held, act]

/-- The tasks that a run is given. -/
def delivered (es : List Event) : List Task := es.flatMap Event.delivers

theorem run_logged (es : List Event) (undisturbed : Lib.Meets step (fun m e => e.Undisturbed m) {} es) :
    ∃ log, Logged (delivered es) (Lib.run step {} es) log := by
  induction es using List.reverseRecOn with
  | nil =>
      refine ⟨[], by simp, fun src t member => ?_, rfl, by simp, by simp, by simp⟩
      cases src <;> cases member
  | append_singleton es e ih =>
      obtain ⟨before, last⟩ := Lib.meets_append.1 undisturbed
      obtain ⟨log, logged⟩ := ih before
      have stepped := logged.step (run_inv es) last.1
      rw [delivered, List.flatMap_append, List.flatMap_singleton, Lib.run_append]
      exact stepped

/-! ## Waits -/

theorem laps_suffix {m n : TaskManager} (laps : Laps m n) : m.trace <:+ n.trace :=
  Lib.steps_keep (P := fun k => m.trace <:+ k.trace)
    (fun _ _ lap suffix => suffix.trans lap.suffix) laps
    (List.suffix_refl _)

/-- When none of the resumes that are there names the wait, the task stays paused on it or is
dropped. -/
theorem process_unresumed {m : TaskManager} {t : Task} {a : Action} (base : Base m)
    (cur : m.curTask = some t) (act : t.curAction = some a) (nil : m.imaTasks = [])
    (miss : ∀ task ∈ m.innerTasks, ¬ a.resumedBy task.seqId) :
    m.process.curTask = some t ∨ .discard a.oid ∈ m.process.trace := by
  let drained := m.setQueue .inner []
  have first : m.processNextInnerTask = drained := processNextInnerTask_misses base cur act miss
  have curDrained : drained.curTask = some t := cur
  have baseDrained : Base drained := base.setQueue fun _ member => by cases member
  have ams := processNextAmsTask_spec baseDrained
  have third : drained.processNextAmsTask.processNextImaTask = drained.processNextAmsTask := by
    have none : drained.processNextAmsTask.imaTasks = [] := (ams.other .ima (by decide)).trans nil
    unfold processNextImaTask
    rw [if_pos none]
  rw [process, first, third]
  by_cases kept : drained.processNextAmsTask = drained
  · rw [kept]
    refine .inl ?_
    unfold processNextImsaTask
    split
    · exact curDrained
    · rw [if_pos (.inl (by rw [curDrained]; rfl))]
      exact curDrained
  · refine .inr ?_
    have dropped : drained.processNextAmsTask = startTasks .ams drained.dropCur := by
      unfold processNextAmsTask at kept ⊢
      split
      · rename_i none
        rw [if_pos none] at kept
        exact absurd rfl kept
      · rename_i some
        rw [if_neg some] at kept
        simp only [curDrained] at kept ⊢
        split
        · rename_i same
          rw [if_pos same] at kept
          exact absurd rfl kept
        · rfl
    have discarded : .discard a.oid ∈ drained.dropCur.trace := by
      simp [dropCur, marks, curDrained, Task.held, act]
    have baseDropped : Base drained.dropCur :=
      ⟨by simp [dropCur], fun src u member => baseDrained.fresh src u (by cases src <;> exact member)⟩
    have laps := (startTasks_laps .ams baseDropped ams_gate).trans
      (processNextImsaTask_laps (startTasks_spec .ams baseDropped ams_gate).base)
    rw [dropped]
    exact (laps_suffix laps).subset discarded

theorem step_unresumed {m : TaskManager} {t : Task} {a : Action} (inv : Inv m)
    (cur : m.curTask = some t)
    (act : t.curAction = some a) {e : Event} (undisturbed : e.Undisturbed m)
    (miss : ∀ task ∈ (e.enter m).innerTasks, ¬ a.resumedBy task.seqId) :
    (m.step e).curTask = some t ∨ .discard a.oid ∈ (m.step e).trace := by
  cases e with
  | newTask new =>
      have curArrived : (m.arrive new.task).curTask = some t := by simpa [arrive, marks] using cur
      have nil : (m.arrive new.task).imaTasks = [] := by
        rcases arrive_calm inv undisturbed with nil | ⟨none, -⟩
        · exact nil
        · rw [curArrived] at none
          cases none
      exact process_unresumed (arrive_base inv.base new) curArrived act nil miss
  | process => exact process_unresumed inv.base cur act inv.ima miss
  | setInited flag => exact .inl cur
  | reset =>
      refine .inr ?_
      show Mark.discard a.oid ∈ (m.held.map Mark.discard).reverse ++ m.trace
      simp [TaskManager.held, cur, Task.held, act]

/-! ## Depth-first -/

/-- **Every task executes depth-first.**  In every run in which no IMA task is delivered while a
task is paused: the executions of the started tasks, one after the other, are all that is begun and
done; each is the beginning of the script of its task, and all of it unless the task is still
current or was dropped.  And what is paused on a wait stays paused, or is dropped, as long as no
`TaskResume` with one of the two ids of the wait is delivered. -/
theorem executes_depth_first (es : List Event)
    (undisturbed : Lib.Meets step (fun m e => e.Undisturbed m) {} es) :
    let m := Lib.run step {} es
    (∃ log, Logged (delivered es) m log) ∧
      ∀ t a, m.curTask = some t → t.curAction = some a → ∀ e : Event, e.Undisturbed m →
        (∀ task ∈ (e.enter m).innerTasks, ¬ a.resumedBy task.seqId) →
        (m.step e).curTask = some t ∨ .discard a.oid ∈ (m.step e).trace :=
  ⟨run_logged es undisturbed, fun _ _ cur act _ calm miss =>
    step_unresumed (run_inv es) cur act calm miss⟩

/-! ## Poles -/

/-- Action 1 pends 2, which pends 3, and then waits for 50 to execute 5, which pends 6; behind it
stands 7.  The first resume names another wait. -/
def nestedRun : List Event :=
  [.setInited true,
   .newTask (.of .imsaStartInput 100
    [.new 1 (.pend 2 (.pend 3 .done .done) (.waitExec 4 5 50 1000 (.pend 6 .done .done) .done)),
      .new 7 .done]
    (by decide) imsaStartInput_outer),
   .newTask (.resume 60), .newTask (.resume 50)]

theorem nested_run_depth_first :
    (∃ log, Logged (delivered nestedRun) (Lib.run step {} nestedRun) log) ∧
      beats (Lib.run step {} nestedRun).trace =
        .started .imsa 100 :: [1, 2, 3, 4, 5, 6, 7].flatMap fun oid => [.begun oid, .done oid] :=
  ⟨(executes_depth_first nestedRun (by decide +kernel)).1, by decide +kernel⟩

end Imf.Ability
