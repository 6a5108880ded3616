/-
# Imf.Ability.Scheduling -- the scheduling invariant over every event order

What holds between two events of the worker thread: the current task, when there
is one, is paused on a wait; no IMA task is left queued; AMS tasks queue up only
behind a paused AMS task; and, once the manager is initialized, IMSA tasks queue
up only behind a current task.  The comments "it must be paused" and
"unreachable" of `task_manager.cpp` are consequences.

Each stage of `Process` has one lemma that says what it leaves and that it is a chain
of moves; `step_inv` composes them.
-/
import Imf.Ability.Moves

namespace Imf.Ability

set_option autoImplicit false

open Relation (ReflTransGen)
open TaskManager

/-! ## Resuming -/

/-- The ids that end a wait: its completion and its timeout. -/
def Action.resumedBy (a : Action) (seqId : Nat) : Prop :=
  match a.kind with
  | .plain _ => False
  | .wait _ completeId timeoutId _ _ => seqId = completeId ∨ seqId = timeoutId

instance (a : Action) (seqId : Nat) : Decidable (a.resumedBy seqId) := by
  unfold Action.resumedBy
  cases a.kind <;> infer_instance

/-- The manager at the moment when the resumed wait is gone and `ExecuteInner` is
about to run: the callback has run, with no effect but its `SetInited` calls. -/
structure Resumed (m : TaskManager) (t : Task) (oid : Nat) (mid : TaskManager) : Prop where
  cur : mid.curTask = some { t with curAction := none }
  queues : mid.queues = m.queues
  moves : Moves m mid
  trace : ∃ new : List Mark, mid.trace = .finish oid :: new ++ m.trace ∧
    ∀ e ∈ new, ∃ flag during, e = .setInited flag during

/-- A resume that names the wait runs its callback, drops the wait and executes on. -/
theorem resume_hit {m : TaskManager} {t : Task} {a : Action} (cur : m.curTask = some t)
    (waiting : t.Waiting) (act : t.curAction = some a) {seqId : Nat} (hit : a.resumedBy seqId) :
    ∃ mid, m.resume seqId = mid.executeInner ∧ Resumed m t a.oid mid := by
  obtain ⟨a', act', wait, paused⟩ := waiting.wait
  obtain rfl : a' = a := Option.some.inj (act'.symm.trans act)
  have notRunning : ∀ u, m.curTask = some u → u.state ≠ .running := by
    intro u same
    rw [cur] at same
    cases same
    rw [waiting.state]
    decide
  obtain ⟨oid, state, kind⟩ := a'
  obtain rfl : state = .paused := paused
  cases kind with
  | plain func => simp [Action.isWait] at wait
  | wait ms completeId timeoutId onComplete onTimeout =>
      let kind : ActionKind := .wait ms completeId timeoutId onComplete onTimeout
      have callback : ∃ b, m.resumeAction ⟨oid, .paused, kind⟩ seqId =
          ((runBody b m).setCurAction ⟨oid, .completed, kind⟩, .completed) := by
        by_cases first : seqId = completeId
        · exact ⟨onComplete, by simp [resumeAction, kind, first]⟩
        · have second : seqId = timeoutId := hit.resolve_left first
          refine ⟨onTimeout, ?_⟩
          simp [resumeAction, kind, second, show ¬ timeoutId = completeId from second ▸ first]
      obtain ⟨b, ran⟩ := callback
      obtain ⟨sameCur, moves, new, trace, only⟩ := runBody_stopped b notRunning
      rw [cur] at sameCur
      rw [setCurAction_of_cur sameCur] at ran
      let finished : Task := { t with curAction := some ⟨oid, .completed, kind⟩ }
      let mid := (((runBody b m).setCur (some finished)).setCur (some finished.resetCurAction)).mark
        (.finish oid)
      refine ⟨mid, ?_, ⟨rfl, runBody_queues b m, ?_, new, ?_, only⟩⟩
      · simp only [resume, cur, act, waiting.state, ne_eq, not_true_eq_false, if_false]
        rw [ran]
        rfl
      · exact (moves.tail (Move.setActionState _ t _ .completed sameCur act)).tail
          (Move.finish _ finished _ rfl rfl)
      · simp [mid, trace]

/-- Any other resume is ignored. -/
theorem resume_miss {m : TaskManager} {t : Task} {a : Action} (cur : m.curTask = some t)
    (waiting : t.Waiting) (act : t.curAction = some a) {seqId : Nat} (miss : ¬ a.resumedBy seqId) :
    m.resume seqId = (m, .paused) := by
  obtain ⟨a', act', wait, paused⟩ := waiting.wait
  obtain rfl : a' = a := Option.some.inj (act'.symm.trans act)
  cases kind : a'.kind with
  | plain func => simp [Action.isWait, kind] at wait
  | wait ms completeId timeoutId onComplete onTimeout =>
      simp only [Action.resumedBy, kind, not_or] at miss
      simp [resume, cur, act, waiting.state, resumeAction, kind, paused, miss.1, miss.2]

/-! ## Between events -/

/-- What holds at every boundary between stages: the current task is paused on a
wait, and each queue holds fresh tasks of its own source. -/
structure Base (m : TaskManager) : Prop where
  cur : ∀ t, m.curTask = some t → t.Waiting
  fresh : ∀ src, ∀ t ∈ m.queue src, t.Fresh ∧ t.getSourceType = src

theorem Base.of_queues {m n : TaskManager} (base : Base m) (queues : n.queues = m.queues)
    (cur : ∀ t, n.curTask = some t → t.Waiting) : Base n :=
  ⟨cur, fun src t member => base.fresh src t (by rwa [queue_congr queues] at member)⟩

theorem Task.Fresh.held_inner {t : Task} (fresh : t.Fresh) (inner : t.getSourceType = .inner) :
    t.held = [] := by
  simp [Task.held, Task.queued, fresh.curAction, fresh.pendingActions, fresh.inner inner]

theorem Base.inner_held {m : TaskManager} (base : Base m) :
    ∀ task ∈ m.innerTasks, task.held = [] := fun task member =>
  (base.fresh .inner task member).1.held_inner (base.fresh .inner task member).2

/-- Taking the rest of a queue keeps the base. -/
theorem Base.setQueue {m : TaskManager} (base : Base m) {src : SourceType} {ts : List Task}
    (sub : ∀ t ∈ ts, t ∈ m.queue src) : Base (m.setQueue src ts) := by
  refine ⟨by simpa using base.cur, fun other t member => ?_⟩
  by_cases same : other = src
  · subst same
    rw [setQueue_queue] at member
    exact base.fresh other t (sub t member)
  · rw [setQueue_queue_ne m same] at member
    exact base.fresh other t member

/-! ## The inner stage -/

/-- An inner task handed to the paused current task leaves it completed or paused. -/
theorem onTask_inner {m : TaskManager} {t task : Task} (cur : m.curTask = some t)
    (waiting : t.Waiting) (inner : task.getSourceType = .inner) :
    ∃ t', (m.onTask task).1.curTask = some t' ∧ t'.getSourceType = t.getSourceType ∧
      Moves m (m.onTask task).1 ∧
      ((m.onTask task).2 = .completed ∧ t'.Done ∨ (m.onTask task).2 = .paused ∧ t'.Waiting) := by
  have shape : m.onTask task = m.resume task.seqId := by simp [onTask, cur, inner]
  rw [shape]
  obtain ⟨a, act, -, -⟩ := waiting.wait
  by_cases hit : a.resumedBy task.seqId
  · obtain ⟨mid, ran, resumed⟩ := resume_hit cur waiting act hit
    obtain ⟨t', cur', ended, moves⟩ := executeInner_spec resumed.cur rfl waiting.idle
    rw [ran]
    exact ⟨t', cur', ended.source, resumed.moves.trans moves,
      ended.cases.imp_right fun paused => ⟨paused.1, paused.2.1⟩⟩
  · rw [resume_miss cur waiting act hit]
    exact ⟨t, cur, rfl, .refl, .inr ⟨rfl, waiting⟩⟩

/-- One round of the inner stage: the first inner task is popped and handed over. -/
theorem inner_round {m : TaskManager} {t task : Task} {rest : List Task} (base : Base m)
    (cur : m.curTask = some t) (queue : m.innerTasks = task :: rest) :
    let ran := (m.setQueue .inner rest).onTask task
    ∃ t', ran.1.curTask = some t' ∧ t'.getSourceType = t.getSourceType ∧ Moves m ran.1 ∧
      (ran.2 = .completed ∧ t'.Done ∨ ran.2 = .paused ∧ t'.Waiting) := by
  obtain ⟨fresh, inner⟩ := base.fresh .inner task (by simp [TaskManager.queue, queue])
  obtain ⟨t', cur', source, moves, ended⟩ := onTask_inner (m := m.setQueue .inner rest) cur
    (base.cur t cur) inner
  exact ⟨t', cur', source, .head (.popInner m task rest queue (fresh.held_inner inner)) moves, ended⟩

theorem inner_round_completed {m : TaskManager} {t task : Task} {rest : List Task} (base : Base m)
    (cur : m.curTask = some t) (queue : m.innerTasks = task :: rest)
    (completed : ((m.setQueue .inner rest).onTask task).2 = .completed) :
    let ran := (m.setQueue .inner rest).onTask task
    ∃ t', ran.1.curTask = some t' ∧ Moves m ran.1 ∧ t'.Done := by
  obtain ⟨t', cur', -, moves, ended⟩ := inner_round base cur queue
  refine ⟨t', cur', moves, ?_⟩
  rcases ended with ⟨-, done⟩ | ⟨paused, -⟩
  · exact done
  · exact absurd (completed.symm.trans paused) (by decide)

/-- A round that does not complete the current task leaves it waiting. -/
theorem inner_round_paused {m : TaskManager} {t task : Task} {rest : List Task} (base : Base m)
    (cur : m.curTask = some t) (queue : m.innerTasks = task :: rest)
    (notCompleted : ¬ ((m.setQueue .inner rest).onTask task).2 = .completed) :
    let ran := (m.setQueue .inner rest).onTask task
    ran.2 = .paused ∧
      ∃ t', ran.1.curTask = some t' ∧ t'.getSourceType = t.getSourceType ∧ Moves m ran.1 ∧
        t'.Waiting := by
  obtain ⟨t', cur', source, moves, ended⟩ := inner_round base cur queue
  rcases ended with ⟨completed, -⟩ | ⟨paused, waiting⟩
  · exact absurd completed notCompleted
  · exact ⟨paused, t', cur', source, moves, waiting⟩

/-- A round with a resume that does not name the wait only pops it. -/
theorem inner_round_miss {m : TaskManager} {t task : Task} {a : Action} {rest : List Task}
    (base : Base m) (cur : m.curTask = some t) (act : t.curAction = some a)
    (queue : m.innerTasks = task :: rest) (miss : ¬ a.resumedBy task.seqId) :
    (m.setQueue .inner rest).onTask task = (m.setQueue .inner rest, .paused) := by
  obtain ⟨-, inner⟩ := base.fresh .inner task (by simp [TaskManager.queue, queue])
  have shape : (m.setQueue .inner rest).onTask task =
      (m.setQueue .inner rest).resume task.seqId := by
    simp only [onTask, setQueue_curTask, cur, inner]
  rw [shape]
  exact resume_miss (m := m.setQueue .inner rest) cur (base.cur t cur) act miss

/-- Its effect on the queues. -/
theorem inner_round_queue (m : TaskManager) (task : Task) (rest : List Task) (src : SourceType) :
    ((m.setQueue .inner rest).onTask task).1.queue src = (m.setQueue .inner rest).queue src :=
  queue_congr (onTask_queues _ _) src

theorem inner_round_base {m : TaskManager} {task t' : Task} {rest : List Task} (base : Base m)
    (queue : m.innerTasks = task :: rest)
    (cur' : ((m.setQueue .inner rest).onTask task).1.curTask = some t') (waiting : t'.Waiting) :
    Base ((m.setQueue .inner rest).onTask task).1 := by
  have popped : Base (m.setQueue .inner rest) := base.setQueue fun u member => by
    simp only [TaskManager.queue, queue]
    exact List.mem_cons_of_mem _ member
  apply popped.of_queues (onTask_queues _ _)
  intro u same
  rw [cur'] at same
  cases same
  exact waiting

/-- What the inner stage leaves. -/
structure InnerStage (m m' : TaskManager) : Prop where
  base : Base m'
  moves : Moves m m'
  source : m'.curTask.isSome → m'.curSource = m.curSource
  other : ∀ src, src ≠ .inner → m'.queue src = m.queue src
  drained : m'.curTask.isSome → m'.innerTasks = []

theorem processNextInnerTask_spec {m : TaskManager} (base : Base m) :
    InnerStage m m.processNextInnerTask := by
  revert base
  fun_induction processNextInnerTask m with
  | case1 m none => intro base; exact ⟨base, .refl, fun _ => rfl, fun _ _ => rfl, by simp [none]⟩
  | case2 m t nil cur =>
      intro base; exact ⟨base, .refl, fun _ => rfl, fun _ _ => rfl, fun _ => nil⟩
  | case3 m t task rest queue cur ran completed =>
      intro base
      obtain ⟨t', cur', moves, done⟩ := inner_round_completed base cur queue completed
      have kept : ∀ u ∈ rest, u ∈ m.innerTasks := by
        rw [queue]
        exact fun u member => List.mem_cons_of_mem _ member
      have innerQueue : ran.1.innerTasks = rest := inner_round_queue m task rest .inner
      have completes := Move.complete ran.1 t' cur' done.empty
      have clears := Move.clearInner (ran.1.setCur none) fun u member =>
        base.inner_held u (kept u (by rw [← innerQueue]; exact member))
      refine ⟨⟨by simp, fun src u member => ?_⟩, (moves.tail completes).tail clears, by simp,
        fun src ne => ?_, by simp⟩
      · by_cases inner : src = .inner
        · subst inner
          simp [TaskManager.queue] at member
        · apply base.fresh src u
          rw [← setQueue_queue_ne m inner rest, ← inner_round_queue m task rest src]
          cases src <;> first | exact member | exact absurd rfl inner
      · have same := (inner_round_queue m task rest src).trans (setQueue_queue_ne m ne rest)
        cases src <;> first | exact same | exact absurd rfl ne
  | case4 m t task rest queue cur ran notCompleted paused ih =>
      intro base
      obtain ⟨-, t', cur', source, moves, waiting⟩ := inner_round_paused base cur queue notCompleted
      obtain ⟨base'', moves', source', other, drained⟩ := ih (inner_round_base base queue cur' waiting)
      refine ⟨base'', moves.trans moves', fun left => ?_, fun src ne => ?_, drained⟩
      · rw [source' left, curSource, curSource, cur', cur, Option.map_some, source, Option.map_some]
      · rw [other src ne, inner_round_queue, setQueue_queue_ne m ne]
  | case5 m t task rest queue cur ran notCompleted notPaused =>
      intro base
      exact absurd (inner_round_paused base cur queue notCompleted).1 notPaused

/-! ## Taking tasks from a queue -/

/-- `n` follows `m` without a `SetInited` call. -/
def NoSetInited (m n : TaskManager) : Prop :=
  ∃ new : List Mark, n.trace = new ++ m.trace ∧ ∀ e ∈ new, e.isSetInited = false

theorem NoSetInited.same {m n : TaskManager} (trace : n.trace = m.trace) : NoSetInited m n :=
  ⟨[], trace, by simp⟩

theorem NoSetInited.one {m n : TaskManager} {e : Mark} (trace : n.trace = e :: m.trace)
    (other : e.isSetInited = false) : NoSetInited m n :=
  ⟨[e], trace, by simpa using other⟩

theorem TaskManager.Revoked.mono {m n : TaskManager} (silent : NoSetInited m n)
    (revoked : m.Revoked) : n.Revoked := by
  obtain ⟨new, trace, other⟩ := silent
  have skipped : new.find? Mark.isSetInited = none := by
    rw [List.find?_eq_none]
    intro e member
    simp [other e member]
  rw [Revoked, RevokedIn, trace, List.find?_append, skipped, Option.none_or]
  exact revoked

/-- While an IMSA task is current, the manager is initialized or was revoked. -/
def Gate (m : TaskManager) : Prop :=
  m.curSource = some .imsa → m.inited = true ∨ m.Revoked

theorem Gate.of_silent {m n : TaskManager} (gate : Gate m) (source : n.curSource = m.curSource)
    (inited : n.inited = m.inited) (silent : NoSetInited m n) : Gate n := by
  intro imsa
  rw [source] at imsa
  rw [inited]
  exact (gate imsa).imp_right (TaskManager.Revoked.mono silent)

theorem Gate.of_none {m : TaskManager} (none : m.curTask = none) : Gate m := by
  intro imsa
  simp [curSource, none] at imsa

/-- **The gate is kept by every move.** -/
theorem gate_move {m n : TaskManager} (move : Move m n) (gate : Gate m) : Gate n := by
  cases move with
  | setInited flag =>
      intro imsa
      cases flag with
      | true => exact .inl rfl
      | false =>
          refine .inr ?_
          have during : m.curSource = some .imsa := imsa
          simp [Revoked, RevokedIn, TaskManager.setInited, during, Mark.isSetInited]
  | draw => exact gate
  | postTask seqId delayMs => exact gate.of_silent rfl rfl (.one rfl rfl)
  | processAsync => exact gate.of_silent rfl rfl (.one rfl rfl)
  | popInner task rest queue empty => exact gate
  | clearInner empty => exact gate
  | setState t s cur => exact gate.of_silent (by simp [curSource, cur]; rfl) rfl (.same rfl)
  | setActionState t a s cur act =>
      exact gate.of_silent (by simp [curSource, cur]; rfl) rfl (.same rfl)
  | pend t a cur running idle =>
      exact gate.of_silent (by simp [curSource, cur]; rfl) rfl (.one rfl rfl)
  | splice t cur =>
      refine gate.of_silent ?_ rfl (.same rfl)
      simp only [curSource, setCur_curTask, cur, Option.map_some, Task.checkPending]
      split <;> rfl
  | begin t a rest cur none actions =>
      exact gate.of_silent (by simp [curSource, cur]; rfl) rfl (.one rfl rfl)
  | finish t a cur act => exact gate.of_silent (by simp [curSource, cur]; rfl) rfl (.one rfl rfl)
  | complete t cur empty => exact .of_none rfl
  | take src t rest cur queue source allowed fresh =>
      intro imsa
      have isImsa : src = .imsa := by
        simpa [curSource, takeTask, source] using imsa
      refine (allowed isImsa).imp (fun inited => ?_) (fun revoked => ?_)
      · simpa [takeTask] using inited
      · exact revoked.mono (.one (by simp [takeTask]; rfl) rfl)
  | merge t task rest cur queue fresh =>
      exact gate.of_silent (by simp [curSource, cur]; rfl) (by simp) (.same (by simp))

theorem gate_arrive {m : TaskManager} (gate : Gate m) (t : Task) : Gate (m.arrive t) := by
  refine gate.of_silent ?_ ?_ ⟨_, arrive_trace m t, ?_⟩
  · simp [curSource, TaskManager.arrive, marks]
  · simp [TaskManager.arrive, marks]
  · intro e member
    simp only [List.mem_reverse, List.mem_cons, List.mem_map] at member
    rcases member with rfl | ⟨a, -, rfl⟩ <;> rfl

theorem gate_drop {m n : TaskManager} (drop : Drop m n) : Gate n := by
  cases drop with
  | preempt t cur other waiting => exact .of_none rfl
  | reset => exact .of_none rfl

/-- What a loop over one queue leaves. -/
structure StartStage (src : SourceType) (m m' : TaskManager) : Prop where
  base : Base m'
  moves : Moves m m'
  other : ∀ other, other ≠ src → m'.queue other = m.queue other
  emptied : m'.curTask = none → m'.queue src = []
  source : m.curTask = none → ∀ t, m'.curTask = some t → t.getSourceType = src
  single : m.curTask = none → (m.queue src).length ≤ 1 → m'.queue src = []
  idle : m.curTask.isSome → m' = m

/-- Taking one task and executing it. -/
theorem takeTask_spec {m : TaskManager} {src : SourceType} {t : Task} {rest : List Task}
    (base : Base m) (none : m.curTask = none) (queue : m.queue src = t :: rest)
    (gate : src = .imsa → m.inited = true ∨ m.Revoked) :
    let m' := (m.takeTask src t rest).executeCurrentTask
    Base m' ∧ Moves m m' ∧ (∀ other, m'.queue other = (m.setQueue src rest).queue other) ∧
      (∀ u, m'.curTask = some u → u.getSourceType = src) ∧
      (src = .imsa → m'.inited = true ∨ m'.Revoked) := by
  intro m'
  obtain ⟨fresh, source⟩ := base.fresh src t (by rw [queue]; exact List.mem_cons_self)
  have takes := Move.take m src t rest none queue source gate fresh
  have taken : (m.takeTask src t rest).curTask = some t := rfl
  obtain ⟨t', cur', ended, moves⟩ := execute_spec taken fresh
  have toRan : Moves m (m.takeTask src t rest).execute.1 := .head takes moves
  have queues : ∀ other, m'.queue other = (m.setQueue src rest).queue other := by
    intro other
    apply (queue_congr (executeCurrentTask_queues _) other).trans
    simp [takeTask]
  have sameType : t'.getSourceType = src := ended.source.trans source
  have gateRan : src = .imsa →
      (m.takeTask src t rest).execute.1.inited = true ∨ (m.takeTask src t rest).execute.1.Revoked := by
    intro imsa
    apply Lib.steps_keep (P := Gate) (fun _ _ => gate_move) toRan (.of_none none)
    rw [curSource, cur', Option.map_some, sameType, imsa]
  have rest' : Base (m.setQueue src rest) := base.setQueue fun u member => by
    rw [queue]
    exact List.mem_cons_of_mem _ member
  have baseOf : ∀ n : TaskManager, (∀ other, n.queue other = (m.setQueue src rest).queue other) →
      (∀ u, n.curTask = some u → u.Waiting) → Base n := fun n same cur =>
    ⟨cur, fun other u member => rest'.fresh other u (by rwa [same other] at member)⟩
  have shape : m' = if (m.takeTask src t rest).execute.2 = .completed then
      ((m.takeTask src t rest).execute.1.setCur Option.none).mark .processAsync
      else if (m.takeTask src t rest).execute.2 = .paused then (m.takeTask src t rest).execute.1
      else (m.takeTask src t rest).execute.1.setCur Option.none := by
    simp only [m', executeCurrentTask, taken]
  rcases ended.cases with ⟨completed, done⟩ | ⟨paused, waiting, -⟩
  · rw [if_pos completed] at shape
    refine ⟨baseOf m' queues (by simp [shape]), ?_, queues, by simp [shape], fun imsa => ?_⟩
    · rw [shape]
      exact (toRan.tail (.complete _ t' cur' done.empty)).tail (.processAsync _)
    · rw [shape]
      exact (gateRan imsa).imp_right (TaskManager.Revoked.mono (.one rfl rfl))
  · rw [if_neg (by rw [paused]; decide), if_pos paused] at shape
    have only : ∀ u, m'.curTask = some u → u = t' := by
      intro u same
      rw [shape, cur'] at same
      exact (Option.some.inj same).symm
    exact ⟨baseOf m' queues fun u same => only u same ▸ waiting, shape ▸ toRan, queues,
      fun u same => only u same ▸ sameType, fun imsa => shape ▸ gateRan imsa⟩

theorem startTasks_spec (src : SourceType) {m : TaskManager} (base : Base m)
    (gate : src = .imsa → m.inited = true ∨ m.Revoked) : StartStage src m (startTasks src m) := by
  revert base gate
  fun_induction startTasks src m with
  | case1 m t cur =>
      intro base gate
      exact ⟨base, .refl, fun _ _ => rfl, by simp [cur], by simp [cur], by simp [cur], fun _ => rfl⟩
  | case2 m nil none =>
      intro base gate
      exact ⟨base, .refl, fun _ _ => rfl, fun _ => nil, by simp [none], fun _ _ => nil, by simp [none]⟩
  | case3 m t rest queue none ih =>
      intro base gate
      obtain ⟨base', moves, queues, source, gate'⟩ := takeTask_spec base none queue gate
      obtain ⟨base'', moves', other, emptied, source', single, idle⟩ := ih base' gate'
      refine ⟨base'', moves.trans moves', fun o ne => ?_, emptied, fun _ u cur => ?_, fun _ len => ?_,
        by simp [none]⟩
      · rw [other o ne, queues, setQueue_queue_ne m ne]
      · by_cases stopped : (m.takeTask src t rest).executeCurrentTask.curTask = Option.none
        · exact source' stopped u cur
        · rw [idle (Option.isSome_iff_ne_none.2 stopped)] at cur
          exact source u cur
      · have nil : rest = [] := by
          rw [queue] at len
          exact List.length_eq_zero_iff.1 (by simpa using len)
        have empty : (m.takeTask src t rest).executeCurrentTask.queue src = [] := by
          rw [queues, setQueue_queue, nil]
        by_cases stopped : (m.takeTask src t rest).executeCurrentTask.curTask = Option.none
        · exact single stopped (by simp [empty])
        · rw [idle (Option.isSome_iff_ne_none.2 stopped)]
          exact empty

/-! ## The other stages -/

/-- AMS tasks are left queued only behind a current AMS task. -/
def AmsBehind (m : TaskManager) : Prop :=
  m.amsTasks ≠ [] → m.curSource = some .ams

theorem ams_gate {m : TaskManager} : SourceType.ams = .imsa → m.inited = true ∨ m.Revoked :=
  fun impossible => absurd impossible (by decide)

theorem ima_gate {m : TaskManager} : SourceType.ima = .imsa → m.inited = true ∨ m.Revoked :=
  fun impossible => absurd impossible (by decide)

/-- The loop over the AMS queue leaves it empty or an AMS task current. -/
theorem StartStage.amsBehind {m m' : TaskManager} (stage : StartStage .ams m m')
    (none : m.curTask = none) : AmsBehind m' := by
  intro left
  cases cur : m'.curTask with
  | none => exact absurd (stage.emptied cur) left
  | some t => rw [curSource, cur, Option.map_some, stage.source none t cur]

/-- An AMS task that waits behind a current task of another source pre-empts it. -/
def Preempts (m : TaskManager) : Prop :=
  m.amsTasks ≠ [] ∧ ∃ t, m.curTask = some t ∧ t.getSourceType ≠ .ams

/-- What the AMS stage leaves. -/
structure AmsStage (m m' : TaskManager) : Prop where
  base : Base m'
  changes : Changes m m'
  moves : ¬ Preempts m → Moves m m'
  behind : AmsBehind m'
  other : ∀ src, src ≠ .ams → m'.queue src = m.queue src

theorem processNextAmsTask_spec {m : TaskManager} (base : Base m) :
    AmsStage m m.processNextAmsTask := by
  unfold processNextAmsTask
  split
  · rename_i nil
    exact ⟨base, .refl, fun _ => .refl, fun left => absurd nil left, fun _ _ => rfl⟩
  · rename_i waiting
    split
    · rename_i none
      have stage := startTasks_spec .ams base ams_gate
      exact ⟨stage.base, changes_of_moves stage.moves,
        fun _ => stage.moves, stage.amsBehind none, stage.other⟩
    · rename_i t cur
      split
      · rename_i ams
        exact ⟨base, .refl, fun _ => .refl,
          fun _ => by rw [curSource, cur, Option.map_some, ams], fun _ _ => rfl⟩
      · rename_i other
        have drops := Drop.preempt m t cur other waiting
        have dropped : Base m.dropCur :=
          ⟨by simp [dropCur], fun src u member => base.fresh src u (by cases src <;> exact member)⟩
        have stage := startTasks_spec .ams dropped ams_gate
        refine ⟨stage.base, .head (.inr drops) (changes_of_moves stage.moves),
          fun calm => absurd ⟨waiting, t, cur, other⟩ calm, stage.amsBehind rfl, fun src ne => ?_⟩
        rw [stage.other src ne]
        cases src <;> rfl

theorem foldl_pendTask_source (tasks : List Task) (t : Task) :
    (tasks.foldl Task.pendTask t).getSourceType = t.getSourceType := by
  induction tasks generalizing t with
  | nil => rfl
  | cons task tasks ih => exact ih (t.pendTask task)

/-- One round of handing over: the first IMA task is merged into the paused current task. -/
theorem hand_round {m : TaskManager} {t task : Task} {rest : List Task} (base : Base m)
    (cur : m.curTask = some t) (queue : m.imaTasks = task :: rest) :
    (m.setQueue .ima rest).onTask task =
        ((m.setQueue .ima rest).setCur (some (t.pendTask task)), .paused) ∧
      Base ((m.setQueue .ima rest).setCur (some (t.pendTask task))) ∧
      Move m ((m.setQueue .ima rest).setCur (some (t.pendTask task))) := by
  obtain ⟨fresh, ima⟩ := base.fresh .ima task (by simp [TaskManager.queue, queue])
  have waiting := base.cur t cur
  have rested : Base (m.setQueue .ima rest) := base.setQueue fun u member => by
    simp only [TaskManager.queue, queue]
    exact List.mem_cons_of_mem _ member
  refine ⟨?_, ⟨fun u same => ?_, fun src u member => rested.fresh src u (by simpa using member)⟩,
    .merge m t task rest cur queue fresh⟩
  · simp only [onTask, setQueue_curTask, cur, ima, waiting.state]
  · rw [setCur_curTask] at same
    cases same
    refine ⟨waiting.state, waiting.wait, fun a member => ?_⟩
    simp only [Task.queued, Task.pendTask, List.mem_append] at member
    rcases member with (member | member) | member
    · exact waiting.idle a (List.mem_append_right _ member)
    · exact fresh.actions a member
    · exact waiting.idle a (List.mem_append_left _ member)

/-- Handing IMA tasks to the paused current task merges them all and leaves it paused. -/
theorem handImaTasks_spec {m : TaskManager} {t : Task} (base : Base m) (cur : m.curTask = some t) :
    Base m.handImaTasks ∧ Moves m m.handImaTasks ∧
      m.handImaTasks = (m.setQueue .ima []).setCur (some (m.imaTasks.foldl Task.pendTask t)) := by
  revert t base
  fun_induction handImaTasks m with
  | case1 m nil =>
      intro t base cur
      refine ⟨base, .refl, ?_⟩
      rw [nil, List.foldl_nil, ← cur, setQueue, ← nil]
      rfl
  | case2 m task rest queue ran =>
      rename_i completed
      intro t base cur
      obtain ⟨merged, -⟩ := hand_round base cur queue
      have paused : ran.2 = .paused := congrArg Prod.snd merged
      exact absurd (completed.symm.trans paused) (by decide)
  | case3 m task rest queue ran notCompleted =>
      rename_i ih
      intro t base cur
      obtain ⟨merged, base', move⟩ := hand_round base cur queue
      have shape : ran.1 = (m.setQueue .ima rest).setCur (some (t.pendTask task)) :=
        congrArg Prod.fst merged
      rw [← shape] at base' move
      obtain ⟨base'', moves, same⟩ := ih base' (by rw [shape]; rfl)
      refine ⟨base'', .head move moves, ?_⟩
      rw [same, shape, queue, List.foldl_cons]
      rfl

theorem processNextImaTask_spec {m : TaskManager} (base : Base m) (behind : AmsBehind m)
    (single : m.imaTasks.length ≤ 1) :
    Base m.processNextImaTask ∧ Moves m m.processNextImaTask ∧ AmsBehind m.processNextImaTask ∧
      m.processNextImaTask.imaTasks = [] ∧ m.processNextImaTask.imsaTasks = m.imsaTasks := by
  unfold processNextImaTask
  split
  · rename_i nil
    exact ⟨base, .refl, behind, nil, rfl⟩
  · split
    · rename_i none
      have stage := startTasks_spec .ima base ima_gate
      have noAms : m.amsTasks = [] := by
        by_contra left
        have source := behind left
        simp [curSource, none] at source
      refine ⟨stage.base, stage.moves, fun left => absurd ?_ left, stage.single none single,
        stage.other .imsa (by decide)⟩
      exact (stage.other .ams (by decide)).trans noAms
    · rename_i t cur
      obtain ⟨base', moves, merged⟩ := handImaTasks_spec base cur
      have current : m.handImaTasks.curTask.isSome := by rw [merged]; rfl
      rw [(startTasks_spec .ima base' ima_gate).idle current]
      refine ⟨base', moves, fun left => ?_, by rw [merged]; rfl, by rw [merged]; rfl⟩
      have ams : t.getSourceType = .ams := by
        rw [merged] at left
        have source := behind left
        rw [curSource, cur, Option.map_some] at source
        exact Option.some.inj source
      rw [merged, curSource, setCur_curTask, Option.map_some, foldl_pendTask_source, ams]

theorem processNextImsaTask_spec {m : TaskManager} (base : Base m) (behind : AmsBehind m) :
    Base m.processNextImsaTask ∧ Moves m m.processNextImsaTask ∧ AmsBehind m.processNextImsaTask ∧
      m.processNextImsaTask.imaTasks = m.imaTasks ∧
      (m.processNextImsaTask.inited = true → m.processNextImsaTask.curTask = none →
        m.processNextImsaTask.imsaTasks = []) := by
  unfold processNextImsaTask
  split
  · rename_i notInited
    exact ⟨base, .refl, behind, rfl, fun inited => absurd (inited.symm.trans notInited) (by decide)⟩
  · rename_i inited
    split
    · rename_i busy
      refine ⟨base, .refl, behind, rfl, fun _ none => busy.resolve_left ?_⟩
      simp [none]
    · rename_i free
      obtain ⟨none, -⟩ := not_or.1 free
      have isNone : m.curTask = Option.none := by simpa using none
      have stage := startTasks_spec .imsa base fun _ => .inl (by simpa using inited)
      have noAms : m.amsTasks = [] := by
        by_contra left
        have source := behind left
        simp [curSource, isNone] at source
      exact ⟨stage.base, stage.moves,
        fun left => absurd ((stage.other .ams (by decide)).trans noAms) left,
        stage.other .ima (by decide), fun _ cur => stage.emptied cur⟩

/-! ## Events -/

/-- What holds between events. -/
structure Inv (m : TaskManager) : Prop where
  base : Base m
  ima : m.imaTasks = []
  ams : AmsBehind m

theorem inv_init : Inv {} :=
  ⟨⟨by simp, fun src t member => by cases src <;> simp [TaskManager.queue] at member⟩, rfl,
    fun left => absurd rfl left⟩

/-- What `Process` leaves, from any stage boundary with at most one IMA task queued. -/
structure Processed (m m' : TaskManager) : Prop where
  inv : Inv m'
  inner : InnerStage m m.processNextInnerTask
  rest : Changes m.processNextInnerTask m'
  moves : ¬ Preempts m → Moves m m'
  imsa : m'.inited = true → m'.curTask = none → m'.imsaTasks = []

/-- The inner stage keeps the current task or ends it. -/
theorem InnerStage.preempts {m m' : TaskManager} (stage : InnerStage m m') (preempts : Preempts m') :
    Preempts m := by
  obtain ⟨left, t, cur, other⟩ := preempts
  have source := stage.source (by rw [cur]; rfl)
  rw [curSource, cur, Option.map_some] at source
  obtain ⟨t₀, cur₀, same⟩ := Option.map_eq_some_iff.1 source.symm
  refine ⟨?_, t₀, cur₀, same ▸ other⟩
  rw [← show m'.amsTasks = m.amsTasks from stage.other .ams (by decide)]
  exact left

theorem process_spec {m : TaskManager} (base : Base m) (single : m.imaTasks.length ≤ 1) :
    Processed m m.process := by
  have inner := processNextInnerTask_spec base
  have ams := processNextAmsTask_spec inner.base
  have ima : m.processNextInnerTask.processNextAmsTask.imaTasks = m.imaTasks :=
    (ams.other .ima (by decide)).trans (inner.other .ima (by decide))
  obtain ⟨base₃, moves₃, behind₃, nil₃, -⟩ :=
    processNextImaTask_spec ams.base ams.behind (by rw [ima]; exact single)
  obtain ⟨base₄, moves₄, behind₄, ima₄, imsa₄⟩ := processNextImsaTask_spec base₃ behind₃
  have last := moves₃.trans moves₄
  exact ⟨⟨base₄, ima₄.trans nil₃, behind₄⟩, inner, ams.changes.trans (changes_of_moves last),
    fun calm => (inner.moves.trans (ams.moves fun p => calm (inner.preempts p))).trans last, imsa₄⟩

theorem Processed.changes {m m' : TaskManager} (done : Processed m m') : Changes m m' :=
  (changes_of_moves done.inner.moves).trans done.rest

theorem arrive_base {m : TaskManager} (base : Base m) (t : NewTask) : Base (m.arrive t.task) := by
  refine ⟨by simpa [arrive, marks] using base.cur, fun src u member => ?_⟩
  have queued : u ∈ (m.setQueue t.task.getSourceType (m.queue t.task.getSourceType ++ [t.task])).queue
      src := by cases src <;> exact member
  by_cases same : src = t.task.getSourceType
  · subst same
    rw [setQueue_queue] at queued
    rcases List.mem_append.1 queued with old | new
    · exact base.fresh _ u old
    · rw [List.mem_singleton.1 new]
      exact ⟨t.fresh, rfl⟩
  · rw [setQueue_queue_ne m same] at queued
    exact base.fresh src u queued

theorem arrive_ima_single {m : TaskManager} (nil : m.imaTasks = []) (t : Task) :
    (m.arrive t).imaTasks.length ≤ 1 := by
  cases src : t.getSourceType <;> simp [arrive, marks, setQueue, queue, src, nil]

/-- An event that discards something: `Reset`, or an AMS task that arrives while a task of
another source is current. -/
def Event.Discards (m : TaskManager) : Event → Prop
  | .newTask t =>
      t.task.getSourceType = .ams ∧ ∃ cur, m.curTask = some cur ∧ cur.getSourceType ≠ .ams
  | .reset => True
  | _ => False

theorem Inv.not_preempts {m : TaskManager} (inv : Inv m) : ¬ Preempts m := by
  rintro ⟨left, t, cur, other⟩
  have source := inv.ams left
  rw [curSource, cur, Option.map_some] at source
  exact other (Option.some.inj source)

theorem arrive_preempts {m : TaskManager} (inv : Inv m) {t : NewTask}
    (preempts : Preempts (m.arrive t.task)) : Event.Discards m (.newTask t) := by
  obtain ⟨left, cur, same, other⟩ := preempts
  have current : m.curTask = some cur := by simpa [arrive, marks] using same
  refine ⟨?_, cur, current, other⟩
  by_contra notAms
  refine inv.not_preempts ⟨?_, cur, current, other⟩
  intro nil
  have queue := setQueue_queue_ne m (Ne.symm notAms)
    (m.queue t.task.getSourceType ++ [t.task])
  exact left (queue.trans nil)

/-- The manager as an event finds it: with the new task queued, when there is one. -/
def Event.enter (m : TaskManager) : Event → TaskManager
  | .newTask t => m.arrive t.task
  | _ => m

/-- **Every event keeps the invariant and is a chain of moves and discards**, and of
moves alone when it is none of the discarding ones. -/
theorem step_inv {m : TaskManager} (inv : Inv m) (ev : Event) :
    Inv (m.step ev) ∧ Changes (ev.enter m) (m.step ev) ∧
      (¬ ev.Discards m → Moves (ev.enter m) (m.step ev)) := by
  cases ev with
  | newTask t =>
      have done := process_spec (arrive_base inv.base t) (arrive_ima_single inv.ima t.task)
      exact ⟨done.inv, done.changes, fun calm => done.moves fun p => calm (arrive_preempts inv p)⟩
  | process =>
      have done := process_spec inv.base (by simp [inv.ima])
      exact ⟨done.inv, done.changes, fun _ => done.moves inv.not_preempts⟩
  | setInited flag =>
      have moves : Moves m (m.step (.setInited flag)) := .single (.setInited m flag)
      refine ⟨⟨⟨inv.base.cur, fun src u member => ?_⟩, inv.ima, inv.ams⟩, changes_of_moves moves,
        fun _ => moves⟩
      exact inv.base.fresh src u (by cases src <;> exact member)
  | reset =>
      refine ⟨⟨⟨by simp [step, reset], fun src u member => ?_⟩, rfl, fun left => absurd rfl left⟩,
        .single (.inr (.reset m)), fun calm => absurd trivial calm⟩
      cases src <;> simp [step, reset, TaskManager.queue] at member

theorem Event.enter_history (m : TaskManager) (ev : Event) : History m (ev.enter m) := by
  cases ev with
  | newTask t => exact .single (.inr ⟨t, rfl⟩)
  | process => exact .refl
  | setInited flag => exact .refl
  | reset => exact .refl

theorem run_inv (es : List Event) : Inv (Lib.run step {} es) :=
  Lib.run_always (P := Inv) (fun _ ev inv => (step_inv inv ev).1) inv_init es

/-- Every run is one history from the initial manager. -/
theorem run_history (es : List Event) : History {} (Lib.run step {} es) := by
  have both : Inv (Lib.run step {} es) ∧ History {} (Lib.run step {} es) :=
    Lib.run_always (P := fun m => Inv m ∧ History {} m)
      (fun m ev holds => ⟨(step_inv holds.1 ev).1, (holds.2.trans (ev.enter_history m)).trans
        (history_of_changes (step_inv holds.1 ev).2.1)⟩) ⟨inv_init, .refl⟩ es
  exact both.2

/-- What every move, discard and arrival keeps holds throughout every history. -/
theorem history_keeps {P : TaskManager → Prop} (moves : ∀ m n, Move m n → P m → P n)
    (drops : ∀ m n, Drop m n → P m → P n) (arrives : ∀ m (t : NewTask), P m → P (m.arrive t.task))
    {m n : TaskManager} (history : History m n) (start : P m) : P n := by
  refine Lib.steps_keep (fun m n change holds => ?_) history start
  rcases change with (move | drop) | ⟨t, rfl⟩
  · exact moves m n move holds
  · exact drops m n drop holds
  · exact arrives m t holds

end Imf.Ability
