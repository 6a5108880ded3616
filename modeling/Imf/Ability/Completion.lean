/-
# Imf.Ability.Completion -- when a completion reaches its wait

A `TaskResume` is popped from `innerTasks_` and handed to whichever wait is current;
one that does not match is gone.  A completion that overtakes an earlier wait of the
same task is therefore lost, and its own wait, when it is begun, runs into its
timeout (`overtaking_completion_lost`).  `completions_not_lost` is the converse over whole
runs: when every completion is delivered while its wait is not queued behind another
one, no state is ever paused on a wait whose completion was delivered.
-/
import Imf.Ability.Trace

namespace Imf.Ability

set_option autoImplicit false

open TaskManager

/-- The wait the manager is paused on, by its completion id. -/
def TaskManager.waitingFor? (m : TaskManager) : Option Nat :=
  (m.curTask.bind Task.curAction).bind Action.completeId?

/-- The actions that are held and have not begun. -/
def TaskManager.queuedActions (m : TaskManager) : List Action :=
  (m.curTask.map Task.queued).getD [] ++
    (m.amsTasks ++ m.imaTasks ++ m.imsaTasks ++ m.innerTasks).flatMap Task.queued

/-- A completion was delivered. -/
def Delivered (id : Nat) (trace : List Mark) : Prop := .arrive .inner id ∈ trace

instance (id : Nat) (trace : List Mark) : Decidable (Delivered id trace) :=
  inferInstanceAs (Decidable (_ ∈ _))

/-- The later mark does not accept a wait whose completion the earlier one delivers. -/
def Mark.follows (later earlier : Mark) : Bool :=
  match later, earlier with
  | .accept _ (some id), .arrive .inner id' => id != id'
  | _, _ => true

/-- Every completion is delivered after the call that names its wait. -/
def Ordered (trace : List Mark) : Prop :=
  trace.Pairwise fun later earlier => later.follows earlier = true

instance (trace : List Mark) : Decidable (Ordered trace) :=
  inferInstanceAs (Decidable (List.Pairwise _ _))

/-- A completion is delivered while its wait is not queued. -/
def Event.InTurn (m : TaskManager) : Event → Prop
  | .newTask t => t.task.getSourceType = .inner →
      ∀ a ∈ m.queuedActions, a.completeId? ≠ some t.task.seqId
  | _ => True

/-- No held wait is one whose completion was delivered. -/
structure Clear (m : TaskManager) : Prop where
  queued : ∀ a ∈ m.queuedActions, ∀ id, a.completeId? = some id → ¬ Delivered id m.trace
  current : ∀ id, m.waitingFor? = some id → ¬ Delivered id m.trace

/-- The same, but the completion of the current wait may still be in `innerTasks_`. -/
structure Nearly (m : TaskManager) : Prop where
  queued : ∀ a ∈ m.queuedActions, ∀ id, a.completeId? = some id → ¬ Delivered id m.trace
  current : ∀ id, m.waitingFor? = some id → Delivered id m.trace →
    ∃ task ∈ m.innerTasks, task.seqId = id

theorem Clear.nearly {m : TaskManager} (clear : Clear m) : Nearly m :=
  ⟨clear.queued, fun id waits delivered => absurd delivered (clear.current id waits)⟩

/-! ## What a change does to the waits -/

theorem Ordered.of_suffix {trace trace' : List Mark} (ordered : Ordered trace')
    (suffix : trace <:+ trace') : Ordered trace :=
  List.Pairwise.sublist suffix.sublist ordered

/-- Marks that are not arrivals deliver nothing. -/
theorem delivered_append (new : List Mark) {trace : List Mark} {id : Nat}
    (other : ∀ e ∈ new, e ≠ .arrive .inner id) (delivered : Delivered id (new ++ trace)) :
    Delivered id trace := by
  rcases List.mem_append.1 delivered with member | member
  · exact absurd rfl (other _ member)
  · exact member

/-- A change that delivers nothing and begins or queues nothing new. -/
theorem Clear.of_sub {m n : TaskManager} (clear : Clear m)
    (delivered : ∀ id, Delivered id n.trace → Delivered id m.trace)
    (queued : ∀ a ∈ n.queuedActions, a ∈ m.queuedActions)
    (waits : ∀ id, n.waitingFor? = some id → m.waitingFor? = some id) : Clear n :=
  ⟨fun a member id named late => clear.queued a (queued a member) id named (delivered id late),
    fun id waiting late => clear.current id (waits id waiting) (delivered id late)⟩

theorem Clear.mark {m : TaskManager} (clear : Clear m) {e : Mark}
    (other : ∀ id, e ≠ .arrive .inner id) :
    Clear (m.mark e) :=
  clear.of_sub (fun id => delivered_append [e] (by simpa using other id)) (fun _ h => h)
    (fun _ h => h)

theorem mem_queuedActions_cur {m : TaskManager} {t : Task} (cur : m.curTask = some t) {a : Action}
    (member : a ∈ t.queued) : a ∈ m.queuedActions := by
  simp only [queuedActions, cur, Option.map_some, Option.getD_some]
  exact List.mem_append_left _ member

theorem mem_queuedActions_queue {m : TaskManager} (src : SourceType) {t : Task}
    (queue : t ∈ m.queue src) {a : Action} (member : a ∈ t.queued) : a ∈ m.queuedActions := by
  refine List.mem_append_right _ (List.mem_flatMap.2 ⟨t, ?_, member⟩)
  cases src <;> simp only [TaskManager.queue] at queue <;> simp [queue]

/-- What is queued, by the task that holds it. -/
theorem mem_queuedActions {m : TaskManager} {a : Action} (member : a ∈ m.queuedActions) :
    (∃ t, m.curTask = some t ∧ a ∈ t.queued) ∨ ∃ src, ∃ t ∈ m.queue src, a ∈ t.queued := by
  rcases List.mem_append.1 member with member | member
  · cases cur : m.curTask with
    | none => simp [cur] at member
    | some t => exact .inl ⟨t, rfl, by simpa [cur] using member⟩
  · obtain ⟨t, queue, member⟩ := List.mem_flatMap.1 member
    simp only [List.mem_append, or_assoc] at queue
    rcases queue with queue | queue | queue | queue
    · exact .inr ⟨.ams, t, queue, member⟩
    · exact .inr ⟨.ima, t, queue, member⟩
    · exact .inr ⟨.imsa, t, queue, member⟩
    · exact .inr ⟨.inner, t, queue, member⟩

theorem queuedActions_setCur {m : TaskManager} {t : Option Task} {a : Action}
    (member : a ∈ (m.setCur t).queuedActions) :
    (∃ u, t = some u ∧ a ∈ u.queued) ∨ a ∈ m.queuedActions := by
  rcases mem_queuedActions member with ⟨u, current, queued⟩ | ⟨src, u, queue, queued⟩
  · exact .inl ⟨u, current, queued⟩
  · exact .inr (mem_queuedActions_queue _ (by simpa using queue) queued)

/-- Dropping tasks of one queue. -/
theorem Clear.setQueue {m : TaskManager} (clear : Clear m) (src : SourceType) (ts : List Task)
    (sub : ts.Sublist (m.queue src)) : Clear (m.setQueue src ts) := by
  refine clear.of_sub (fun id late => by simpa using late) (fun a member => ?_)
    (fun id waits => by simpa [waitingFor?] using waits)
  rcases mem_queuedActions member with ⟨t, cur, queued⟩ | ⟨other, t, queue, queued⟩
  · exact mem_queuedActions_cur (by simpa using cur) queued
  · exact mem_queuedActions_queue _ ((setQueue_sublist sub other).subset queue) queued

/-- Replacing the current task by one that queues no other actions and waits for the same. -/
theorem Clear.setCur {m : TaskManager} {t t' : Task} (clear : Clear m) (cur : m.curTask = some t)
    (queued : ∀ a ∈ t'.queued, a ∈ t.queued)
    (waits : ∀ id, t'.curAction.bind Action.completeId? = some id →
      t.curAction.bind Action.completeId? = some id) : Clear (m.setCur (some t')) := by
  refine clear.of_sub (fun _ late => late) (fun a member => ?_) (fun id waiting => ?_)
  · rcases queuedActions_setCur member with ⟨u, same, member⟩ | member
    · cases same
      exact mem_queuedActions_cur cur (queued a member)
    · exact member
  · simpa [waitingFor?, cur] using waits id waiting

theorem clear_pend {m : TaskManager} {t : Task} (clear : Clear m) (cur : m.curTask = some t)
    (a : Action) (ordered : Ordered (.accept a.oid a.completeId? :: m.trace)) :
    Clear ((m.setCur (some (t.pendAction a))).mark (.accept a.oid a.completeId?)) := by
  refine Clear.mark ⟨fun b member id named late => ?_, fun id waits => ?_⟩ (by simp)
  · rcases queuedActions_setCur member with ⟨u, same, queued⟩ | member
    · cases same
      simp only [Task.queued, Task.pendAction, ← List.append_assoc] at queued
      rcases List.mem_append.1 queued with queued | new
      · exact clear.queued b (mem_queuedActions_cur cur queued) id named late
      · obtain rfl := List.mem_singleton.1 new
        have after := (List.pairwise_cons.1 ordered).1 _ late
        simp [named, Mark.follows] at after
    · exact clear.queued b member id named late
  · exact clear.current id (by simpa [waitingFor?, cur, Task.pendAction] using waits)

theorem clear_begin {m : TaskManager} {t : Task} {a : Action} {rest : List Action}
    (clear : Clear m) (cur : m.curTask = some t) (actions : t.actions = a :: rest) :
    Clear (m.setCur (some { t with curAction := some a, actions := rest })) := by
  have sub : ∀ b ∈ rest ++ t.pendingActions, b ∈ t.queued := by
    intro b member
    rw [Task.queued, actions]
    exact List.mem_cons_of_mem _ member
  constructor
  · intro b member id named
    rcases queuedActions_setCur member with ⟨u, same, queued⟩ | member
    · cases same
      exact clear.queued b (mem_queuedActions_cur cur (sub b queued)) id named
    · exact clear.queued b member id named
  · intro id waits
    refine clear.queued a (mem_queuedActions_cur cur ?_) id (by simpa [waitingFor?] using waits)
    rw [Task.queued, actions]
    exact List.mem_cons_self

/-- Moving queued tasks into the current one, which then waits for nothing new. -/
theorem Clear.setQueueCur {m : TaskManager} (clear : Clear m) {src : SourceType} {rest : List Task}
    (sub : rest.Sublist (m.queue src)) {t : Task} (queued : ∀ a ∈ t.queued, a ∈ m.queuedActions)
    (waits : ∀ id, t.curAction.bind Action.completeId? = some id → m.waitingFor? = some id) :
    Clear ((m.setQueue src rest).setCur (some t)) := by
  have rested := clear.setQueue src rest sub
  constructor
  · intro b member id named late
    rcases queuedActions_setCur member with ⟨u, same, member⟩ | member
    · cases same
      exact clear.queued b (queued b member) id named (by simpa using late)
    · exact rested.queued b member id named late
  · intro id waiting late
    exact clear.current id (waits id (by simpa [waitingFor?] using waiting)) (by simpa using late)

theorem clear_take {m : TaskManager} (clear : Clear m) {src : SourceType} {t : Task}
    {rest : List Task} (queue : m.queue src = t :: rest) (fresh : t.Fresh) :
    Clear (m.takeTask src t rest) := by
  have head : t ∈ m.queue src := by simp [queue]
  refine Clear.mark (clear.setQueueCur ?_ (fun a => mem_queuedActions_queue src head) ?_) (by simp)
  · rw [queue]
    exact List.sublist_cons_self _ _
  · simp [fresh.curAction]

theorem clear_merge {m : TaskManager} (clear : Clear m) {t task : Task} {rest : List Task}
    (cur : m.curTask = some t) (queue : m.imaTasks = task :: rest) :
    Clear ((m.setQueue .ima rest).setCur (some (t.pendTask task))) := by
  have head : task ∈ m.queue .ima := by simp [TaskManager.queue, queue]
  refine clear.setQueueCur ?_ (fun b queued => ?_) fun id waits => ?_
  · rw [TaskManager.queue, queue]
    exact List.sublist_cons_self _ _
  · simp only [Task.queued, Task.pendTask, List.mem_append] at queued
    rcases queued with (queued | queued) | queued
    · exact mem_queuedActions_cur cur (List.mem_append_right _ queued)
    · exact mem_queuedActions_queue .ima head (List.mem_append_left _ queued)
    · exact mem_queuedActions_cur cur (List.mem_append_left _ queued)
  · simpa [waitingFor?, cur, Task.pendTask] using waits

theorem clear_splice {m : TaskManager} (clear : Clear m) {t : Task} (cur : m.curTask = some t) :
    Clear (m.setCur (some t.checkPending)) := by
  refine clear.setCur cur (fun a member => ?_) ?_
  · unfold Task.checkPending at member
    split at member
    · exact member
    · simp only [Task.queued, List.append_nil] at member
      exact List.mem_append.2 (List.mem_append.1 member).symm
  · unfold Task.checkPending
    split <;> exact fun _ h => h

/-- **Every move keeps the waits clear**, when no wait is accepted after its completion. -/
theorem clear_move {m n : TaskManager} (move : Move m n) (ordered : Ordered n.trace)
    (clear : Clear m) : Clear n := by
  cases move with
  | setInited flag =>
      exact Clear.mark (m := { m with inited := flag }) ⟨clear.queued, clear.current⟩ (by simp)
  | draw => exact ⟨clear.queued, clear.current⟩
  | postTask seqId delayMs => exact clear.mark (by simp)
  | processAsync => exact clear.mark (by simp)
  | popInner task rest queue empty =>
      apply clear.setQueue .inner rest
      rw [TaskManager.queue, queue]
      exact List.sublist_cons_self _ _
  | clearInner empty => exact clear.setQueue .inner [] (List.nil_sublist _)
  | setState t s cur => exact clear.setCur cur (fun _ h => h) (fun _ h => h)
  | setActionState t a s cur act =>
      refine clear.setCur cur (fun _ h => h) fun id waits => ?_
      rw [act]
      exact waits
  | pend t a cur running idle => exact clear_pend clear cur a ordered
  | splice t cur => exact clear_splice clear cur
  | begin t a rest cur none actions => exact (clear_begin clear cur actions).mark (by simp)
  | finish t a cur act =>
      have reset : Clear (m.setCur (some t.resetCurAction)) :=
        clear.setCur cur (fun _ h => h) (by simp [Task.resetCurAction])
      exact reset.mark (by simp)
  | complete t cur empty =>
      refine clear.of_sub (fun _ late => late) (fun b member => ?_) (by simp [waitingFor?])
      rcases queuedActions_setCur member with ⟨u, same, -⟩ | member
      · cases same
      · exact member
  | take src t rest cur queue source allowed fresh => exact clear_take clear queue fresh
  | merge t task rest cur queue fresh => exact clear_merge clear cur queue

theorem clear_drop {m n : TaskManager} (drop : Drop m n) (clear : Clear m) : Clear n := by
  have same : ∀ id, Delivered id n.trace → Delivered id m.trace := by
    intro id late
    obtain ⟨oids, trace⟩ := drop_trace drop
    rw [trace] at late
    refine delivered_append _ (fun e member => ?_) late
    simp only [List.mem_reverse, List.mem_map] at member
    obtain ⟨oid, -, rfl⟩ := member
    simp
  cases drop with
  | preempt t cur other waiting =>
      refine clear.of_sub same (fun a member => ?_) (by simp [waitingFor?, dropCur])
      rcases queuedActions_setCur member with ⟨u, same, -⟩ | member
      · cases same
      · exact member
  | reset => exact clear.of_sub same (by simp [queuedActions, reset]) (by simp [waitingFor?, reset])

/-- Moves and discards keep the waits clear. -/
theorem clear_changes {m n : TaskManager} (changes : Changes m n) (ordered : Ordered n.trace)
    (clear : Clear m) : Clear n := by
  refine Lib.steps_keep (P := fun k => Ordered k.trace → Clear k) (fun k l change holds late => ?_)
    changes (fun _ => clear) ordered
  rcases change with move | drop
  · exact clear_move move late (holds (late.of_suffix (move_suffix move)))
  · exact clear_drop drop (holds (late.of_suffix (drop_suffix drop)))

/-! ## The inner stage -/

/-- The wait that was resumed is gone, and nothing else was touched. -/
theorem Resumed.clear {m mid : TaskManager} {t : Task} {oid : Nat} (resumed : Resumed m t oid mid)
    (cur : m.curTask = some t)
    (clear : ∀ a ∈ m.queuedActions, ∀ id, a.completeId? = some id → ¬ Delivered id m.trace) :
    Clear mid := by
  obtain ⟨new, trace, only⟩ := resumed.trace
  refine ⟨fun a member id named late => ?_, by simp [waitingFor?, resumed.cur]⟩
  refine clear a ?_ id named ?_
  · rcases mem_queuedActions member with ⟨u, current, queued⟩ | ⟨src, u, queue, queued⟩
    · rw [resumed.cur] at current
      cases current
      exact mem_queuedActions_cur cur queued
    · exact mem_queuedActions_queue _ (by rwa [queue_congr resumed.queues] at queue) queued
  · rw [trace] at late
    refine delivered_append _ (fun e member => ?_) late
    rcases List.mem_cons.1 member with rfl | member
    · simp
    · obtain ⟨flag, during, rfl⟩ := only e member
      simp

theorem Action.resumedBy_completeId {a : Action} {id : Nat} (named : a.completeId? = some id) :
    a.resumedBy id := by
  unfold Action.completeId? at named
  unfold Action.resumedBy
  cases kind : a.kind with
  | plain func => simp [kind] at named
  | wait ms completeId timeoutId onComplete onTimeout =>
      simp only [kind, Option.some.injEq] at named
      exact .inl named.symm

/-- One round of the inner stage: the wait is resumed, and then everything is clear, or
the popped resume did not name it. -/
theorem inner_round_nearly {m : TaskManager} {t task : Task} {rest : List Task} (base : Base m)
    (cur : m.curTask = some t) (queue : m.innerTasks = task :: rest) (nearly : Nearly m)
    (ordered : Ordered ((m.setQueue .inner rest).onTask task).1.trace) :
    Nearly ((m.setQueue .inner rest).onTask task).1 := by
  obtain ⟨fresh, inner⟩ := base.fresh .inner task (by simp [TaskManager.queue, queue])
  have waiting := base.cur t cur
  obtain ⟨a, act, wait, -⟩ := waiting.wait
  let popped := m.setQueue .inner rest
  have shape : popped.onTask task = popped.resume task.seqId := by
    simp only [popped, onTask, setQueue_curTask, cur, inner]
  have curPopped : popped.curTask = some t := cur
  have sub : ∀ b ∈ popped.queuedActions, b ∈ m.queuedActions := by
    intro b member
    rcases mem_queuedActions member with ⟨u, current, queued⟩ | ⟨src, u, queue', queued⟩
    · exact mem_queuedActions_cur (m := m) current queued
    · refine mem_queuedActions_queue _ ((setQueue_sublist ?_ src).subset queue') queued
      rw [TaskManager.queue, queue]
      exact List.sublist_cons_self _ _
  by_cases hit : a.resumedBy task.seqId
  · -- the callback runs, then `ExecuteInner`: a chain of moves from a clear state
    obtain ⟨mid, ran, resumed⟩ := resume_hit curPopped waiting act hit
    obtain ⟨t', -, -, moves⟩ := executeInner_spec resumed.cur rfl waiting.idle
    have clearMid : Clear mid := resumed.clear curPopped fun b member => nearly.queued b (sub b member)
    rw [shape, ran] at ordered ⊢
    exact (clear_changes (changes_of_moves moves) ordered clearMid).nearly
  · rw [shape, resume_miss curPopped waiting act hit]
    refine ⟨fun b member => nearly.queued b (sub b member), fun id waits late => ?_⟩
    obtain ⟨other, member, same⟩ := nearly.current id waits late
    rw [queue] at member
    rcases List.mem_cons.1 member with rfl | member
    · refine absurd (Action.resumedBy_completeId ?_) hit
      have named : a.completeId? = some id := by simpa [waitingFor?, curPopped, act] using waits
      rw [same]
      exact named
    · exact ⟨other, member, same⟩

theorem processNextInnerTask_nearly {m : TaskManager} (base : Base m) (nearly : Nearly m)
    (ordered : Ordered m.processNextInnerTask.trace) : Nearly m.processNextInnerTask := by
  revert base nearly ordered
  fun_induction processNextInnerTask m with
  | case1 m none => exact fun _ nearly _ => nearly
  | case2 m t nil cur => exact fun _ nearly _ => nearly
  | case3 m t task rest queue cur ran completed =>
      intro base nearly ordered
      have round := inner_round_nearly base cur queue nearly ordered
      refine ⟨fun a member => round.queued a ?_, by simp [waitingFor?]⟩
      rcases mem_queuedActions member with ⟨u, current, -⟩ | ⟨src, u, queue', queued⟩
      · cases current
      · refine mem_queuedActions_queue src ?_ queued
        cases src <;> first | exact queue' | simp [TaskManager.queue] at queue'
  | case4 m t task rest queue cur ran notCompleted paused ih =>
      intro base nearly ordered
      obtain ⟨-, t', cur', -, -, waiting⟩ := inner_round_paused base cur queue notCompleted
      have base' : Base ran.1 := inner_round_base base queue cur' waiting
      have later := (processNextInnerTask_spec base').moves
      have round := inner_round_nearly base cur queue nearly
        (ordered.of_suffix (changes_suffix (changes_of_moves later)))
      exact ih base' round ordered
  | case5 m t task rest queue cur ran notCompleted notPaused =>
      intro base nearly ordered
      exact absurd (inner_round_paused base cur queue notCompleted).1 notPaused

/-- **`Process` delivers what is queued**: afterwards nothing held was delivered. -/
theorem process_clear {m : TaskManager} (base : Base m) (single : m.imaTasks.length ≤ 1)
    (nearly : Nearly m) (ordered : Ordered m.process.trace) : Clear m.process := by
  have done := process_spec base single
  have inner := processNextInnerTask_nearly base nearly
    (ordered.of_suffix (changes_suffix done.rest))
  refine clear_changes done.rest ordered ⟨inner.queued, fun id waits late => ?_⟩
  obtain ⟨task, member, -⟩ := inner.current id waits late
  have some : m.processNextInnerTask.curTask.isSome := by
    cases cur : m.processNextInnerTask.curTask with
    | none => simp [waitingFor?, cur] at waits
    | some t => rfl
  rw [done.inner.drained some] at member
  cases member

/-! ## Runs -/

/-- What an arrival delivers. -/
theorem delivered_arrive {m : TaskManager} {t : Task} {id : Nat}
    (delivered : Delivered id (m.arrive t).trace) :
    Delivered id m.trace ∨ t.getSourceType = .inner ∧ t.seqId = id := by
  rw [arrive_trace] at delivered
  rcases List.mem_append.1 delivered with new | old
  · simp only [List.mem_reverse, List.mem_cons, List.mem_map, Mark.arrive.injEq] at new
    rcases new with ⟨source, same⟩ | ⟨a, -, impossible⟩
    · exact .inr ⟨source.symm, same.symm⟩
    · cases impossible
  · exact .inl old

theorem queuedActions_arrive {m : TaskManager} {t : Task} {a : Action}
    (member : a ∈ (m.arrive t).queuedActions) : a ∈ m.queuedActions ∨ a ∈ t.queued := by
  rcases mem_queuedActions member with ⟨u, current, queued⟩ | ⟨src, u, queue, queued⟩
  · refine .inl (mem_queuedActions_cur ?_ queued)
    simpa [arrive, marks] using current
  · have queue' : u ∈ (m.setQueue t.getSourceType (m.queue t.getSourceType ++ [t])).queue src := by
      cases src <;> exact queue
    by_cases same : src = t.getSourceType
    · subst same
      rw [setQueue_queue] at queue'
      rcases List.mem_append.1 queue' with old | new
      · exact .inl (mem_queuedActions_queue _ old queued)
      · rw [List.mem_singleton.1 new] at queued
        exact .inr queued
    · rw [setQueue_queue_ne m same] at queue'
      exact .inl (mem_queuedActions_queue _ queue' queued)

theorem nearly_arrive {m : TaskManager} (clear : Clear m) (t : NewTask)
    (inTurn : Event.InTurn m (.newTask t)) (ordered : Ordered (m.arrive t.task).trace) :
    Nearly (m.arrive t.task) := by
  constructor
  · intro a member id named late
    rcases queuedActions_arrive member with old | new
    · rcases delivered_arrive late with late | ⟨inner, same⟩
      · exact clear.queued a old id named late
      · exact inTurn inner a old (by rw [same]; exact named)
    · -- a wait that came with the task: its own acceptance is later than the delivery
      rw [Task.queued, t.fresh.pendingActions, List.append_nil] at new
      rcases delivered_arrive late with late | ⟨inner, -⟩
      · rw [arrive_trace] at ordered
        have after := (List.pairwise_append.1 ordered).2.2 (.accept a.oid (some id))
          (by simp; exact ⟨a, new, rfl, named⟩) _ late
        simp [Mark.follows] at after
      · rw [t.fresh.inner inner] at new
        cases new
  · intro id waits late
    have waits' : m.waitingFor? = some id := by simpa [waitingFor?, arrive, marks] using waits
    rcases delivered_arrive late with late | ⟨inner, same⟩
    · exact absurd late (clear.current id waits')
    · refine ⟨t.task, ?_, same⟩
      simp [arrive, marks, inner, setQueue]

/-- **One event keeps the waits clear**, when the completion it delivers is in turn. -/
theorem step_clear {m : TaskManager} (inv : Inv m) (clear : Clear m) (ev : Event)
    (inTurn : ev.InTurn m) (ordered : Ordered (m.step ev).trace) : Clear (m.step ev) := by
  cases ev with
  | newTask t =>
      have base := arrive_base inv.base t
      have single := arrive_ima_single inv.ima t.task
      have earlier := ordered.of_suffix (changes_suffix (process_spec base single).changes)
      exact process_clear base single (nearly_arrive clear t inTurn earlier) ordered
  | process => exact process_clear inv.base (by simp [inv.ima]) clear.nearly ordered
  | setInited flag => exact clear_move (.setInited m flag) ordered clear
  | reset => exact clear_drop (.reset m) clear

/-- The trace of a run only grows. -/
theorem step_suffix {m : TaskManager} (inv : Inv m) (ev : Event) : m.trace <:+ (m.step ev).trace := by
  refine List.IsSuffix.trans ?_ (changes_suffix (step_inv inv ev).2.1)
  cases ev with
  | newTask t => exact ⟨_, (arrive_trace m t.task).symm⟩
  | process => exact List.suffix_refl _
  | setInited flag => exact List.suffix_refl _
  | reset => exact List.suffix_refl _

/-- **No completion is lost** in any run whose completions are all delivered in turn: no
state is paused on a wait whose completion was delivered. -/
theorem completions_not_lost (es : List Event) (ordered : Ordered (Lib.run step {} es).trace)
    (inTurn : Lib.Meets step (fun m ev => ev.InTurn m) {} es) (id : Nat)
    (waits : (Lib.run step {} es).waitingFor? = some id) :
    ¬ Delivered id (Lib.run step {} es).trace := by
  have holds : Inv (Lib.run step {} es) ∧ (Ordered (Lib.run step {} es).trace →
      Clear (Lib.run step {} es)) :=
    Lib.run_keeps (P := fun m => Inv m ∧ (Ordered m.trace → Clear m))
      (fun m ev holds allowed => ⟨(step_inv holds.1 ev).1, fun late => step_clear holds.1
        (holds.2 (late.of_suffix (step_suffix holds.1 ev))) ev allowed late⟩)
      ⟨inv_init, fun _ => ⟨by simp [queuedActions], by simp [waitingFor?]⟩⟩ inTurn
  exact (holds.2 ordered).current id waits

/-- An IMSA task whose function makes two `WaitExec` calls. -/
def twoWaits : NewTask := .of .imsaStartInput 100
  [.new 1 (.waitExec 2 3 51 1000 .done (.waitExec 4 5 52 1000 .done .done))] (by decide)
  imsaStartInput_outer

/-- The first of two waits, completed in turn, lets the task go on to the second. -/
theorem completions_in_turn :
    let es := [Event.setInited true, .newTask twoWaits, .newTask (.resume 51)]
    (Lib.run step {} es).waitingFor? = some 52 ∧ ¬ Delivered 52 (Lib.run step {} es).trace := by
  intro es
  have waits : (Lib.run step {} es).waitingFor? = some 52 := by decide +kernel
  refine ⟨waits, completions_not_lost es (by decide +kernel) ?_ 52 waits⟩
  refine ⟨trivial, ?_, ?_, trivial⟩
  · intro inner
    cases inner
  · intro _ a member
    revert a
    decide +kernel

/-- A completion that overtakes another one is lost: both were delivered and processed, and
the task is still paused on the second wait. -/
theorem overtaking_completion_lost :
    ¬ ∀ (es : List Event), Ordered (Lib.run step {} es).trace →
      (Lib.run step {} es).innerTasks = [] →
      ∀ id, (Lib.run step {} es).waitingFor? = some id →
        ¬ Delivered id (Lib.run step {} es).trace := by
  intro never
  exact never [.setInited true, .newTask twoWaits, .newTask (.resume 52), .newTask (.resume 51)]
    (by decide +kernel) (by decide +kernel) 52 (by decide +kernel) (by decide +kernel)

end Imf.Ability
