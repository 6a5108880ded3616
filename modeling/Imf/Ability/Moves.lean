/-
# Imf.Ability.Moves -- the moves that scheduling is made of

A `Move` is one elementary change of the manager: an object is pended, begun,
finished, a task is taken, merged, ended.  The two changes that throw objects away
are a `Drop`, and the arrival of a task comes from outside.  Every method of the
source is a chain of moves and drops (`executeInner_spec`, `resume_hit` and the stage
lemmas of `Imf.Ability.Scheduling`), and each carries the guard under which the source
makes it.  A fact about the trace or about what is held is proved once per move
and then holds after every event, and also at every moment inside one.
-/
import Imf.Ability.TaskManager
import Imf.Lib.Run

namespace Imf.Ability

set_option autoImplicit false

open Relation (ReflTransGen)

/-- The last `SetInited` call of a trace was `SetInited(false)`, made while an IMSA
task was current. -/
def RevokedIn (trace : List Mark) : Prop :=
  trace.find? Mark.isSetInited = some (.setInited false (some .imsa))

def TaskManager.Revoked (m : TaskManager) : Prop := RevokedIn m.trace

/-! ## Moves -/

inductive Move : TaskManager → TaskManager → Prop where
  | setInited (m : TaskManager) (flag : Bool) : Move m (m.setInited flag)
  | draw (m : TaskManager) : Move m m.getNextSeqId.2
  | postTask (m : TaskManager) (seqId delayMs : Nat) : Move m (m.mark (.postTask seqId delayMs))
  | processAsync (m : TaskManager) : Move m (m.mark .processAsync)
  | popInner (m : TaskManager) (task : Task) (rest : List Task)
      (queue : m.innerTasks = task :: rest) (empty : task.held = []) :
      Move m (m.setQueue .inner rest)
  | clearInner (m : TaskManager) (empty : ∀ task ∈ m.innerTasks, task.held = []) :
      Move m (m.setQueue .inner [])
  | setState (m : TaskManager) (t : Task) (s : RunningState) (cur : m.curTask = some t) :
      Move m (m.setCur (some { t with state := s }))
  | setActionState (m : TaskManager) (t : Task) (a : Action) (s : RunningState)
      (cur : m.curTask = some t) (act : t.curAction = some a) :
      Move m (m.setCur (some { t with curAction := some { a with state := s } }))
  | pend (m : TaskManager) (t : Task) (a : Action) (cur : m.curTask = some t)
      (running : t.state = .running) (idle : a.state = .idle) :
      Move m ((m.setCur (some (t.pendAction a))).mark (.accept a.oid a.completeId?))
  | splice (m : TaskManager) (t : Task) (cur : m.curTask = some t) :
      Move m (m.setCur (some t.checkPending))
  | begin (m : TaskManager) (t : Task) (a : Action) (rest : List Action) (cur : m.curTask = some t)
      (none : t.curAction = none) (actions : t.actions = a :: rest) :
      Move m ((m.setCur (some { t with curAction := some a, actions := rest })).mark
        (.execute a.oid t.getSourceType m.inited))
  | finish (m : TaskManager) (t : Task) (a : Action) (cur : m.curTask = some t)
      (act : t.curAction = some a) :
      Move m ((m.setCur (some t.resetCurAction)).mark (.finish a.oid))
  | complete (m : TaskManager) (t : Task) (cur : m.curTask = some t) (empty : t.held = []) :
      Move m (m.setCur none)
  | take (m : TaskManager) (src : SourceType) (t : Task) (rest : List Task)
      (cur : m.curTask = none) (queue : m.queue src = t :: rest) (source : t.getSourceType = src)
      (gate : src = .imsa → m.inited = true ∨ m.Revoked) (fresh : t.Fresh) :
      Move m (m.takeTask src t rest)
  | merge (m : TaskManager) (t task : Task) (rest : List Task) (cur : m.curTask = some t)
      (queue : m.imaTasks = task :: rest) (fresh : task.Fresh) :
      Move m ((m.setQueue .ima rest).setCur (some (t.pendTask task)))

/-- The two explicit discards. -/
inductive Drop : TaskManager → TaskManager → Prop where
  | preempt (m : TaskManager) (t : Task) (cur : m.curTask = some t)
      (other : t.getSourceType ≠ .ams) (waiting : m.amsTasks ≠ []) : Drop m m.dropCur
  | reset (m : TaskManager) : Drop m m.reset

/-- A chain of moves. -/
abbrev Moves : TaskManager → TaskManager → Prop := ReflTransGen Move

/-- A chain of moves and discards: what the manager does by itself. -/
abbrev Changes : TaskManager → TaskManager → Prop := ReflTransGen fun m n => Move m n ∨ Drop m n

/-- A chain of moves, discards and arrivals of new tasks. -/
abbrev History : TaskManager → TaskManager → Prop :=
  ReflTransGen fun m n => (Move m n ∨ Drop m n) ∨ ∃ t : NewTask, n = m.arrive t.task

theorem changes_of_moves {m n : TaskManager} (moves : Moves m n) : Changes m n := by
  induction moves with
  | refl => exact .refl
  | tail _ move ih => exact ih.tail (.inl move)

theorem history_of_changes {m n : TaskManager} (changes : Changes m n) : History m n := by
  induction changes with
  | refl => exact .refl
  | tail _ change ih => exact ih.tail (.inl change)

/-! ## Small facts about updates -/

namespace TaskManager

@[simp] theorem setCur_curTask (m : TaskManager) (t : Option Task) :
    (m.setCur t).curTask = t := rfl
@[simp] theorem setCur_inited (m : TaskManager) (t : Option Task) :
    (m.setCur t).inited = m.inited := rfl
@[simp] theorem setCur_trace (m : TaskManager) (t : Option Task) :
    (m.setCur t).trace = m.trace := rfl
@[simp] theorem setCur_queue (m : TaskManager) (t : Option Task) (src : SourceType) :
    (m.setCur t).queue src = m.queue src := by cases src <;> rfl
@[simp] theorem mark_curTask (m : TaskManager) (e : Mark) : (m.mark e).curTask = m.curTask := rfl
@[simp] theorem mark_inited (m : TaskManager) (e : Mark) : (m.mark e).inited = m.inited := rfl
@[simp] theorem mark_trace (m : TaskManager) (e : Mark) : (m.mark e).trace = e :: m.trace := rfl
@[simp] theorem mark_queue (m : TaskManager) (e : Mark) (src : SourceType) :
    (m.mark e).queue src = m.queue src := by cases src <;> rfl
@[simp] theorem setQueue_curTask (m : TaskManager) (src : SourceType) (ts : List Task) :
    (m.setQueue src ts).curTask = m.curTask := by cases src <;> rfl
@[simp] theorem setQueue_inited (m : TaskManager) (src : SourceType) (ts : List Task) :
    (m.setQueue src ts).inited = m.inited := by cases src <;> rfl
@[simp] theorem setQueue_trace (m : TaskManager) (src : SourceType) (ts : List Task) :
    (m.setQueue src ts).trace = m.trace := by cases src <;> rfl

theorem setQueue_queue_ne (m : TaskManager) {src other : SourceType} (ne : other ≠ src)
    (ts : List Task) : (m.setQueue src ts).queue other = m.queue other := by
  cases src <;> cases other <;> first | rfl | exact absurd rfl ne

theorem arrive_trace (m : TaskManager) (t : Task) :
    (m.arrive t).trace = (.arrive t.getSourceType t.seqId ::
      t.actions.map fun a => .accept a.oid a.completeId?).reverse ++ m.trace := by
  simp [arrive, marks]

theorem mapCur_of_cur {m : TaskManager} {t : Task} (cur : m.curTask = some t) (f : Task → Task) :
    m.mapCur f = m.setCur (some (f t)) := by
  simp [mapCur, setCur, cur]

theorem setCurAction_of_cur {m : TaskManager} {t : Task} (cur : m.curTask = some t) (a : Action) :
    m.setCurAction a = m.setCur (some { t with curAction := some a }) :=
  mapCur_of_cur cur _

end TaskManager

open TaskManager

/-! ## What a change does to the trace -/

/-- A mark that neither begins an action nor discards one. -/
def Mark.quiet : Mark → Bool
  | .execute .. => false
  | .discard _ => false
  | _ => true

/-- A move adds quiet marks, or begins one action. -/
theorem move_trace {m n : TaskManager} (move : Move m n) :
    (∃ new, n.trace = new ++ m.trace ∧ ∀ e ∈ new, e.quiet = true) ∨
      ∃ (t : Task) (a : Action), m.curTask = some t ∧
        n.trace = .execute a.oid t.getSourceType m.inited :: m.trace := by
  have one : ∀ e : Mark, e.quiet = true → n.trace = e :: m.trace →
      ∃ new, n.trace = new ++ m.trace ∧ ∀ e ∈ new, e.quiet = true :=
    fun e quiet trace => ⟨[e], trace, by simpa using quiet⟩
  have same : n.trace = m.trace → ∃ new, n.trace = new ++ m.trace ∧ ∀ e ∈ new, e.quiet = true :=
    fun trace => ⟨[], trace, by simp⟩
  cases move with
  | setInited flag => exact .inl (one _ rfl rfl)
  | draw => exact .inl (same rfl)
  | postTask seqId delayMs => exact .inl (one _ rfl rfl)
  | processAsync => exact .inl (one _ rfl rfl)
  | popInner task rest queue empty => exact .inl (same (by simp))
  | clearInner empty => exact .inl (same (by simp))
  | setState t s cur => exact .inl (same rfl)
  | setActionState t a s cur act => exact .inl (same rfl)
  | pend t a cur running idle => exact .inl (one _ rfl rfl)
  | splice t cur => exact .inl (same rfl)
  | begin t a rest cur none actions => exact .inr ⟨t, a, cur, rfl⟩
  | finish t a cur act => exact .inl (one _ rfl rfl)
  | complete t cur empty => exact .inl (same rfl)
  | take src t rest cur queue source allowed fresh =>
      exact .inl (one (.start src t.seqId) rfl (by simp [takeTask]))
  | merge t task rest cur queue fresh => exact .inl (same (by simp))

/-- An arrival adds quiet marks. -/
theorem arrive_quiet (m : TaskManager) (t : Task) :
    ∃ new, (m.arrive t).trace = new ++ m.trace ∧ ∀ e ∈ new, e.quiet = true := by
  refine ⟨_, arrive_trace m t, ?_⟩
  intro e member
  simp only [List.mem_reverse, List.mem_cons, List.mem_map] at member
  rcases member with rfl | ⟨a, -, rfl⟩ <;> rfl

theorem drop_trace {m n : TaskManager} (drop : Drop m n) :
    ∃ oids : List Nat, n.trace = (oids.map Mark.discard).reverse ++ m.trace := by
  cases drop with
  | preempt t cur other waiting => exact ⟨_, rfl⟩
  | reset => exact ⟨_, rfl⟩

/-- The trace only grows. -/
theorem move_suffix {m n : TaskManager} (move : Move m n) : m.trace <:+ n.trace := by
  rcases move_trace move with ⟨new, trace, -⟩ | ⟨t, a, -, trace⟩
  · exact ⟨new, trace.symm⟩
  · exact ⟨[_], trace.symm⟩

theorem drop_suffix {m n : TaskManager} (drop : Drop m n) : m.trace <:+ n.trace := by
  obtain ⟨oids, trace⟩ := drop_trace drop
  exact ⟨_, trace.symm⟩

theorem changes_suffix {m n : TaskManager} (changes : Changes m n) : m.trace <:+ n.trace :=
  Lib.steps_keep (P := fun k => m.trace <:+ k.trace)
    (fun _ _ change suffix => suffix.trans (change.elim move_suffix drop_suffix)) changes
    (List.suffix_refl _)

theorem moves_suffix {m n : TaskManager} (moves : Moves m n) : m.trace <:+ n.trace :=
  changes_suffix (changes_of_moves moves)

/-! ## What a running function does -/

/-- A function called while its task runs pends idle actions behind what is
pending, and leaves the rest of the task alone. -/
theorem pend_spec {m : TaskManager} {t : Task} (cur : m.curTask = some t)
    (running : t.state = .running) (a : Action) (idle : a.state = .idle) :
    (m.pend (some a)).1.curTask = some (t.pendAction a) ∧ (m.pend (some a)).2 = .noError ∧
      Moves m (m.pend (some a)).1 := by
  have shape : m.pend (some a) =
      ((m.setCur (some (t.pendAction a))).mark (.accept a.oid a.completeId?), .noError) := by
    simp [TaskManager.pend, cur, Task.isRunning, running]
  rw [shape]
  exact ⟨rfl, rfl, .single (.pend m t a cur running idle)⟩

/-- Outside a running task nothing can be pended. -/
theorem pend_refused {m : TaskManager} (notRunning : ∀ t, m.curTask = some t → t.state ≠ .running)
    (a : Action) : m.pend (some a) = (m, .errorTaskManagerPendFailed) := by
  unfold TaskManager.pend
  cases h : m.curTask with
  | none => rfl
  | some t =>
      have stopped := notRunning t h
      simp [Task.isRunning, stopped]

/-- The task with `new` pended behind what is pending. -/
def Task.pendAll (t : Task) (new : List Action) : Task :=
  { t with pendingActions := t.pendingActions ++ new }

theorem Task.pendAll_pendAction (t : Task) (a : Action) (new : List Action) :
    (t.pendAction a).pendAll new = t.pendAll (a :: new) := by
  simp [Task.pendAll, Task.pendAction]

/-- The actions that a function pends in a running task, when the counter of the sequence numbers
stands at `n`. -/
def Body.pended : Body → Nat → List Action
  | .done, _ => []
  | .pend oid func next, n => .new oid func :: next.pended n
  | .pendWait oid completeId timeoutMs onComplete onTimeout next, n =>
      .newWait oid completeId timeoutMs n onComplete onTimeout :: next.pended (n + 1)
  | .waitExec waitOid execOid seqId timeoutMs func next, n =>
      .newWait waitOid seqId timeoutMs n .done .done :: .new execOid func :: next.pended (n + 1)
  | .setInited _ next, n => next.pended n

theorem Body.pended_idle (b : Body) (n : Nat) : ∀ a ∈ b.pended n, a.state = .idle := by
  induction b generalizing n with
  | done => simp [pended]
  | pend oid func next _ ih => exact List.forall_mem_cons.2 ⟨rfl, ih n⟩
  | pendWait oid c d onComplete onTimeout next _ _ ih => exact List.forall_mem_cons.2 ⟨rfl, ih (n + 1)⟩
  | waitExec w e s d func next _ ih =>
      exact List.forall_mem_cons.2 ⟨rfl, List.forall_mem_cons.2 ⟨rfl, ih (n + 1)⟩⟩
  | setInited flag next ih => exact ih n

theorem pend_maxSeqId (m : TaskManager) (action : Option Action) :
    (m.pend action).1.maxSeqId = m.maxSeqId := by
  unfold TaskManager.pend
  repeat' split
  all_goals rfl

/-- **A function run inside its task** pends its actions behind what is pending. -/
theorem runBody_running (b : Body) {m : TaskManager} {t : Task} (cur : m.curTask = some t)
    (running : t.state = .running) :
    (runBody b m).curTask = some (t.pendAll (b.pended m.maxSeqId)) ∧ Moves m (runBody b m) := by
  induction b generalizing m t with
  | done => exact ⟨by simp [runBody, cur, Task.pendAll, Body.pended], .refl⟩
  | pend oid func next _ ih =>
      obtain ⟨cur', -, moves⟩ := pend_spec cur running (.new oid func) rfl
      obtain ⟨cur'', moves'⟩ := ih cur' running
      refine ⟨?_, moves.trans moves'⟩
      rw [Body.pended, ← Task.pendAll_pendAction, ← pend_maxSeqId m (some (.new oid func))]
      exact cur''
  | pendWait oid c d onComplete onTimeout next _ _ ih =>
      let wait := Action.newWait oid c d m.getNextSeqId.1 onComplete onTimeout
      obtain ⟨cur', -, moves⟩ := pend_spec (m := m.getNextSeqId.2) cur running wait rfl
      obtain ⟨cur'', moves'⟩ := ih cur' running
      refine ⟨?_, ((ReflTransGen.single (Move.draw m)).trans moves).trans moves'⟩
      rw [pend_maxSeqId] at cur''
      rw [Body.pended, ← Task.pendAll_pendAction]
      exact cur''
  | waitExec w e s d func next _ ih =>
      obtain ⟨cur₁, ok₁, moves₁⟩ := pend_spec (m := m.getNextSeqId.2) cur running
        (.newWait w s d m.getNextSeqId.1 .done .done) rfl
      obtain ⟨cur₂, -, moves₂⟩ := pend_spec cur₁ running (.new e func) rfl
      have shape : (m.waitExec w e s d func).1 =
          ((m.getNextSeqId.2.pend (some (.newWait w s d m.getNextSeqId.1 .done .done))).1.pend
            (some (.new e func))).1 := by
        simp [TaskManager.waitExec, ok₁]
      have drawn : (m.waitExec w e s d func).1.maxSeqId = m.maxSeqId + 1 := by
        rw [shape, pend_maxSeqId, pend_maxSeqId]
        rfl
      rw [← shape] at cur₂
      obtain ⟨cur₃, moves₃⟩ := ih cur₂ running
      refine ⟨?_, ?_⟩
      · rw [drawn] at cur₃
        rw [Body.pended, ← Task.pendAll_pendAction, ← Task.pendAll_pendAction]
        exact cur₃
      · have toSecond := ((ReflTransGen.single (Move.draw m)).trans moves₁).trans moves₂
        rw [← shape] at toSecond
        exact toSecond.trans moves₃
  | setInited flag next ih =>
      obtain ⟨cur', moves⟩ := ih (m := m.setInited flag) cur running
      exact ⟨cur', (ReflTransGen.single (Move.setInited m flag)).trans moves⟩

/-- **A function run while no task runs** (the callbacks of a resumed wait): its
`Pend` calls fail, the current task is left as it was, and all that can be seen of
it is its `SetInited` calls. -/
theorem runBody_stopped (b : Body) {m : TaskManager}
    (notRunning : ∀ t, m.curTask = some t → t.state ≠ .running) :
    (runBody b m).curTask = m.curTask ∧ Moves m (runBody b m) ∧
      ∃ new : List Mark, (runBody b m).trace = new ++ m.trace ∧
        ∀ e ∈ new, ∃ flag during, e = .setInited flag during := by
  induction b generalizing m with
  | done => exact ⟨rfl, .refl, [], rfl, by simp⟩
  | pend oid func next _ ih =>
      simp only [runBody, pend_refused notRunning]
      exact ih notRunning
  | pendWait oid c d onComplete onTimeout next _ _ ih =>
      have refused := pend_refused (m := m.getNextSeqId.2) notRunning
      simp only [runBody, refused]
      obtain ⟨same, moves, marks⟩ := ih (m := m.getNextSeqId.2) notRunning
      exact ⟨same, (ReflTransGen.single (Move.draw m)).trans moves, marks⟩
  | waitExec w e s d func next _ ih =>
      have refused := pend_refused (m := m.getNextSeqId.2) notRunning
      simp only [runBody, TaskManager.waitExec, refused]
      obtain ⟨same, moves, marks⟩ := ih (m := m.getNextSeqId.2) notRunning
      exact ⟨same, (ReflTransGen.single (Move.draw m)).trans moves, marks⟩
  | setInited flag next ih =>
      obtain ⟨same, moves, new, trace, only⟩ := ih (m := m.setInited flag) notRunning
      refine ⟨same, (ReflTransGen.single (Move.setInited m flag)).trans moves,
        new ++ [.setInited flag m.curSource], ?_, ?_⟩
      · simp only [runBody, trace, List.append_assoc]
        rfl
      · intro e member
        rcases List.mem_append.1 member with member | member
        · exact only e member
        · exact ⟨flag, m.curSource, List.mem_singleton.1 member⟩

/-! ## Executing the current task -/

/-- A task that an event left: paused on a wait, with nothing but idle actions
behind it. -/
structure Task.Waiting (t : Task) : Prop where
  state : t.state = .paused
  wait : ∃ a, t.curAction = some a ∧ a.isWait = true ∧ a.state = .paused
  idle : ∀ a ∈ t.queued, a.state = .idle

/-- What is left of a task that ran to its end. -/
structure Task.Done (t : Task) : Prop where
  state : t.state = .completed
  empty : t.held = []

/-- A task in the loop of `ExecuteInner`, between two actions. -/
structure Task.Looping (t : Task) : Prop where
  state : t.state = .running
  curAction : t.curAction = none
  pendingActions : t.pendingActions = []
  idle : ∀ a ∈ t.actions, a.state = .idle

/-- After a round the task loops on, with what the round pended in front. -/
theorem Task.Looping.round {t : Task} (looping : t.Looping) {a : Action} {rest new : List Action}
    (actions : t.actions = a :: rest) (newIdle : ∀ b ∈ new, b.state = .idle) :
    ({ t with actions := new ++ rest } : Task).Looping := by
  refine ⟨looping.state, looping.curAction, looping.pendingActions, ?_⟩
  intro b member
  rcases List.mem_append.1 member with member | member
  · exact newIdle b member
  · exact looping.idle b (by rw [actions]; exact List.mem_cons_of_mem _ member)

/-- How a stretch of execution ends: the same task object, completed and empty, or
paused on a wait with nothing pending. -/
inductive Task.Ended (t : Task) : RunningState → Task → Prop where
  | completed {t' : Task} (type : t'.type = t.type) (seqId : t'.seqId = t.seqId) (done : t'.Done) :
      Ended t .completed t'
  | paused {t' : Task} (type : t'.type = t.type) (seqId : t'.seqId = t.seqId)
      (waiting : t'.Waiting) (pending : t'.pendingActions = []) : Ended t .paused t'

theorem Task.Ended.of_eq {t u t' : Task} {s : RunningState} (type : u.type = t.type)
    (seqId : u.seqId = t.seqId) (ended : Task.Ended u s t') : Task.Ended t s t' := by
  cases ended with
  | completed type' seqId' done => exact .completed (type'.trans type) (seqId'.trans seqId) done
  | paused type' seqId' waiting pending =>
      exact .paused (type'.trans type) (seqId'.trans seqId) waiting pending

theorem Task.Ended.source {t t' : Task} {s : RunningState} (ended : Task.Ended t s t') :
    t'.getSourceType = t.getSourceType := by
  cases ended with
  | completed type => exact congrArg TaskType.getSourceType type
  | paused type => exact congrArg TaskType.getSourceType type

theorem Task.Ended.cases {t t' : Task} {s : RunningState} (ended : Task.Ended t s t') :
    s = .completed ∧ t'.Done ∨ s = .paused ∧ t'.Waiting ∧ t'.pendingActions = [] := by
  cases ended with
  | completed _ _ done => exact .inl ⟨rfl, done⟩
  | paused _ _ waiting pending => exact .inr ⟨rfl, waiting, pending⟩

/-- One round of the loop on a plain action: it is begun, its function pends its actions, it is
finished, and the task is back in the loop with these in front. -/
theorem executeAction_plain {m : TaskManager} {t : Task} {a : Action} {rest : List Action}
    {func : Body} (cur : m.curTask = some t) (looping : t.Looping) (actions : t.actions = a :: rest)
    (kind : a.kind = .plain func) :
    let ran := (m.setCur (some { t with curAction := some a, actions := rest })).executeAction
      t.getSourceType a
    ran.2 = .completed ∧
      ((ran.1.mapCur Task.checkPending).mapCur Task.resetCurAction).curTask =
        some { t with actions := func.pended m.maxSeqId ++ rest } ∧
      Moves m (((ran.1.mapCur Task.checkPending).mapCur Task.resetCurAction).mark
        (.finish a.oid)) ∧
      (.execute a.oid t.getSourceType m.inited :: m.trace) <:+ ran.1.trace := by
  have aIdle : a.state = .idle := looping.idle a (by rw [actions]; exact List.mem_cons_self)
  obtain ⟨oid, state, kind'⟩ := a
  obtain rfl : kind' = .plain func := kind
  obtain rfl : state = .idle := aIdle
  intro ran
  let chosen : Task := { t with curAction := some ⟨oid, .idle, .plain func⟩, actions := rest }
  let begun : Task := { t with curAction := some ⟨oid, .running, .plain func⟩, actions := rest }
  let started := ((m.setCur (some chosen)).mark (.execute oid t.getSourceType m.inited)).setCur
    (some begun)
  obtain ⟨cur', moves⟩ := runBody_running func (m := started) (t := begun) rfl looping.state
  change _ = some (begun.pendAll (func.pended m.maxSeqId)) at cur'
  generalize func.pended m.maxSeqId = new at cur' ⊢
  let finished : Task := { begun.pendAll new with curAction := some ⟨oid, .completed, .plain func⟩ }
  have ranEq : ran = ((runBody func started).setCur (some finished), .completed) :=
    congrArg (·, RunningState.completed)
      (setCurAction_of_cur cur' ⟨oid, .completed, .plain func⟩)
  have checked : finished.checkPending.resetCurAction = { t with actions := new ++ rest } := by
    obtain ⟨type, state, seqId, curAction, acts, pending⟩ := t
    obtain rfl : curAction = none := looping.curAction
    obtain rfl : pending = [] := looping.pendingActions
    cases new <;> simp [finished, begun, Task.pendAll, Task.checkPending, Task.resetCurAction]
  have act : finished.checkPending.curAction = some ⟨oid, .completed, .plain func⟩ := by
    unfold Task.checkPending
    split <;> rfl
  rw [ranEq]
  refine ⟨rfl, ?_, ?_, moves_suffix moves⟩
  · rw [mapCur_of_cur (setCur_curTask _ _), mapCur_of_cur (setCur_curTask _ _), checked]
    rfl
  · have toStarted : Moves m started :=
      (ReflTransGen.single (Move.begin m t _ rest cur looping.curAction actions)).tail
        (Move.setActionState _ chosen _ .running rfl rfl)
    have toFinished : Moves m ((runBody func started).setCur (some finished)) :=
      (toStarted.trans moves).tail (Move.setActionState _ _ _ .completed cur' rfl)
    rw [mapCur_of_cur (setCur_curTask _ _), mapCur_of_cur (setCur_curTask _ _)]
    exact (toFinished.tail (Move.splice _ _ (setCur_curTask _ _))).tail
      (Move.finish _ _ ⟨oid, .completed, .plain func⟩ (setCur_curTask _ _) act)

/-- One round of the loop on a wait: it is begun and the task pauses on it. -/
theorem executeAction_wait {m : TaskManager} {t : Task} {a : Action} {rest : List Action}
    (cur : m.curTask = some t) (looping : t.Looping) (actions : t.actions = a :: rest)
    (wait : a.isWait = true) :
    let ran := (m.setCur (some { t with curAction := some a, actions := rest })).executeAction
      t.getSourceType a
    let paused := (ran.1.mapCur Task.checkPending).mapCur fun t => { t with state := .paused }
    ran.2 = .paused ∧
      paused.curTask = some
        { t with state := .paused, curAction := some { a with state := .paused }, actions := rest } ∧
      Moves m paused ∧ (.execute a.oid t.getSourceType m.inited :: m.trace) <:+ paused.trace := by
  obtain ⟨oid, state, kind⟩ := a
  cases kind with
  | plain func => simp [Action.isWait] at wait
  | wait ms completeId timeoutId onComplete onTimeout =>
      intro ran paused
      let kind : ActionKind := .wait ms completeId timeoutId onComplete onTimeout
      let chosen : Task := { t with curAction := some ⟨oid, state, kind⟩, actions := rest }
      let begun : Task := { t with curAction := some ⟨oid, .paused, kind⟩, actions := rest }
      let started := (((m.setCur (some chosen)).mark
        (.execute oid t.getSourceType m.inited)).setCur (some begun)).mark (.postTask timeoutId ms)
      have unchanged : begun.checkPending = begun := by
        simp [Task.checkPending, begun, looping.pendingActions]
      have pausedEq : paused = (started.setCur (some begun.checkPending)).setCur
          (some { begun.checkPending with state := .paused }) := rfl
      refine ⟨rfl, by rw [pausedEq, unchanged]; rfl, ?_, List.suffix_cons _ _⟩
      have toStarted : Moves m started :=
        ((ReflTransGen.single (Move.begin m t _ rest cur looping.curAction actions)).tail
          (Move.setActionState _ chosen _ .paused rfl rfl)).tail (Move.postTask _ _ _)
      rw [pausedEq]
      exact (toStarted.tail (Move.splice _ begun rfl)).tail
        (Move.setState _ _ .paused (setCur_curTask _ _))

/-- **The loop of `ExecuteInner`** ends with the task completed or paused on a wait. -/
theorem executeLoop_spec {m : TaskManager} {t : Task} (cur : m.curTask = some t)
    (looping : t.Looping) :
    ∃ t', m.executeLoop.1.curTask = some t' ∧ t.Ended m.executeLoop.2 t' ∧
      Moves m m.executeLoop.1 := by
  revert t
  fun_induction executeLoop m with
  | case1 m h => intro t cur; rw [h] at cur; cases cur
  | case2 m t₀ h none =>
      intro t cur looping
      rw [h] at cur
      cases cur
      refine ⟨_, rfl, .completed rfl rfl ⟨rfl, ?_⟩, .single (.setState m _ .completed h)⟩
      simp [Task.held, Task.queued, looping.curAction, looping.pendingActions, none]
  | case3 m t₀ h a rest actions begun ran checked completed =>
      rename_i ih
      intro t cur looping
      rw [h] at cur
      cases cur
      cases kind : a.kind with
      | wait =>
          have paused := (executeAction_wait h looping actions (by simp [Action.isWait, kind])).1
          exact absurd (completed.symm.trans paused) (by decide)
      | plain func =>
          obtain ⟨-, cur', moves, -⟩ := executeAction_plain h looping actions kind
          obtain ⟨t', cur'', ended, moves'⟩ := ih cur' (looping.round actions (func.pended_idle _))
          refine ⟨t', cur'', ?_, moves.trans moves'⟩
          exact Task.Ended.of_eq
            (u := { t₀ with actions := func.pended m.maxSeqId ++ rest }) rfl rfl ended
  | case4 m t₀ h a rest actions begun ran checked =>
      rename_i notCompleted
      intro t cur looping
      rw [h] at cur
      cases cur
      cases kind : a.kind with
      | plain func =>
          obtain ⟨completed, -⟩ := executeAction_plain h looping actions kind
          exact absurd completed notCompleted
      | wait =>
          obtain ⟨-, cur', moves, -⟩ :=
            executeAction_wait h looping actions (by simp [Action.isWait, kind])
          refine ⟨_, cur', .paused rfl rfl ⟨rfl, ⟨_, rfl, ?_, rfl⟩, ?_⟩ looping.pendingActions, moves⟩
          · simp [Action.isWait, kind]
          · intro b member
            simp only [Task.queued, looping.pendingActions, List.append_nil] at member
            exact looping.idle b (by rw [actions]; exact List.mem_cons_of_mem _ member)

/-- The task as `ExecuteInner` enters its loop. -/
theorem Task.looping_checkPending {t : Task} (none : t.curAction = none)
    (idle : ∀ a ∈ t.queued, a.state = .idle) :
    ({ t with state := .running } : Task).checkPending.Looping := by
  unfold Task.checkPending
  split
  · rename_i noPending
    exact ⟨rfl, none, noPending, fun a member => idle a (List.mem_append_left _ member)⟩
  · refine ⟨rfl, none, rfl, ?_⟩
    intro a member
    apply idle a
    rw [Task.queued, List.mem_append]
    exact (List.mem_append.1 member).symm

/-- `ExecuteInner` on a task without a current action whose actions are all idle. -/
theorem executeInner_spec {m : TaskManager} {t : Task} (cur : m.curTask = some t)
    (none : t.curAction = none) (idle : ∀ a ∈ t.queued, a.state = .idle) :
    ∃ t', m.executeInner.1.curTask = some t' ∧ t.Ended m.executeInner.2 t' ∧
      Moves m m.executeInner.1 := by
  have looping : ({ t with state := .running } : Task).checkPending.Looping :=
    Task.looping_checkPending none idle
  have sameType : ({ t with state := .running } : Task).checkPending.type = t.type := by
    unfold Task.checkPending; split <;> rfl
  have sameSeqId : ({ t with state := .running } : Task).checkPending.seqId = t.seqId := by
    unfold Task.checkPending; split <;> rfl
  unfold executeInner
  rw [mapCur_of_cur cur]
  obtain ⟨t', cur', ended, moves⟩ := executeLoop_spec (setCur_curTask _ _) looping
  refine ⟨t', cur', ended.of_eq sameType sameSeqId, ?_⟩
  have running := Move.setState m t .running cur
  have spliced := Move.splice _ { t with state := .running } (setCur_curTask m _)
  exact (ReflTransGen.single running |>.tail spliced).trans moves

/-- `Execute` on a task taken from a queue. -/
theorem execute_spec {m : TaskManager} {t : Task} (cur : m.curTask = some t) (fresh : t.Fresh) :
    ∃ t', m.execute.1.curTask = some t' ∧ t.Ended m.execute.2 t' ∧ Moves m m.execute.1 := by
  have shape : m.execute = m.executeInner := by simp [execute, cur, fresh.state]
  rw [shape]
  apply executeInner_spec cur fresh.curAction
  intro a member
  rw [Task.queued, fresh.pendingActions, List.append_nil] at member
  exact fresh.actions a member

end Imf.Ability
