/-
# Imf.Ability.Trace -- what the trace of every run says

The gate in front of IMSA tasks and the order in which queued tasks are taken
are facts about the trace.  Both are kept by every move, so they hold after every
event and at every moment inside one.  `scheduling_invariant` puts them together
with the invariant between events.
-/
import Imf.Ability.Scheduling

namespace Imf.Ability

set_option autoImplicit false

open TaskManager

/-- IMSA actions begun while `inited_` was false were begun under a revocation. -/
def GuardedBegins (trace : List Mark) : Prop :=
  ∀ oid earlier, (.execute oid .imsa false :: earlier) <:+ trace → RevokedIn earlier

theorem guardedBegins_append {new trace : List Mark} (guarded : GuardedBegins trace)
    (other : ∀ e ∈ new, ∀ oid, e ≠ .execute oid .imsa false) :
    GuardedBegins (new ++ trace) := by
  induction new with
  | nil => exact guarded
  | cons e new ih =>
      intro oid earlier suffix
      rcases List.suffix_cons_iff.1 suffix with same | suffix
      · exact absurd (List.cons.inj same).1.symm (other e List.mem_cons_self oid)
      · exact ih (fun e' member => other e' (List.mem_cons_of_mem _ member)) oid earlier suffix

theorem guardedBegins_quiet {new trace : List Mark} (guarded : GuardedBegins trace)
    (quiet : ∀ e ∈ new, e.quiet = true) : GuardedBegins (new ++ trace) := by
  apply guardedBegins_append guarded
  intro e member oid same
  have loud := quiet e member
  rw [same] at loud
  exact absurd loud Bool.false_ne_true

theorem guardedBegins_move {m n : TaskManager} (move : Move m n)
    (holds : Gate m ∧ GuardedBegins m.trace) : Gate n ∧ GuardedBegins n.trace := by
  refine ⟨gate_move move holds.1, ?_⟩
  rcases move_trace move with ⟨new, trace, quiet⟩ | ⟨t, a, cur, trace⟩
  · rw [trace]
    exact guardedBegins_quiet holds.2 quiet
  · intro oid earlier suffix
    rw [trace] at suffix
    rcases List.suffix_cons_iff.1 suffix with same | suffix
    · obtain ⟨mark, rfl⟩ := List.cons.inj same
      simp only [Mark.execute.injEq] at mark
      have allowed := holds.1 (by rw [curSource, cur, Option.map_some, ← mark.2.1])
      rw [← mark.2.2] at allowed
      exact allowed.resolve_left (by decide)
    · exact holds.2 oid earlier suffix

theorem guardedBegins_drop {m n : TaskManager} (drop : Drop m n)
    (holds : Gate m ∧ GuardedBegins m.trace) : Gate n ∧ GuardedBegins n.trace := by
  refine ⟨gate_drop drop, ?_⟩
  obtain ⟨oids, trace⟩ := drop_trace drop
  rw [trace]
  apply guardedBegins_append holds.2
  intro e member
  simp only [List.mem_reverse, List.mem_map] at member
  obtain ⟨oid, -, rfl⟩ := member
  simp

theorem guardedBegins_arrive (m : TaskManager) (t : NewTask)
    (holds : Gate m ∧ GuardedBegins m.trace) :
    Gate (m.arrive t.task) ∧ GuardedBegins (m.arrive t.task).trace := by
  refine ⟨gate_arrive holds.1 t.task, ?_⟩
  obtain ⟨new, trace, quiet⟩ := arrive_quiet m t.task
  rw [trace]
  exact guardedBegins_quiet holds.2 quiet

/-- The sequence id of a task of the source, where it arrives. -/
def Mark.arrived? (src : SourceType) : Mark → Option Nat
  | .arrive src' seqId => if src' = src then some seqId else none
  | _ => none

/-- The sequence id of a task of the source, where it is taken from its queue. -/
def Mark.started? (src : SourceType) : Mark → Option Nat
  | .start src' seqId => if src' = src then some seqId else none
  | _ => none

def arrivals (src : SourceType) (trace : List Mark) : List Nat :=
  trace.reverse.filterMap (Mark.arrived? src)

def starts (src : SourceType) (trace : List Mark) : List Nat :=
  trace.reverse.filterMap (Mark.started? src)

/-- Taken and still queued tasks of each source follow their order of arrival. -/
def StartOrder (m : TaskManager) : Prop :=
  ∀ src, List.Sublist (starts src m.trace ++ (m.queue src).map Task.seqId) (arrivals src m.trace)

/-- Marks of neither kind, and a queue that only lost tasks, keep the order. -/
theorem StartOrder.of_other {m n : TaskManager} (order : StartOrder m) (new : List Mark)
    (trace : n.trace = new ++ m.trace)
    (other : ∀ e ∈ new, ∀ src, e.arrived? src = none ∧ e.started? src = none)
    (queues : ∀ src, (n.queue src).Sublist (m.queue src)) : StartOrder n := by
  intro src
  have noStarts : starts src n.trace = starts src m.trace := by
    simp only [starts, trace, List.reverse_append, List.filterMap_append]
    rw [List.append_right_eq_self, List.filterMap_eq_nil_iff]
    exact fun e member => (other e (List.mem_reverse.1 member) src).2
  have noArrivals : arrivals src n.trace = arrivals src m.trace := by
    simp only [arrivals, trace, List.reverse_append, List.filterMap_append]
    rw [List.append_right_eq_self, List.filterMap_eq_nil_iff]
    exact fun e member => (other e (List.mem_reverse.1 member) src).1
  rw [noStarts, noArrivals]
  exact (((queues src).map _).append_left _).trans (order src)

theorem StartOrder.of_same {m n : TaskManager} (order : StartOrder m) (trace : n.trace = m.trace)
    (queues : ∀ src, (n.queue src).Sublist (m.queue src)) : StartOrder n :=
  order.of_other [] trace (by simp) queues

theorem StartOrder.of_mark {m n : TaskManager} (order : StartOrder m) {e : Mark}
    (trace : n.trace = e :: m.trace)
    (other : ∀ src, e.arrived? src = none ∧ e.started? src = none)
    (queues : ∀ src, n.queue src = m.queue src) : StartOrder n :=
  order.of_other [e] trace (by simpa using other) fun src => by rw [queues src]

theorem discards_other {oids : List Nat} :
    ∀ e ∈ (oids.map Mark.discard).reverse, ∀ src, e.arrived? src = none ∧ e.started? src = none := by
  intro e member src
  simp only [List.mem_reverse, List.mem_map] at member
  obtain ⟨oid, -, rfl⟩ := member
  exact ⟨rfl, rfl⟩

/-- Dropping tasks of one queue. -/
theorem setQueue_sublist {m : TaskManager} {src : SourceType} {ts : List Task}
    (sub : ts.Sublist (m.queue src)) (other : SourceType) :
    ((m.setQueue src ts).queue other).Sublist (m.queue other) := by
  by_cases same : other = src
  · subst same
    rw [setQueue_queue]
    exact sub
  · rw [setQueue_queue_ne m same]

theorem startOrder_arrive {m : TaskManager} (order : StartOrder m) (t : Task) :
    StartOrder (m.arrive t) := by
  intro src
  have accepts : ∀ f : Mark → Option Nat, (∀ oid id, f (.accept oid id) = none) →
      (t.actions.map fun a => Mark.accept a.oid a.completeId?).filterMap f = [] := by
    intro f silent
    rw [List.filterMap_eq_nil_iff]
    intro e member
    obtain ⟨a, -, rfl⟩ := List.mem_map.1 member
    exact silent _ _
  have noStarts : starts src (m.arrive t).trace = starts src m.trace := by
    simp only [starts, arrive_trace, List.reverse_append, List.reverse_reverse,
      List.filterMap_append, List.filterMap_cons, Mark.started?]
    rw [accepts _ (fun _ _ => rfl), List.append_nil]
  have arrived : arrivals src (m.arrive t).trace =
      arrivals src m.trace ++ if t.getSourceType = src then [t.seqId] else [] := by
    simp only [arrivals, arrive_trace, List.reverse_append, List.reverse_reverse,
      List.filterMap_append, List.filterMap_cons]
    rw [accepts _ (fun _ _ => rfl)]
    by_cases same : t.getSourceType = src <;> simp [Mark.arrived?, same]
  have queued : (m.arrive t).queue src =
      m.queue src ++ if t.getSourceType = src then [t] else [] := by
    by_cases same : t.getSourceType = src
    · subst same
      rw [if_pos rfl]
      exact setQueue_queue m _ _
    · rw [if_neg same, List.append_nil]
      exact setQueue_queue_ne m (Ne.symm same) _
  rw [noStarts, arrived, queued, List.map_append, ← List.append_assoc]
  apply (order src).append
  split <;> simp

theorem startOrder_take {m : TaskManager} (order : StartOrder m) {src : SourceType} {t : Task}
    {rest : List Task} (queue : m.queue src = t :: rest) : StartOrder (m.takeTask src t rest) := by
  intro other
  have trace : (m.takeTask src t rest).trace = .start src t.seqId :: m.trace := by
    simp [takeTask]
  have noArrivals : arrivals other (m.takeTask src t rest).trace = arrivals other m.trace := by
    simp [arrivals, trace, Mark.arrived?]
  have started : starts other (m.takeTask src t rest).trace =
      starts other m.trace ++ if src = other then [t.seqId] else [] := by
    simp only [starts, trace, List.reverse_cons, List.filterMap_append, List.filterMap_cons]
    by_cases same : src = other <;> simp [Mark.started?, same]
  have queued : (m.takeTask src t rest).queue other = (m.setQueue src rest).queue other := by
    simp [takeTask]
  rw [noArrivals, started, queued]
  by_cases same : src = other
  · subst same
    have before := order src
    rw [queue] at before
    simpa using before
  · rw [if_neg same, List.append_nil, setQueue_queue_ne m (Ne.symm same)]
    exact order other

theorem startOrder_move {m n : TaskManager} (move : Move m n) (order : StartOrder m) :
    StartOrder n := by
  cases move with
  | setInited flag =>
      exact order.of_mark (e := .setInited flag m.curSource) rfl (fun _ => ⟨rfl, rfl⟩) fun src => by
        cases src <;> rfl
  | draw => exact order.of_same rfl fun src => by cases src <;> exact List.Sublist.refl _
  | postTask seqId delayMs => exact order.of_mark rfl (fun _ => ⟨rfl, rfl⟩) fun src => mark_queue _ _ _
  | processAsync => exact order.of_mark rfl (fun _ => ⟨rfl, rfl⟩) fun src => mark_queue _ _ _
  | popInner task rest queue empty =>
      refine order.of_same (setQueue_trace _ _ _) (setQueue_sublist ?_)
      rw [TaskManager.queue, queue]
      exact List.sublist_cons_self _ _
  | clearInner empty =>
      exact order.of_same (setQueue_trace _ _ _) (setQueue_sublist (List.nil_sublist _))
  | setState t s cur => exact order.of_same rfl fun src => by rw [setCur_queue]
  | setActionState t a s cur act => exact order.of_same rfl fun src => by rw [setCur_queue]
  | pend t a cur running idle =>
      exact order.of_mark rfl (fun _ => ⟨rfl, rfl⟩) fun src => by rw [mark_queue, setCur_queue]
  | splice t cur => exact order.of_same rfl fun src => by rw [setCur_queue]
  | begin t a rest cur none actions =>
      exact order.of_mark rfl (fun _ => ⟨rfl, rfl⟩) fun src => by rw [mark_queue, setCur_queue]
  | finish t a cur act =>
      exact order.of_mark rfl (fun _ => ⟨rfl, rfl⟩) fun src => by rw [mark_queue, setCur_queue]
  | complete t cur empty => exact order.of_same rfl fun src => by rw [setCur_queue]
  | take src t rest cur queue source allowed fresh => exact startOrder_take order queue
  | merge t task rest cur queue fresh =>
      refine order.of_same (setQueue_trace _ _ _) fun src => ?_
      rw [setCur_queue]
      refine setQueue_sublist ?_ src
      rw [TaskManager.queue, queue]
      exact List.sublist_cons_self _ _

theorem startOrder_drop {m n : TaskManager} (drop : Drop m n) (order : StartOrder m) :
    StartOrder n := by
  cases drop with
  | preempt t cur other waiting =>
      apply order.of_other _ rfl discards_other
      intro src
      cases src <;> exact List.Sublist.refl _
  | reset =>
      apply order.of_other _ rfl discards_other
      intro src
      cases src <;> exact List.nil_sublist _

/-! ## The scheduling invariant -/

/-- **What holds after every event of every run.**  The current task is null or paused on a
wait; no IMA task is queued; AMS tasks queue only behind a paused AMS task; after
`OnNewTask` or `Process` an initialized manager without a current task has no IMSA
task queued; an IMSA action is begun while `inited_` is false only when the last
`SetInited` call was `SetInited(false)` made while an IMSA task was current; and
IMSA tasks start in the order in which they were posted. -/
theorem scheduling_invariant (es : List Event) :
    let m := Lib.run step {} es
    (∀ t, m.curTask = some t → t.state = .paused ∧
      ∃ a, t.curAction = some a ∧ a.isWait = true ∧ a.state = .paused) ∧
    m.imaTasks = [] ∧
    (m.amsTasks ≠ [] → ∃ t, m.curTask = some t ∧ t.getSourceType = .ams ∧ t.state = .paused) ∧
    (∀ ev, (ev = .process ∨ ∃ t, ev = .newTask t) → (m.step ev).inited = true →
      (m.step ev).curTask = none → (m.step ev).imsaTasks = []) ∧
    (∀ oid earlier, (.execute oid .imsa false :: earlier) <:+ m.trace → RevokedIn earlier) ∧
    List.Sublist (starts .imsa m.trace) (arrivals .imsa m.trace) := by
  intro m
  have inv : Inv m := run_inv es
  have guarded : Gate m ∧ GuardedBegins m.trace :=
    history_keeps (P := fun m => Gate m ∧ GuardedBegins m.trace) (fun _ _ => guardedBegins_move)
      (fun _ _ => guardedBegins_drop) guardedBegins_arrive (run_history es)
      ⟨.of_none rfl, by simp [GuardedBegins]⟩
  have order : StartOrder m :=
    history_keeps (P := StartOrder) (fun _ _ => startOrder_move) (fun _ _ => startOrder_drop)
      (fun _ t order => startOrder_arrive order t.task) (run_history es)
      (fun src => by cases src <;> simp [starts, TaskManager.queue])
  refine ⟨fun t cur => ?_, inv.ima, fun left => ?_, fun ev kind => ?_, guarded.2, ?_⟩
  · exact ⟨(inv.base.cur t cur).state, (inv.base.cur t cur).wait⟩
  · obtain ⟨t, cur, source⟩ := Option.map_eq_some_iff.1 (inv.ams left)
    exact ⟨t, cur, source, (inv.base.cur t cur).state⟩
  · rcases kind with rfl | ⟨t, rfl⟩
    · exact (process_spec inv.base (by simp [inv.ima])).imsa
    · exact (process_spec (arrive_base inv.base t) (arrive_ima_single inv.ima t.task)).imsa
  · exact (List.sublist_append_left _ _).trans (order .imsa)

/-- The flag gates the start of an IMSA task, not its later actions: `SetInited(false)`
while an IMSA task is paused, then the completion of its wait, begins its second
action with `inited_` false. -/
theorem imsa_action_begun_uninited :
    ¬ ∀ (es : List Event) (oid : Nat), .execute oid .imsa false ∉ (Lib.run step {} es).trace := by
  intro never
  refine never [.setInited true, .newTask (.of .imsaStartInput 100
    [.newWait 1 50 1000 51 .done .done, .new 2 .done] (by decide) imsaStartInput_outer),
    .setInited false, .newTask (.resume 50)] 2 ?_
  decide +kernel

end Imf.Ability
