/-
# Imf.Session.Restart -- restarts of the input method that are not lost

`AddRestartIme` counts the restarts that are asked for and posts a task for the first of them;
the task starts the input method, counts down and posts itself again while the count is
positive.  Calls and task run on different threads and meet in the counter under its mutex, so
each access of it is a step of its own here, and so is everything the task asks or posts.

The counter goes wrong in two ways.  A task that waits for an attach posts itself again and
ignores that this can fail, which leaves a count that nobody works off.  And a restart that is
asked for between a decision of the task and the reset that follows it is counted and then
forgotten.  `restart_not_lost` says that nothing else goes wrong (`Heeds`).

One session is modelled.  `waitAttachTimes` is a static of `IsAttachFinished`, which the tasks of
all sessions share; here it is a field, as it is while no other session's task waits or is done
waiting for an attach.
-/
import Imf.Lib.Run

namespace Imf.Restart

set_option autoImplicit false

open Lib (Meets run run_keeps)

/-! ## The system -/

def MAX_RESTART_TASKS : Int := 2

def MAX_SCB_START_COUNT : Nat := 2

def WAIT_ATTACH_FINISH_MAX_TIMES : Nat := 20

/-- What the running restart task does next. -/
inductive Stage where
  /-- Asks for the attach count. -/
  | begun
  /-- An attach is going on: reads `scbStartCount_`. -/
  | conflict
  /-- Discards the first start of the scene board: resets the counter. -/
  | discarding
  /-- Asks `IsAttachFinished`. -/
  | attached
  /-- Posts itself again to wait for the attach. -/
  | waiting
  /-- Asks `CanStartIme`. -/
  | deciding
  /-- The input method can be started: resets the counter. -/
  | starting
  /-- Counts down, after a start or without one. -/
  | counting (started : Bool)
  /-- Posts itself again for what is left. -/
  | again
  /-- That failed: resets the counter. -/
  | resetting
  deriving DecidableEq, Repr

/-- The counters of the session, the tasks on its handler, the calls of `AddRestartIme` by what
they do next, and what has happened: whether a post failed, and how many runs of the task have
ended since the oldest restart that has had no decision yet was asked for. -/
structure State where
  restartTasks : Int := 0
  scbStartCount : Nat := 0
  waitAttachTimes : Nat := 0
  pending : Nat := 0
  adding : Nat := 0
  posting : Nat := 0
  resetting : Nat := 0
  running : Option Stage := none
  failed : Bool := false
  outstanding : Option Nat := none
  deriving DecidableEq, Repr

/-- The steps.  `posted` is what `RestartIme` returns; `answer` is what the task is told: the
attach count is not zero, `CanStartIme`, or again what `RestartIme` returns. -/
inductive Turn where
  | scbStarted (isScbReboot dynamicStartIme : Bool)
  | addRestartIme
  | add
  | post (posted : Bool)
  | reset
  | begin
  | task (answer : Bool)
  deriving DecidableEq, Repr

namespace State

variable (s : State)

def increaseScbStartCount : State :=
  { s with scbStartCount := min (s.scbStartCount + 1) MAX_SCB_START_COUNT }

def resetRestartTasks : State := { s with restartTasks := 0 }

/-- `RestartIme`, with what it returns. -/
def restartIme (posted : Bool) : State :=
  if posted then { s with pending := s.pending + 1 } else { s with failed := true }

/-- A call of `OnScbStarted` up to its call of `AddRestartIme`. -/
def onScbStarted (isScbReboot dynamicStartIme : Bool) : State :=
  if dynamicStartIme then s
  else if isScbReboot then { s.increaseScbStartCount with adding := s.adding + 1 }
  else s

/-- A restart is asked for: from the second start of the scene board on it is to be heeded. -/
def ask : State :=
  if 2 ≤ s.scbStartCount then { s with outstanding := some (s.outstanding.getD 0) } else s

/-- The first access of the counter in `AddRestartIme`. -/
def add : State :=
  if s.adding = 0 then s
  else
    let s := { s.ask with adding := s.adding - 1 }
    if MAX_RESTART_TASKS ≤ s.restartTasks then s
    else
      let tasks := max s.restartTasks 0 + 1
      { s with restartTasks := tasks, posting := if tasks = 1 then s.posting + 1 else s.posting }

def post (posted : Bool) : State :=
  if s.posting = 0 then s
  else
    let s := { s with posting := s.posting - 1 }
    if posted then s.restartIme true else { s.restartIme false with resetting := s.resetting + 1 }

def reset : State :=
  if s.resetting = 0 then s else { s.resetRestartTasks with resetting := s.resetting - 1 }

/-- The handler takes up a pending task when none is running. -/
def begin : State :=
  if s.pending = 0 ∨ s.running.isSome then s
  else { s with pending := s.pending - 1, running := some .begun }

/-- The task ends without a decision. -/
def endTask : State := { s with running := none, outstanding := s.outstanding.map (· + 1) }

def task (answer : Bool) : State :=
  match s.running with
  | none => s
  | some .begun => { s with running := some (if answer then .conflict else .attached) }
  | some .conflict => { s with
      running := some (if s.scbStartCount ≤ 1 then .discarding else .attached) }
  | some .discarding => s.resetRestartTasks.endTask
  | some .attached =>
      if answer && decide (s.waitAttachTimes < WAIT_ATTACH_FINISH_MAX_TIMES) then
        { s with waitAttachTimes := s.waitAttachTimes + 1, running := some .waiting }
      else { s with waitAttachTimes := 0, running := some .deciding }
  | some .waiting => (s.restartIme answer).endTask
  | some .deciding =>
      { s with outstanding := none, running := some (if answer then .starting else .counting false) }
  | some .starting => { s.resetRestartTasks with running := some (.counting true) }
  | some (.counting _) =>
      let tasks := s.restartTasks - 1
      { s with restartTasks := tasks, running := if 0 < tasks then some .again else none }
  | some .again =>
      { s.restartIme answer with running := if answer then none else some .resetting }
  | some .resetting => { s.resetRestartTasks with running := none }

def step (s : State) : Turn → State
  | .scbStarted isScbReboot dynamicStartIme => s.onScbStarted isScbReboot dynamicStartIme
  | .addRestartIme => { s with adding := s.adding + 1 }
  | .add => s.add
  | .post posted => s.post posted
  | .reset => s.reset
  | .begin => s.begin
  | .task answer => s.task answer

/-- No call and no task is in progress. -/
def Idle : Prop := s.adding = 0 ∧ s.posting = 0 ∧ s.resetting = 0 ∧ s.running = none

instance : Decidable s.Idle := inferInstanceAs (Decidable (_ ∧ _))

/-- A task is pending or about to be posted. -/
def Covered : Prop := 0 < s.pending ∨ 0 < s.posting

instance : Decidable s.Covered := inferInstanceAs (Decidable (_ ∨ _))

/-- A positive count is worked off. -/
def Counted : Prop := s.Idle → 0 < s.restartTasks → 0 < s.pending

/-- A restart that is to be heeded is decided on by a task that is still to come: one is pending
when nothing is in progress, and no more than 21 runs of the task end before. -/
def Heeded : Prop := s.failed = false → ∀ ended ∈ s.outstanding, ended ≤ 21 ∧ (s.Idle → 0 < s.pending)

/-- No restart is asked for between a decision of the task and its reset, and the task that
waits is posted again, unless the count is not positive or a task is to come anyway. -/
def Heeds (s : State) : Turn → Prop
  | .add => 0 < s.adding → 2 ≤ s.scbStartCount → s.running = some .discarding ∨ s.running = some .starting →
      0 < s.restartTasks → s.Covered
  | .task posted => s.running = some .waiting → posted = false → 0 < s.restartTasks → s.Covered
  | _ => True

instance (turn : Turn) : Decidable (s.Heeds turn) := by
  cases turn <;> unfold Heeds <;> infer_instance

/-! ## The invariant -/

/-- The running task will decide or be posted again. -/
def Serving : Prop :=
  match s.running with
  | some .begun => True
  | some .conflict => True
  | some .attached => True
  | some .waiting => True
  | some .deciding => True
  | some .again => True
  | some (.counting _) => 2 ≤ s.restartTasks
  | _ => False

/-- How many runs of the task can have ended without a decision. -/
def limit : Nat :=
  match s.running with
  | some .deciding => WAIT_ATTACH_FINISH_MAX_TIMES + 1
  | some .waiting => s.waitAttachTimes
  | some .discarding => 0
  | _ => s.waitAttachTimes + 1

/-- Somebody will work off the count: a task to come, a reset to come, or the running task
unless it has just reset the counter itself. -/
def Owed : Prop :=
  s.Covered ∨ 0 < s.resetting ∨ (s.running.isSome = true ∧ s.running ≠ some (.counting true))

structure Inv : Prop where
  owed : 0 < s.restartTasks → s.Owed
  clean : s.failed = false → s.resetting = 0 ∧ s.running ≠ some .resetting
  second : s.outstanding.isSome = true → 2 ≤ s.scbStartCount
  ended : ∀ ended ∈ s.outstanding, ended ≤ s.limit
  served : s.failed = false → s.outstanding.isSome = true → s.Covered ∨ s.Serving
  waits : s.waitAttachTimes ≤ WAIT_ATTACH_FINISH_MAX_TIMES

variable {s}

theorem Inv.counted (inv : s.Inv) : s.Counted := by
  rintro ⟨-, posting, resetting, running⟩ positive
  rcases inv.owed positive with (pending | posts) | resets | ⟨runs, -⟩
  · exact pending
  · omega
  · omega
  · simp [running] at runs

theorem Inv.heeded (inv : s.Inv) : s.Heeded := by
  intro clean ended outstanding
  have limit : s.limit ≤ 21 := by
    have waits := inv.waits
    unfold WAIT_ATTACH_FINISH_MAX_TIMES at waits
    unfold State.limit WAIT_ATTACH_FINISH_MAX_TIMES
    split <;> omega
  refine ⟨Nat.le_trans (inv.ended ended outstanding) limit, ?_⟩
  rintro ⟨-, posting, -, running⟩
  rcases inv.served clean (Option.isSome_of_mem outstanding) with (pending | posts) | serving
  · exact pending
  · omega
  · simp [Serving, running] at serving

theorem Inv.initial : ({} : State).Inv := by
  constructor <;> simp [WAIT_ATTACH_FINISH_MAX_TIMES]

/-! ## Steps -/

theorem Inv.onScbStarted (inv : s.Inv) (isScbReboot dynamicStartIme : Bool) :
    (s.onScbStarted isScbReboot dynamicStartIme).Inv := by
  unfold State.onScbStarted
  split
  · exact inv
  · split
    · refine ⟨inv.owed, inv.clean, fun outstanding => ?_, inv.ended, inv.served, inv.waits⟩
      have second : 2 ≤ s.scbStartCount := inv.second outstanding
      show 2 ≤ min (s.scbStartCount + 1) 2
      omega
    · exact inv

/-- A restart that is asked for on top of a positive count is decided on by whoever works the
count off. -/
theorem Inv.covered_or_serving (inv : s.Inv) (clean : s.failed = false) (positive : 0 < s.restartTasks)
    (window : s.running = some .discarding ∨ s.running = some .starting → s.Covered) {tasks : Int}
    (two : 2 ≤ tasks) : s.Covered ∨ ({ s with restartTasks := tasks } : State).Serving := by
  obtain ⟨resets, stage⟩ := inv.clean clean
  rcases inv.owed positive with covered | resetting | ⟨runs, stays⟩
  · exact .inl covered
  · omega
  · obtain ⟨current, running⟩ := Option.isSome_iff_exists.1 runs
    rw [running] at stage stays window
    simp only [Serving, running]
    cases current with
    | begun => exact .inr trivial
    | conflict => exact .inr trivial
    | attached => exact .inr trivial
    | waiting => exact .inr trivial
    | deciding => exact .inr trivial
    | again => exact .inr trivial
    | counting started => exact .inr two
    | discarding => exact .inl (window (.inl rfl))
    | starting => exact .inl (window (.inr rfl))
    | resetting => exact absurd rfl stage

/-- The bound on what has ended does not depend on what a call changes. -/
theorem Inv.ended_ask (inv : s.Inv) : ∀ ended ∈ s.ask.outstanding, ended ≤ s.limit := by
  unfold ask
  split
  · rintro ended ⟨⟩
    cases known : s.outstanding with
    | none => exact Nat.zero_le _
    | some old => exact inv.ended old known
  · exact inv.ended

theorem second_ask (second : s.outstanding.isSome = true → 2 ≤ s.scbStartCount)
    (outstanding : s.ask.outstanding.isSome = true) : 2 ≤ s.scbStartCount := by
  unfold ask at outstanding
  split at outstanding
  · assumption
  · exact second outstanding

theorem ask_eq (s : State) : s.ask = { s with outstanding := s.ask.outstanding } := by
  unfold ask
  split <;> rfl

/-- Asking on top of a positive count. -/
theorem Inv.ask_counted (inv : s.Inv) (positive : 0 < s.restartTasks)
    (window : 2 ≤ s.scbStartCount → s.running = some .discarding ∨
      s.running = some .starting → s.Covered)
    (adding : Nat) {tasks : Int} (two : 2 ≤ tasks) :
    ({ s.ask with adding, restartTasks := tasks } : State).Inv := by
  rw [ask_eq]
  refine ⟨fun _ => inv.owed positive, inv.clean, second_ask inv.second, inv.ended_ask,
    fun clean asked => ?_,
    inv.waits⟩
  exact inv.covered_or_serving clean positive (window (second_ask inv.second asked)) two

theorem Inv.add (inv : s.Inv) (heeds : s.Heeds .add) : s.add.Inv := by
  unfold State.add
  split
  · exact inv
  · rename_i calls
    have window : 0 < s.restartTasks → 2 ≤ s.scbStartCount →
        s.running = some .discarding ∨ s.running = some .starting → s.Covered :=
      fun positive second stage => heeds (Nat.pos_of_ne_zero calls) second stage positive
    have tasks : s.ask.restartTasks = s.restartTasks := by rw [ask_eq]
    dsimp only
    rw [tasks]
    unfold MAX_RESTART_TASKS
    split
    · rename_i full
      exact inv.ask_counted (by omega) (window (by omega)) (s.adding - 1) full
    · by_cases positive : 0 < s.restartTasks
      · have two : max s.restartTasks 0 + 1 = 2 := by omega
        rw [two, if_neg (by decide)]
        exact inv.ask_counted positive (window positive) (s.adding - 1) (Int.le_refl 2)
      · -- The first restart of a count is posted by its own call.
        have one : max s.restartTasks 0 + 1 = 1 := by omega
        rw [one, if_pos rfl, ask_eq]
        refine ⟨fun _ => .inl (.inr (Nat.succ_pos _)), inv.clean, second_ask inv.second, inv.ended_ask,
          fun _ _ => .inl (.inr (Nat.succ_pos _)), inv.waits⟩

theorem Inv.post (inv : s.Inv) (posted : Bool) : (s.post posted).Inv := by
  unfold State.post
  split
  · exact inv
  · dsimp only
    cases posted with
    | true =>
        -- What was about to be posted is pending now.
        have covered : ({ s with
          posting := s.posting - 1, pending := s.pending + 1 } : State).Covered :=
          .inl (Nat.succ_pos _)
        exact ⟨fun _ => .inl covered, inv.clean, inv.second, inv.ended,
          fun _ _ => .inl covered, inv.waits⟩
    | false =>
        refine ⟨fun _ => .inr (.inl (Nat.succ_pos _)), ?_, inv.second, inv.ended, ?_, inv.waits⟩
        · intro clean
          simp [restartIme] at clean
        · intro clean
          simp [restartIme] at clean

theorem Inv.reset (inv : s.Inv) : s.reset.Inv := by
  unfold State.reset
  split
  · exact inv
  · rename_i resets
    refine ⟨fun positive => ?_, fun clean => ?_, inv.second, inv.ended, fun clean => ?_, inv.waits⟩
    · simp [resetRestartTasks] at positive
    · exact absurd (inv.clean clean).1 resets
    · exact absurd (inv.clean clean).1 resets

theorem Inv.begin (inv : s.Inv) : s.begin.Inv := by
  unfold State.begin
  split
  · exact inv
  · rename_i starts
    have idle : s.running = none := by simpa using (not_or.1 starts).2
    refine ⟨fun _ => ?_,
      fun clean => ?_, inv.second, fun ended outstanding => ?_, fun _ _ => .inr trivial,
      inv.waits⟩
    · exact .inr (.inr ⟨rfl, by simp⟩)
    · exact ⟨(inv.clean clean).1, by simp⟩
    · have bound := inv.ended ended outstanding
      simpa [limit, idle] using bound

/-- The task goes on to a stage from which it decides or is posted again. -/
theorem Inv.advance (inv : s.Inv) {stage : Stage} (other : stage ≠ .counting true ∧ stage ≠ .resetting)
    (limit : s.limit ≤ ({ s with running := some stage } : State).limit)
    (serving : ({ s with running := some stage } : State).Serving) :
    ({ s with running := some stage } : State).Inv where
  owed _ := .inr (.inr ⟨rfl, by simpa using other.1⟩)
  clean clean := ⟨(inv.clean clean).1, by simpa using other.2⟩
  second := inv.second
  ended ended outstanding := Nat.le_trans (inv.ended ended outstanding) limit
  served _ _ := .inr serving
  waits := inv.waits

theorem Inv.discard (inv : s.Inv) (running : s.running = some .discarding) :
    s.resetRestartTasks.endTask.Inv := by
  refine ⟨fun positive => ?_,
    fun clean => ⟨(inv.clean clean).1, by simp [endTask]⟩, fun outstanding => ?_,
    fun ended outstanding => ?_, fun clean outstanding => ?_, inv.waits⟩
  · simp [endTask, resetRestartTasks] at positive
  · exact inv.second (by simpa [endTask, resetRestartTasks] using outstanding)
  · obtain ⟨before, old, rfl⟩ := Option.map_eq_some_iff.1 outstanding
    have bound := inv.ended before old
    simp only [limit, running] at bound
    simp [limit, endTask, resetRestartTasks]
    omega
  · have still := inv.served clean (by simpa [endTask, resetRestartTasks] using outstanding)
    simp only [Serving, running, or_false] at still
    exact .inl still

theorem Inv.wait (inv : s.Inv) (running : s.running = some .waiting) (answer : Bool)
    (heeds : answer = false → 0 < s.restartTasks → s.Covered) : (s.restartIme answer).endTask.Inv := by
  have ended : ∀ ended ∈ s.outstanding.map (· + 1), ended ≤ s.waitAttachTimes + 1 := by
    intro ended outstanding
    obtain ⟨before, old, rfl⟩ := Option.map_eq_some_iff.1 outstanding
    have bound := inv.ended before old
    simp only [limit, running] at bound
    omega
  have second : (s.outstanding.map (· + 1)).isSome = true → 2 ≤ s.scbStartCount := by
    rw [Option.isSome_map]
    exact inv.second
  cases answer with
  | true =>
      have covered : (s.restartIme true).endTask.Covered := .inl (Nat.succ_pos _)
      exact ⟨fun _ => .inl covered,
        fun clean => ⟨(inv.clean clean).1, by simp [endTask]⟩, second, ended,
        fun _ _ => .inl covered, inv.waits⟩
  | false =>
      refine ⟨fun positive => .inl (heeds rfl positive),
        fun clean => ?_, second, ended, fun clean => ?_, inv.waits⟩
      · simp [endTask, restartIme] at clean
      · simp [endTask, restartIme] at clean

theorem Inv.attach (inv : s.Inv) (running : s.running = some .attached) (answer : Bool) :
    (s.task answer).Inv := by
  have bound := inv.waits
  simp only [State.task, running]
  split
  · rename_i waits
    simp only [Bool.and_eq_true, decide_eq_true_eq] at waits
    refine ⟨fun _ => .inr (.inr ⟨rfl, by simp⟩),
      fun clean => ⟨(inv.clean clean).1, by simp⟩, inv.second, ?_,
      fun _ _ => .inr trivial, waits.2⟩
    simpa only [limit, running] using inv.ended
  · refine ⟨fun _ => .inr (.inr ⟨rfl, by simp⟩),
      fun clean => ⟨(inv.clean clean).1, by simp⟩, inv.second, ?_,
      fun _ _ => .inr trivial, Nat.zero_le _⟩
    intro ended outstanding
    have old := inv.ended ended outstanding
    simp only [limit, running] at old ⊢
    omega

theorem Inv.decide (inv : s.Inv) (answer : Bool) :
    ({ s with outstanding := none, running := some (if answer then .starting else .counting false) } :
      State).Inv := by
  refine ⟨fun _ => .inr (.inr ⟨rfl, ?_⟩),
    fun clean => ⟨(inv.clean clean).1, ?_⟩, by simp, by simp, by simp, inv.waits⟩
  · cases answer <;> simp
  · cases answer <;> simp

/-- After its own reset the count is what others have posted for. -/
theorem Inv.start (inv : s.Inv) (running : s.running = some .starting) :
    ({ s.resetRestartTasks with running := some (.counting true) } : State).Inv := by
  refine ⟨fun positive => ?_,
    fun clean => ⟨(inv.clean clean).1, by simp⟩, inv.second, ?_, fun clean outstanding => ?_,
    inv.waits⟩
  · simp [resetRestartTasks] at positive
  · simpa only [limit, running, resetRestartTasks] using inv.ended
  · have still := inv.served clean outstanding
    simp only [Serving, running, or_false] at still
    exact .inl still

theorem Inv.count (inv : s.Inv) {started : Bool} (running : s.running = some (.counting started)) :
    ({ s with
        restartTasks := s.restartTasks - 1
        running := if 0 < s.restartTasks - 1 then some .again else none } : State).Inv := by
  by_cases left : 0 < s.restartTasks - 1
  · rw [if_pos left]
    refine ⟨fun _ => .inr (.inr ⟨rfl, by simp⟩),
      fun clean => ⟨(inv.clean clean).1, by simp⟩, inv.second, ?_,
      fun _ _ => .inr trivial, inv.waits⟩
    simpa only [limit, running] using inv.ended
  · rw [if_neg left]
    refine ⟨fun positive => absurd positive left,
      fun clean => ⟨(inv.clean clean).1, by simp⟩, inv.second, ?_,
      fun clean outstanding => ?_, inv.waits⟩
    · simpa only [limit, running] using inv.ended
    · rcases inv.served clean outstanding with covered | serving
      · exact .inl covered
      · simp only [Serving, running] at serving
        omega

theorem Inv.again (inv : s.Inv) (running : s.running = some .again) (answer : Bool) :
    ({ s.restartIme answer with running := if answer then none else some .resetting } : State).Inv := by
  cases answer with
  | true =>
      refine ⟨fun _ => .inl (.inl (Nat.succ_pos _)),
        fun clean => ⟨(inv.clean clean).1, by simp⟩, inv.second, ?_,
        fun _ _ => .inl (.inl (Nat.succ_pos _)), inv.waits⟩
      simpa [limit, running, restartIme] using inv.ended
  | false =>
      refine ⟨fun _ => .inr (.inr ⟨rfl, by simp⟩),
        fun clean => ?_, inv.second, ?_, fun clean => ?_, inv.waits⟩
      · simp [restartIme] at clean
      · simpa [limit, running, restartIme] using inv.ended
      · simp [restartIme] at clean

theorem Inv.resetTask (inv : s.Inv) (running : s.running = some .resetting) :
    ({ s.resetRestartTasks with running := none } : State).Inv := by
  refine ⟨fun positive => ?_, fun clean => absurd running (inv.clean clean).2, inv.second, ?_,
    fun clean => absurd running (inv.clean clean).2, inv.waits⟩
  · simp [resetRestartTasks] at positive
  · simpa only [limit, running, resetRestartTasks] using inv.ended

theorem Inv.task (inv : s.Inv) (answer : Bool) (heeds : s.Heeds (.task answer)) :
    (s.task answer).Inv := by
  cases running : s.running with
  | none => simpa only [State.task, running] using inv
  | some stage =>
      cases stage with
      | begun =>
          simp only [State.task, running]
          cases answer with
          | true => exact inv.advance ⟨by simp, by simp⟩ (by simp [limit, running]) trivial
          | false => exact inv.advance ⟨by simp, by simp⟩ (by simp [limit, running]) trivial
      | conflict =>
          simp only [State.task, running]
          split
          · -- Nobody is to be heeded yet.
            rename_i first
            have nobody : s.outstanding = none := by
              cases known : s.outstanding with
              | none => rfl
              | some old =>
                  have second := inv.second (by rw [known, Option.isSome_some])
                  omega
            exact ⟨fun _ => .inr (.inr ⟨rfl, by simp⟩),
              fun clean => ⟨(inv.clean clean).1, by simp⟩, inv.second,
              by simp [nobody], by simp [nobody], inv.waits⟩
          · exact inv.advance ⟨by simp, by simp⟩ (by simp [limit, running]) trivial
      | discarding =>
          simp only [State.task, running]
          exact inv.discard running
      | attached => exact inv.attach running answer
      | waiting =>
          simp only [State.task, running]
          exact inv.wait running answer (heeds running)
      | deciding =>
          simp only [State.task, running]
          exact inv.decide answer
      | starting =>
          simp only [State.task, running]
          exact inv.start running
      | counting started =>
          simp only [State.task, running]
          exact inv.count running
      | again =>
          simp only [State.task, running]
          exact inv.again running answer
      | resetting =>
          simp only [State.task, running]
          exact inv.resetTask running

theorem Inv.step (inv : s.Inv) (turn : Turn) (heeds : s.Heeds turn) : (s.step turn).Inv := by
  cases turn with
  | scbStarted isScbReboot dynamicStartIme => exact inv.onScbStarted isScbReboot dynamicStartIme
  | addRestartIme => exact ⟨inv.owed, inv.clean, inv.second, inv.ended, inv.served, inv.waits⟩
  | add => exact inv.add heeds
  | post posted => exact inv.post posted
  | reset => exact inv.reset
  | begin => exact inv.begin
  | task answer => exact inv.task answer heeds

end State

open State

/-- **No restart is lost or wedged**, in every state of a run in which no restart is asked for
on top of a count that the task is about to forget, and the task that waits is posted again:
a positive count with nothing in progress has a task pending, and so has, unless a post failed,
every restart that was asked for from the second start of the scene board on, until a task
decides on it, which is no more than 21 tasks later. -/
theorem restart_not_lost (turns : List Turn) (heeds : Meets step Heeds {} turns) :
    (run step {} turns).Counted ∧ (run step {} turns).Heeded := by
  have inv : (run step {} turns).Inv :=
    run_keeps (fun s turn (inv : s.Inv) heeds => inv.step turn heeds) Inv.initial heeds
  exact ⟨inv.counted, inv.heeded⟩

/-! ## Poles -/

/-- Two starts of the scene board, a task that waits once for an attach and then starts the
input method, and the task for nothing that is left. -/
def secondStart : List Turn :=
  [.scbStarted true false, .add, .post true, .scbStarted true false, .begin, .task true,
    .task false, .task true,
    .add, .task true, .begin, .task false, .task false, .task true, .task false, .task false]

theorem second_start_heeded :
    Meets step Heeds {} secondStart ∧ (run step {} secondStart).Counted ∧
      (run step {} secondStart).Heeded :=
  ⟨by decide, restart_not_lost secondStart (by decide)⟩

/-- A task waits for an attach and cannot be posted again. -/
def waitUnposted : List Turn :=
  [.scbStarted true false, .add, .post true, .scbStarted true false, .begin, .task true,
    .task false, .task true,
    .add, .task false]

/-- The second start of the scene board falls between the task's look at the start count and
its reset. -/
def discardedStart : List Turn :=
  [.scbStarted true false, .add, .post true, .begin, .task true, .task false,
    .scbStarted true false, .add,
    .task false]

/-- The count is wedged by the first run, and the second loses a restart without any failure. -/
theorem restart_wedged_and_lost :
    ¬ (∀ turns, (run step {} turns).Counted) ∧ ¬ ∀ turns, (run step {} turns).Heeded := by
  constructor
  · intro all
    have counted := all waitUnposted (by decide) (by decide)
    revert counted
    decide
  · intro all
    have heeded := (all discardedStart (by decide) 1 (by decide)).2 (by decide)
    revert heeded
    decide

end Imf.Restart
