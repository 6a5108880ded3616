/-
# Imf.Usage.Rollback -- what a failed operation of the store leaves behind

The operations of `ime_usage_data_helper.cpp` statement by statement: each changes the rows and the
next id in place, writes everything to the file and, when that fails, takes its own change back, by
popping a row, by restoring a copy, or not at all.  Every one of them runs as the function that the
rest of the development uses (`perform_eq`), so that a failed one leaves no trace, except
`SaveReportState`, which keeps the time that it could not save (`failed_without_trace_iff`).  The
next operation that succeeds writes that time to the file (`unsaved_report_time_persisted`).
-/
import Imf.Usage.Reporter
import Imf.Lib.Run

namespace Imf.Usage.Rollback

set_option autoImplicit false

/-! ## The operations -/

/-- What `WriteEvents` is given. -/
structure Contents where
  events : List EventRow := []
  nextId : Int := 1
  lastReportTime : Nat := 0
  deriving DecidableEq

/-- The helper, and what was written to its file last. -/
structure State where
  helper : DataHelper := {}
  saved : Contents := {}
  deriving DecidableEq

def contents (s : DataHelper) : Contents :=
  { events := s.events, nextId := s.nextId, lastReportTime := s.lastReportTime }

/-- Assignments to the fields of the helper. -/
def assign (change : DataHelper → DataHelper) : StateM State Unit :=
  modify fun state => { state with helper := change state.helper }

def fields : StateM State DataHelper := do return (← get).helper

/-- `WriteEvents(events_, nextId_, lastReportTime_)`, with its outcome. -/
def writeEvents (written : Bool) : StateM State Bool := do
  if written then modify fun state => { state with saved := contents state.helper }
  return written

def addEvent (record : EventRecord) (durations : DurationMap) (written : Bool) : StateM State Bool := do
  if (← fields).ready = false then return false
  let row := makeRow (← fields).nextId record durations
  assign fun s => { s with nextId := s.nextId + 1 }
  assign fun s => { s with events := s.events ++ [row] }
  if (← writeEvents written) = false then
    assign fun s => { s with events := s.events.dropLast }
    assign fun s => { s with nextId := s.nextId - 1 }
    return false
  return true

/-- `erase(remove_if(..))`: the rows that are kept. -/
def eraseRows (keep : EventRow → Bool) : StateM State Unit :=
  assign fun s => { s with events := s.events.filter keep }

/-- A deletion: the rows it keeps are written, unless it removes none. -/
def delete (keep : EventRow → Bool) (written : Bool) : StateM State Bool := do
  if (← fields).ready = false then return false
  let oldSize := (← fields).events.length
  let eventsBackup := (← fields).events
  eraseRows keep
  if (← fields).events.length = oldSize then return true
  if (← writeEvents written) = false then
    assign fun s => { s with events := eventsBackup }
    return false
  return true

def deleteEventsByBundleAndStartIndex (bundleName : String) (startIndex : Int) (written : Bool) :
    StateM State Bool :=
  delete (fun row => !DataHelper.isFrom bundleName startIndex row) written

def deleteAndUpsertTransactional (bundleName : String) (startIndex : Int) (dayStartTime : Nat)
    (countRecord : EventRecord) (durations : DurationMap) (written : Bool) : StateM State Bool := do
  if (← fields).ready = false then return false
  let eventsBackup := (← fields).events
  let nextIdBackup := (← fields).nextId
  eraseRows fun row => !DataHelper.isFrom bundleName startIndex row
  assign fun s => s.upsertCountDurationLocked bundleName dayStartTime countRecord durations
  if (← writeEvents written) = false then
    assign fun s => { s with events := eventsBackup }
    assign fun s => { s with nextId := nextIdBackup }
    return false
  return true

def upsertCountDuration (bundleName : String) (dayStartTime : Nat) (countRecord : EventRecord)
    (durations : DurationMap) (written : Bool) : StateM State Bool := do
  if (← fields).ready = false then return false
  let eventsBackup := (← fields).events
  let nextIdBackup := (← fields).nextId
  assign fun s => s.upsertCountDurationLocked bundleName dayStartTime countRecord durations
  if (← writeEvents written) = false then
    assign fun s => { s with events := eventsBackup }
    assign fun s => { s with nextId := nextIdBackup }
    return false
  return true

def deleteEventsByTime (clearDataTime : Nat) (written : Bool) : StateM State Bool :=
  delete (fun row => !decide (row.happenTime < clearDataTime)) written

/-- The key is only logged. -/
def saveReportState (value : Nat) (written : Bool) : StateM State Bool := do
  if (← fields).ready = false then return false
  assign fun s => { s with lastReportTime := value }
  if (← writeEvents written) = false then return false
  return true

/-- A call of one of them, with the outcome of its write. -/
inductive Op where
  | addEvent (record : EventRecord) (durations : DurationMap) (written : Bool)
  | deleteEventsByBundleAndStartIndex (bundleName : String) (startIndex : Int) (written : Bool)
  | deleteAndUpsertTransactional (bundleName : String) (startIndex : Int) (dayStartTime : Nat)
      (countRecord : EventRecord) (durations : DurationMap) (written : Bool)
  | upsertCountDuration (bundleName : String) (dayStartTime : Nat) (countRecord : EventRecord)
      (durations : DurationMap) (written : Bool)
  | deleteEventsByTime (clearDataTime : Nat) (written : Bool)
  | saveReportState (value : Nat) (written : Bool)
  deriving DecidableEq

/-- What the call returns, `false` being `DB_FAILED`, and the state it leaves. -/
def perform (op : Op) (state : State) : Bool × State :=
  Id.run (StateT.run (match op with
    | .addEvent record durations written => addEvent record durations written
    | .deleteEventsByBundleAndStartIndex bundleName startIndex written =>
        deleteEventsByBundleAndStartIndex bundleName startIndex written
    | .deleteAndUpsertTransactional bundleName startIndex dayStartTime countRecord durations written =>
        deleteAndUpsertTransactional bundleName startIndex dayStartTime countRecord durations written
    | .upsertCountDuration bundleName dayStartTime countRecord durations written =>
        upsertCountDuration bundleName dayStartTime countRecord durations written
    | .deleteEventsByTime clearDataTime written => deleteEventsByTime clearDataTime written
    | .saveReportState value written => saveReportState value written) state)

/-! ## What they come to -/

/-- `AddEvent` with any durations; with none it is the `addEvent` of the store. -/
def added (s : DataHelper) (record : EventRecord) (durations : DurationMap) (written : Bool) :
    DataHelper × Bool :=
  if s.ready = false then (s, false)
  else if written then
    ({ s with events := s.events ++ [makeRow s.nextId record durations], nextId := s.nextId + 1 }, true)
  else (s, false)

/-- The function of the store that the operation is. -/
def Op.result (s : DataHelper) : Op → DataHelper × Bool
  | .addEvent record durations written => added s record durations written
  | .deleteEventsByBundleAndStartIndex bundleName startIndex written =>
      s.deleteEventsByBundleAndStartIndex bundleName startIndex written
  | .deleteAndUpsertTransactional bundleName startIndex dayStartTime countRecord durations written =>
      s.deleteAndUpsertTransactional bundleName startIndex dayStartTime countRecord durations written
  | .upsertCountDuration bundleName dayStartTime countRecord durations written =>
      s.upsertCountDuration bundleName dayStartTime countRecord durations written
  | .deleteEventsByTime clearDataTime written => s.deleteEventsByTime clearDataTime written
  | .saveReportState value written => s.saveReportState value written

/-- An upsert is in the rows and the next id alone. -/
@[simp] theorem upsertCountDurationLocked_ready (s : DataHelper) (b : String) (dayStartTime : Nat)
    (count : EventRecord) (durations : DurationMap) :
    (s.upsertCountDurationLocked b dayStartTime count durations).ready = s.ready := by
  unfold DataHelper.upsertCountDurationLocked
  dsimp only
  split <;> rfl

@[simp] theorem upsertCountDurationLocked_lastReportTime (s : DataHelper) (b : String)
    (dayStartTime : Nat) (count : EventRecord) (durations : DurationMap) :
    (s.upsertCountDurationLocked b dayStartTime count durations).lastReportTime = s.lastReportTime := by
  unfold DataHelper.upsertCountDurationLocked
  dsimp only
  split <;> rfl

/-- A filter that keeps the number of rows keeps the rows. -/
theorem filter_same_size {events : List EventRow} {keep : EventRow → Bool}
    (same : (events.filter keep).length = events.length) : events.filter keep = events :=
  List.filter_eq_self.2 (List.length_filter_eq_length_iff.1 same)

/-- The steps return and leave in memory what the function says; when they fail, the file has
nothing new. -/
def Runs (steps : StateM State Bool) (state : State) (result : DataHelper × Bool) : Prop :=
  ∃ saved, Id.run (StateT.run steps state) = (result.2, { helper := result.1, saved }) ∧
    (result.2 = false → saved = state.saved)

/-- A popped row and the id before it. -/
theorem addEvent_runs (record : EventRecord) (durations : DurationMap) (written : Bool)
    (state : State) :
    Runs (addEvent record durations written) state (added state.helper record durations written) := by
  obtain ⟨⟨ready, events, lastReportTime, nextId⟩, saved⟩ := state
  cases ready with
  | false => exact ⟨saved, rfl, fun _ => rfl⟩
  | true =>
      cases written with
      | false => exact ⟨saved, by simp [addEvent, fields, assign, writeEvents, added], fun _ => rfl⟩
      | true => exact ⟨_, rfl, by rintro ⟨⟩⟩

/-- A copy of the rows. -/
theorem delete_runs (keep : EventRow → Bool) (written : Bool) (state : State) :
    Runs (delete keep written) state
      (if state.helper.ready = false then (state.helper, false)
        else if (state.helper.events.filter keep).length = state.helper.events.length then
          (state.helper, true)
        else if written then ({ state.helper with events := state.helper.events.filter keep }, true)
        else (state.helper, false)) := by
  obtain ⟨⟨ready, events, lastReportTime, nextId⟩, saved⟩ := state
  cases ready with
  | false => exact ⟨saved, rfl, fun _ => rfl⟩
  | true =>
      by_cases same : (events.filter keep).length = events.length
      · refine ⟨saved, ?_, fun _ => rfl⟩
        simp [delete, eraseRows, fields, assign, filter_same_size same]
      · cases written with
        | false =>
            refine ⟨saved, ?_, fun _ => rfl⟩
            simp [delete, eraseRows, fields, assign, writeEvents, same]
        | true =>
            refine ⟨{ events := events.filter keep, nextId, lastReportTime }, ?_, by simp [same]⟩
            simp [delete, eraseRows, fields, assign, writeEvents, contents, same]

/-- A copy of the rows, and of the next id. -/
theorem deleteAndUpsertTransactional_runs (b : String) (startIndex : Int) (dayStartTime : Nat)
    (count : EventRecord) (durations : DurationMap) (written : Bool) (state : State) :
    Runs (deleteAndUpsertTransactional b startIndex dayStartTime count durations written) state
      (state.helper.deleteAndUpsertTransactional b startIndex dayStartTime count
        durations written) := by
  obtain ⟨⟨ready, events, lastReportTime, nextId⟩, saved⟩ := state
  cases ready with
  | false => exact ⟨saved, rfl, fun _ => rfl⟩
  | true =>
      cases written with
      | false =>
          refine ⟨saved, ?_, fun _ => rfl⟩
          simp [deleteAndUpsertTransactional, eraseRows, fields, assign, writeEvents,
            DataHelper.deleteAndUpsertTransactional]
      | true => exact ⟨_, rfl, by rintro ⟨⟩⟩

theorem upsertCountDuration_runs (b : String) (dayStartTime : Nat) (count : EventRecord)
    (durations : DurationMap) (written : Bool) (state : State) :
    Runs (upsertCountDuration b dayStartTime count durations written) state
      (state.helper.upsertCountDuration b dayStartTime count durations written) := by
  obtain ⟨⟨ready, events, lastReportTime, nextId⟩, saved⟩ := state
  cases ready with
  | false => exact ⟨saved, rfl, fun _ => rfl⟩
  | true =>
      cases written with
      | false =>
          refine ⟨saved, ?_, fun _ => rfl⟩
          simp [upsertCountDuration, fields, assign, writeEvents, DataHelper.upsertCountDuration]
      | true => exact ⟨_, rfl, by rintro ⟨⟩⟩

/-- No copy at all. -/
theorem saveReportState_runs (value : Nat) (written : Bool) (state : State) :
    Runs (saveReportState value written) state (state.helper.saveReportState value written) := by
  obtain ⟨⟨ready, events, lastReportTime, nextId⟩, saved⟩ := state
  cases ready with
  | false => exact ⟨saved, rfl, fun _ => rfl⟩
  | true =>
      cases written with
      | false => exact ⟨saved, rfl, fun _ => rfl⟩
      | true => exact ⟨_, rfl, by rintro ⟨⟩⟩

/-- **Step by step or at once.**  Every operation runs as its function. -/
theorem perform_eq (op : Op) (state : State) :
    ∃ saved, perform op state =
      ((op.result state.helper).2, { helper := (op.result state.helper).1, saved }) ∧
      ((op.result state.helper).2 = false → saved = state.saved) := by
  cases op with
  | addEvent record durations written => exact addEvent_runs record durations written state
  | deleteEventsByBundleAndStartIndex b startIndex written => exact delete_runs _ written state
  | deleteAndUpsertTransactional b startIndex dayStartTime count durations written =>
      exact deleteAndUpsertTransactional_runs b startIndex dayStartTime count durations written state
  | upsertCountDuration b dayStartTime count durations written =>
      exact upsertCountDuration_runs b dayStartTime count durations written state
  | deleteEventsByTime clearDataTime written => exact delete_runs _ written state
  | saveReportState value written => exact saveReportState_runs value written state

/-! ## Failures -/

/-- The condition: a report time is saved on a helper that is not ready, or it is the one that is
there. -/
def Op.Restores (s : DataHelper) : Op → Prop
  | .saveReportState value _ => s.ready = true → value = s.lastReportTime
  | _ => True

instance (s : DataHelper) : (op : Op) → Decidable (op.Restores s)
  | .addEvent .. => .isTrue trivial
  | .deleteEventsByBundleAndStartIndex .. => .isTrue trivial
  | .deleteAndUpsertTransactional .. => .isTrue trivial
  | .upsertCountDuration .. => .isTrue trivial
  | .deleteEventsByTime .. => .isTrue trivial
  | .saveReportState .. => inferInstanceAs (Decidable (_ → _))

/-- Where every branch that changes the helper succeeds. -/
theorem unchanged_of_failed {s new : DataHelper} {refused written : Prop} [Decidable refused]
    [Decidable written]
    (failed : (if refused then (s, false) else if written then (new, true) else (s, false)).2 = false) :
    (if refused then (s, false) else if written then (new, true) else (s, false)).1 = s := by
  by_cases first : refused
  · rw [if_pos first]
  · rw [if_neg first] at failed ⊢
    by_cases second : written
    · rw [if_pos second] at failed
      cases failed
    · rw [if_neg second]

/-- The same for a deletion, which also succeeds when it removes nothing. -/
theorem kept_of_failed {s new : DataHelper} {refused same written : Prop} [Decidable refused]
    [Decidable same] [Decidable written]
    (failed : (if refused then (s, false) else if same then (s, true) else if written then
      (new, true) else (s, false)).2 =
      false) :
    (if refused then (s, false) else if same then (s, true) else if written then (new, true)
      else (s, false)).1 = s := by
  by_cases first : refused
  · rw [if_pos first]
  · rw [if_neg first] at failed ⊢
    by_cases second : same
    · rw [if_pos second]
    · rw [if_neg second] at failed ⊢
      by_cases third : written
      · rw [if_pos third] at failed
        cases failed
      · rw [if_neg third]

/-- A function that fails has changed nothing, but for the report time. -/
theorem result_failed {op : Op} {s : DataHelper} (failed : (op.result s).2 = false) :
    (op.result s).1 = s ↔ op.Restores s := by
  cases op with
  | addEvent record durations written => exact iff_of_true (unchanged_of_failed failed) trivial
  | deleteEventsByBundleAndStartIndex b startIndex written =>
      exact iff_of_true (kept_of_failed failed) trivial
  | deleteAndUpsertTransactional b startIndex dayStartTime count durations written =>
      exact iff_of_true (unchanged_of_failed failed) trivial
  | upsertCountDuration b dayStartTime count durations written =>
      exact iff_of_true (unchanged_of_failed failed) trivial
  | deleteEventsByTime clearDataTime written => exact iff_of_true (kept_of_failed failed) trivial
  | saveReportState value written =>
      simp only [Op.result, DataHelper.saveReportState, Op.Restores]
      by_cases refused : s.ready = false
      · simp [refused]
      · rw [if_neg refused]
        constructor
        · intro same _
          exact congrArg DataHelper.lastReportTime same
        · intro restores
          rw [restores (by simpa using refused)]

/-- The operations one after the other. -/
def performAll (state : State) (ops : List Op) :
    State := Lib.run (fun state op => (perform op state).2) state ops

/-- **A failed operation leaves no trace exactly when it restores what it changed.**  For every
state and every operation that returns `DB_FAILED`: the rows, the next id and the report time are
what they were, and whatever operations follow, the file holds what it would hold without the failed
one, if and only if the operation is not a `SaveReportState` of a new time on a helper that is
ready. -/
theorem failed_without_trace_iff {op : Op} {state : State} (failed : (perform op state).1 = false) :
    ((perform op state).2.helper = state.helper ∧
        ∀ later, (performAll (perform op state).2 later).saved = (performAll state later).saved) ↔
      op.Restores state.helper := by
  obtain ⟨saved, performed, unsaved⟩ := perform_eq op state
  rw [performed] at failed ⊢
  have exactly := result_failed failed
  refine ⟨fun without => exactly.1 without.1, fun restores => ?_⟩
  have same := exactly.2 restores
  rw [same, unsaved failed]
  exact ⟨rfl, fun _ => rfl⟩

/-! ## Poles -/

/-- A row that could not be written. -/
theorem failed_insert_without_trace :
    (perform (.addEvent {} 0 false) {}).2.helper = ({} : State).helper ∧
      ∀ later, (performAll (perform (.addEvent {} 0 false) {}).2 later).saved =
        (performAll {} later).saved :=
  (failed_without_trace_iff (by decide)).2 trivial

/-- The report time 7 could not be saved and stays; the row that is written next takes it to the
file. -/
theorem unsaved_report_time_persisted :
    let failed := perform (.saveReportState 7 false) {}
    failed.1 = false ∧ failed.2.helper ≠ ({} : State).helper ∧
      (performAll failed.2 [.addEvent {} 0 true]).saved.lastReportTime = 7 ∧
      (performAll {} [.addEvent {} 0 true]).saved.lastReportTime = 0 := by
  decide

end Imf.Usage.Rollback
