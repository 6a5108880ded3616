/-
# Imf.Usage.Retention -- what a daily report deletes

The calls of `ReportSingleDay` that a run of `InnerReportDailyEvent` makes (`dayReports`),
for any outcome of its writes, and what the cleanup at its end may delete.
`ReportUnreportedDays` drops the results of its calls and the report time moves to
yesterday's end before the cleanup, so that the cleanup never finds a day to report
(`expiringDays_nil`) and deletes what is older than three days whether it was sent or
not.  `cleanup_after_report` proves that nothing unreported is deleted in runs whose
writes succeed; `failed_day_deleted` is the run of one failing write.
-/
import Imf.Usage.Days
import Imf.Lib.Run

namespace Imf.Usage

set_option autoImplicit false

open DataHelper

/-! ## The calls of a run -/

/-- A call of `ReportSingleDay`: the rows that `QueryStatisticEventsInPeriod` counts for
the day, the events created for it, and whether each of them was written. -/
structure DayReport where
  day : Nat
  rows : List EventRow
  infos : List UsageInfo
  written : Bool
  deriving DecidableEq

def dayReport (s : DataHelper) (sent : Nat → UsageInfo → Bool) (day : Nat) : DayReport :=
  { day := day
    rows := s.events.filter (inPeriod day (day + millisecsPerDay - 1))
    infos := s.getUsageInfo day (day + millisecsPerDay - 1)
    written := (reportSingleDay s (sent day) day).2 }

section Calls

variable (dayStart : Nat → Nat)

namespace Reporter

/-- The days of `ReportUnreportedDays`. -/
def unreportedDays (r : Reporter) (reportDayStart yesterdayEnd : Nat) : List Nat :=
  if reportDayStart > yesterdayEnd then []
  else r.recorder.store.queryActiveDays dayStart reportDayStart yesterdayEnd

/-- The days of `ReportAndCleanupOldData`. -/
def expiringDays (r : Reporter) (clearDataTime : Nat) : List Nat :=
  let reportEnd := if clearDataTime > 0 then clearDataTime - 1 else 0
  let unreportedStart :=
    if r.lastReportTime = reportTimeNever then 0
    else if r.lastReportTime + 1 > reportEnd then reportEnd + 1
    else r.lastReportTime + 1
  r.recorder.store.queryActiveDays dayStart unreportedStart reportEnd

/-- The calls of `ReportSingleDay` in `InnerReportDailyEvent`, in their order. -/
def dayReports (r : Reporter) (today0Time : Nat) (writes : ReportWrites) : List DayReport :=
  match r.calcReportDayStart dayStart with
  | none => []
  | some reportDayStart =>
      let yesterdayEnd := if today0Time > 0 then today0Time - 1 else 0
      let clearDataTime :=
        if today0Time > millisecsPerDay * dataKeepDay then today0Time - millisecsPerDay * dataKeepDay
        else 0
      let saved := r.updateAndPersistReportTime yesterdayEnd writes.saved
      (r.unreportedDays dayStart reportDayStart yesterdayEnd).map
          (dayReport r.recorder.store writes.sent) ++
        if clearDataTime > 0 then
          (saved.expiringDays dayStart clearDataTime).map (dayReport saved.recorder.store writes.sent)
        else []

end Reporter

end Calls

section Runs

variable {dayStart : Nat → Nat}

theorem queryActiveDays_period {s : DataHelper} {startTime endTime d : Nat}
    (active : d ∈ s.queryActiveDays dayStart startTime endTime) :
    ∃ row ∈ s.events, startTime ≤ row.happenTime ∧ row.happenTime ≤ endTime ∧
      dayStart row.happenTime = d := by
  by_cases ready : s.ready = true
  · exact (mem_queryActiveDays ready).1 active
  · simp [queryActiveDays, ready] at active

/-- The report time is past every row that the cleanup deletes: it has no day to report. -/
theorem Reporter.expiringDays_nil {r : Reporter} {clearDataTime : Nat}
    (known : r.lastReportTime ≠ reportTimeNever) (past : clearDataTime ≤ r.lastReportTime) :
    r.expiringDays dayStart clearDataTime = [] := by
  apply List.eq_nil_iff_forall_not_mem.2
  intro d active
  obtain ⟨row, -, low, high, -⟩ := queryActiveDays_period active
  rw [if_neg known] at low
  split at low <;> split at high <;> split at low <;> omega

/-- The days since the last report are the active days up to yesterday's end. -/
theorem Reporter.unreportedDays_eq (r : Reporter) (reportDayStart yesterdayEnd : Nat) :
    r.unreportedDays dayStart reportDayStart yesterdayEnd =
      r.recorder.store.queryActiveDays dayStart reportDayStart yesterdayEnd := by
  unfold Reporter.unreportedDays
  split
  · rename_i empty
    symm
    apply List.eq_nil_iff_forall_not_mem.2
    intro d active
    obtain ⟨row, -, low, high, -⟩ := queryActiveDays_period active
    omega
  · rfl

/-- What a cleanup leaves: it removes rows from before its time, and no others. -/
structure Trimmed (clearDataTime : Nat) (s s' : DataHelper) : Prop where
  ready : s'.ready = s.ready
  kept : ∀ row ∈ s'.events, row ∈ s.events
  deleted : ∀ row ∈ s.events, row ∉ s'.events → row.happenTime < clearDataTime

theorem trimmed_of_events {clearDataTime : Nat} {s s' : DataHelper} (ready : s'.ready = s.ready)
    (events : s'.events = s.events) : Trimmed clearDataTime s s' := by
  refine ⟨ready, ?_, ?_⟩
  · rw [events]
    exact fun row member => member
  · rw [events]
    exact fun row member gone => absurd member gone

theorem saveReportState_trimmed (s : DataHelper) (value : Nat) (written : Bool) (clearDataTime : Nat) :
    Trimmed clearDataTime s (s.saveReportState value written).1 := by
  unfold saveReportState
  split <;> exact trimmed_of_events rfl rfl

theorem deleteEventsByTime_trimmed (s : DataHelper) (clearDataTime : Nat) (written : Bool) :
    Trimmed clearDataTime s (s.deleteEventsByTime clearDataTime written).1 := by
  unfold deleteEventsByTime
  dsimp only
  split_ifs
  · exact trimmed_of_events rfl rfl
  · exact trimmed_of_events rfl rfl
  · refine ⟨rfl, fun row member => (List.mem_filter.1 member).1, fun row member gone => ?_⟩
    by_contra late
    exact gone (List.mem_filter.2 ⟨member, by simpa using late⟩)
  · exact trimmed_of_events rfl rfl

theorem Trimmed.trans {clearDataTime : Nat} {s s' s'' : DataHelper}
    (first : Trimmed clearDataTime s s') (second : Trimmed clearDataTime s' s'') :
    Trimmed clearDataTime s s'' := by
  refine ⟨second.ready.trans first.ready, fun row member => first.kept row (second.kept row member),
    fun row member gone => ?_⟩
  by_cases here : row ∈ s'.events
  · exact second.deleted row here gone
  · exact first.deleted row member here

theorem Reporter.reportAndCleanupOldData_spec (r : Reporter) (clearDataTime : Nat)
    (sent : Nat → UsageInfo → Bool) (written : Bool) :
    let r' := r.reportAndCleanupOldData dayStart clearDataTime sent written
    Trimmed clearDataTime r.recorder.store r'.recorder.store ∧ r'.lastReportTime = r.lastReportTime ∧
      r'.reported = r.reported ++
        (reportDays r.recorder.store sent (r.expiringDays dayStart clearDataTime)).1 := by
  intro r'
  let ran := reportDays r.recorder.store sent (r.expiringDays dayStart clearDataTime)
  cases all : ran.2 with
  | true =>
      have deletes : r' =
          { r with
            recorder := { r.recorder with
              store := (r.recorder.store.deleteEventsByTime clearDataTime written).1 }
            reported := r.reported ++ ran.1 } := if_pos all
      rw [deletes]
      exact ⟨deleteEventsByTime_trimmed _ _ _, rfl, rfl⟩
  | false =>
      have keeps : r' = { r with reported := r.reported ++ ran.1 } := if_neg (Bool.eq_false_iff.1 all)
      rw [keeps]
      exact ⟨trimmed_of_events rfl rfl, rfl, rfl⟩

theorem Reporter.reportUnreportedDays_recorder (r : Reporter) (reportDayStart yesterdayEnd : Nat)
    (sent : Nat → UsageInfo → Bool) :
    (r.reportUnreportedDays dayStart reportDayStart yesterdayEnd sent).recorder = r.recorder := by
  unfold Reporter.reportUnreportedDays
  split <;> rfl

/-- What a run does that has something to report: it calls `ReportSingleDay` for the active
days up to yesterday's end, whatever these calls return, moves the report time there, and
deletes at most the rows that are older than it keeps. -/
structure Reporter.Ran (dayStart : Nat → Nat) (r : Reporter) (reportDayStart today0 : Nat)
    (writes : ReportWrites) (r' : Reporter) : Prop where
  calls : r.dayReports dayStart today0 writes =
    (r.recorder.store.queryActiveDays dayStart reportDayStart (today0 - 1)).map
      (dayReport r.recorder.store writes.sent)
  time : r'.lastReportTime = today0 - 1
  store : Trimmed (today0 - millisecsPerDay * dataKeepDay) r.recorder.store r'.recorder.store

theorem Reporter.innerReportDailyEvent_ran {r : Reporter} {reportDayStart : Nat}
    (found : r.calcReportDayStart dayStart = some reportDayStart) (today0 : Nat)
    (writes : ReportWrites) :
    r.Ran dayStart reportDayStart today0 writes (r.innerReportDailyEvent dayStart today0 writes) := by
  obtain ⟨yesterday, clear⟩ := report_bounds today0
  have saved : ∀ c, Trimmed c r.recorder.store
      ((r.reportUnreportedDays dayStart reportDayStart (today0 - 1)
        writes.sent).updateAndPersistReportTime (today0 - 1) writes.saved).recorder.store := by
    intro c
    unfold Reporter.updateAndPersistReportTime
    rw [Reporter.reportUnreportedDays_recorder]
    exact saveReportState_trimmed _ _ _ c
  by_cases old : today0 - millisecsPerDay * dataKeepDay > 0
  · have none : (r.updateAndPersistReportTime (today0 - 1) writes.saved).expiringDays dayStart
        (today0 - millisecsPerDay * dataKeepDay) = [] := by
      have positive : 0 < millisecsPerDay * dataKeepDay := by decide
      apply Reporter.expiringDays_nil
      · show today0 - 1 ≠ reportTimeNever
        unfold reportTimeNever
        omega
      · show today0 - millisecsPerDay * dataKeepDay ≤ today0 - 1
        omega
    constructor
    · simp only [Reporter.dayReports, found, yesterday, clear, old, if_true, none, List.map_nil,
        List.append_nil, Reporter.unreportedDays_eq]
    · simp only [Reporter.innerReportDailyEvent, found, yesterday, clear, old, if_true,
        Reporter.reportAndCleanupOldData_spec]
      rfl
    · simp only [Reporter.innerReportDailyEvent, found, yesterday, clear, old, if_true]
      exact (saved _).trans (Reporter.reportAndCleanupOldData_spec _ _ _ _).1
  · constructor
    · simp only [Reporter.dayReports, found, yesterday, clear, old, if_false, List.append_nil,
        Reporter.unreportedDays_eq]
    · simp only [Reporter.innerReportDailyEvent, found, yesterday, clear, old, if_false]
      rfl
    · simp only [Reporter.innerReportDailyEvent, found, yesterday, clear, old, if_false]
      exact saved _

/-- Without a day to start from a run does nothing. -/
theorem Reporter.innerReportDailyEvent_idle {r : Reporter}
    (idle : r.calcReportDayStart dayStart = none) (today0 : Nat) (writes : ReportWrites) :
    r.innerReportDailyEvent dayStart today0 writes = r ∧ r.dayReports dayStart today0 writes = [] := by
  simp [Reporter.innerReportDailyEvent, Reporter.dayReports, idle]

end Runs

/-! ## Reports over many runs -/

/-- The reporter with the calls of `ReportSingleDay` it has made. -/
structure ReportLog where
  reporter : Reporter := {}
  calls : List DayReport := []
  deriving DecidableEq

/-- A run of `InnerReportDailyEvent` at a midnight, or what was recorded since. -/
inductive ReportStep where
  | report (today0Time : Nat) (writes : ReportWrites)
  | record (store : DataHelper)

namespace ReportLog

def store (l : ReportLog) : DataHelper := l.reporter.recorder.store

def step (dayStart : Nat → Nat) (l : ReportLog) : ReportStep → ReportLog
  | .report today0Time writes =>
      { reporter := l.reporter.innerReportDailyEvent dayStart today0Time writes
        calls := l.calls ++ l.reporter.dayReports dayStart today0Time writes }
  | .record store =>
      { l with
        reporter := { l.reporter with recorder := { l.reporter.recorder with store := store } } }

/-- The day of a time was reported and every event of it was written. -/
def Sent (dayStart : Nat → Nat) (l : ReportLog) (time : Nat) : Prop :=
  ∃ call ∈ l.calls, call.day = dayStart time ∧ call.written = true

instance (dayStart : Nat → Nat) (l : ReportLog) (time : Nat) : Decidable (l.Sent dayStart time) :=
  inferInstanceAs (Decidable (∃ call ∈ l.calls, _))

end ReportLog

/-- What is recorded after a report is recorded after its report time. -/
def ReportStep.Later (l : ReportLog) : ReportStep → Prop
  | .report _ _ => True
  | .record store => store.ready = l.store.ready ∧
      ∀ row ∈ store.events, row ∈ l.store.events ∨ l.reporter.midnight ≤ row.happenTime

/-- Every `WriteImeUsageEvent` of the run succeeds. -/
def ReportStep.Written (dayStart : Nat → Nat) (l : ReportLog) : ReportStep → Prop
  | .report today0Time writes =>
      ∀ reportDayStart ∈ l.reporter.calcReportDayStart dayStart,
        ∀ day ∈ l.store.queryActiveDays dayStart reportDayStart (today0Time - 1),
          ∀ info ∈ l.store.getUsageInfo day (day + millisecsPerDay - 1), writes.sent day info = true
  | .record _ => True

section Cleanup

variable {dayStart : Nat → Nat}

/-- The days up to the report time were all sent; a store that could not be read was never
reported from. -/
structure ReportLog.Covered (dayStart : Nat → Nat) (l : ReportLog) : Prop where
  opened : l.store.ready = true ∨ l.reporter.lastReportTime = reportTimeNever
  sent : l.reporter.lastReportTime ≠ reportTimeNever →
    ∀ row ∈ l.store.events, row.happenTime ≤ l.reporter.lastReportTime →
      l.Sent dayStart row.happenTime

theorem queryEarliestEventTime_closed {s : DataHelper} (closed : ¬ s.ready = true) :
    s.queryEarliestEventTime = indexNotFound := by
  have notReady : s.ready = false := by simpa using closed
  exact if_pos notReady

theorem queryEarliestEventTime_le {s : DataHelper} {row : EventRow} (member : row ∈ s.events) :
    s.queryEarliestEventTime ≤ row.happenTime := by
  by_cases ready : s.ready = true
  · rw [queryEarliestEventTime, if_neg (by simp [ready])]
    exact (foldl_earliest s.events indexNotFound).2 row member
  · rw [queryEarliestEventTime_closed ready, indexNotFound]
    omega

/-- A report starts at or before every row it has not reported. -/
theorem calcReportDayStart_le (floor : ∀ t, dayStart t ≤ t) {r : Reporter} {reportDayStart : Nat}
    (found : r.calcReportDayStart dayStart = some reportDayStart) {row : EventRow}
    (member : row ∈ r.recorder.store.events) (later : r.midnight ≤ row.happenTime) :
    reportDayStart ≤ row.happenTime := by
  unfold Reporter.calcReportDayStart at found
  by_cases never : r.lastReportTime = reportTimeNever
  · rw [if_pos never] at found
    dsimp only at found
    split at found
    · cases found
    · rename_i positive
      obtain rfl := Option.some.inj found
      have earliest := queryEarliestEventTime_le (s := r.recorder.store) member
      have low := floor r.recorder.store.queryEarliestEventTime.toNat
      omega
  · rw [if_neg never] at found
    obtain rfl := Option.some.inj found
    have midnight : r.midnight = r.lastReportTime + 1 := if_neg never
    rw [midnight] at later
    exact (floor _).trans later

theorem calcReportDayStart_ready {r : Reporter} {reportDayStart : Nat}
    (found : r.calcReportDayStart dayStart = some reportDayStart)
    (opened : r.recorder.store.ready = true ∨ r.lastReportTime = reportTimeNever) :
    r.recorder.store.ready = true := by
  by_contra closed
  have never := opened.resolve_left closed
  rw [Reporter.calcReportDayStart, if_pos never, queryEarliestEventTime_closed closed] at found
  cases found

/-- Every call of a run whose writes succeed reports its day in full. -/
theorem dayReport_written {s : DataHelper} {sent : Nat → UsageInfo → Bool} {day : Nat}
    (written : ∀ info ∈ s.getUsageInfo day (day + millisecsPerDay - 1), sent day info = true) :
    (dayReport s sent day).written = true :=
  List.all_eq_true.2 written

/-- **A report whose writes succeed covers the days up to its report time.** -/
theorem report_covers (floor : ∀ t, dayStart t ≤ t) {l : ReportLog} {today0 : Nat}
    {writes : ReportWrites} (written : ReportStep.Written dayStart l (.report today0 writes))
    (covered : l.Covered dayStart) {reportDayStart : Nat}
    (found : l.reporter.calcReportDayStart dayStart = some reportDayStart) {row : EventRow}
    (member : row ∈ l.store.events) (early : row.happenTime ≤ today0 - 1) :
    (l.step dayStart (.report today0 writes)).Sent dayStart row.happenTime := by
  have ran := Reporter.innerReportDailyEvent_ran found today0 writes
  by_cases later : l.reporter.midnight ≤ row.happenTime
  · have ready := calcReportDayStart_ready found covered.opened
    have low := calcReportDayStart_le floor found member later
    have active : dayStart row.happenTime ∈
        l.store.queryActiveDays dayStart reportDayStart (today0 - 1) :=
      (mem_queryActiveDays ready).2 ⟨row, member, low, early, rfl⟩
    refine ⟨dayReport l.store writes.sent (dayStart row.happenTime), ?_, rfl, ?_⟩
    · show _ ∈ l.calls ++ l.reporter.dayReports dayStart today0 writes
      rw [ran.calls]
      exact List.mem_append_right _ (List.mem_map.2 ⟨_, active, rfl⟩)
    · exact dayReport_written (written reportDayStart found _ active)
  · have known : l.reporter.lastReportTime ≠ reportTimeNever := by
      intro never
      rw [Reporter.midnight, if_pos never] at later
      omega
    have before : row.happenTime ≤ l.reporter.lastReportTime := by
      rw [Reporter.midnight, if_neg known] at later
      omega
    obtain ⟨call, made, ofDay⟩ := covered.sent known row member before
    exact ⟨call, List.mem_append_left _ made, ofDay⟩

theorem ReportLog.Covered.step (floor : ∀ t, dayStart t ≤ t) {l : ReportLog}
    (covered : l.Covered dayStart) {e : ReportStep} (later : e.Later l)
    (written : e.Written dayStart l) : (l.step dayStart e).Covered dayStart := by
  cases e with
  | report today0 writes =>
      cases found : l.reporter.calcReportDayStart dayStart with
      | none =>
          obtain ⟨same, none⟩ := Reporter.innerReportDailyEvent_idle found today0 writes
          simpa [ReportLog.step, same, none] using covered
      | some reportDayStart =>
          have ran := Reporter.innerReportDailyEvent_ran found today0 writes
          have ready := calcReportDayStart_ready found covered.opened
          refine ⟨.inl (ran.store.ready.trans ready), fun _ row member early => ?_⟩
          refine report_covers floor written covered found (ran.store.kept row member) ?_
          exact early.trans ran.time.le
  | record store =>
      obtain ⟨ready, rows⟩ := later
      refine ⟨?_, fun known row member early => ?_⟩
      · show store.ready = true ∨ _
        rw [ready]
        exact covered.opened
      · rcases rows row member with old | new
        · exact covered.sent known row old early
        · have midnight : l.reporter.midnight = l.reporter.lastReportTime + 1 := if_neg known
          have early : row.happenTime ≤ l.reporter.lastReportTime := early
          omega

/-- **What a report deletes was reported.**  From a reporter that has never reported, over
any runs and recordings whose writes of usage events succeed, whatever the writes of the
report time and of the cleanup do. -/
theorem cleanup_after_report (floor : ∀ t, dayStart t ≤ t) (recorder : Recorder)
    (steps : List ReportStep) (today0 : Nat) (writes : ReportWrites)
    (later : Lib.Meets (ReportLog.step dayStart) (fun l e => e.Later l)
      { reporter := { recorder := recorder } } (steps ++ [.report today0 writes]))
    (written : Lib.Meets (ReportLog.step dayStart) (fun l e => e.Written dayStart l)
      { reporter := { recorder := recorder } } (steps ++ [.report today0 writes])) :
    let before := Lib.run (ReportLog.step dayStart) { reporter := { recorder := recorder } } steps
    let after := before.step dayStart (.report today0 writes)
    ∀ row ∈ before.store.events, row ∉ after.store.events → after.Sent dayStart row.happenTime := by
  intro before after row member gone
  have start : ReportLog.Covered dayStart { reporter := { recorder := recorder } } :=
    ⟨.inr rfl, fun known => absurd rfl known⟩
  obtain ⟨laterSteps, -⟩ := Lib.meets_append.1 later
  obtain ⟨writtenSteps, ⟨writtenLast, -⟩⟩ := Lib.meets_append.1 written
  have covered : before.Covered dayStart :=
    Lib.run_keeps (fun l e good ok => good.step floor ok.1 ok.2) start
      (Lib.meets_and.2 ⟨laterSteps, writtenSteps⟩)
  cases found : before.reporter.calcReportDayStart dayStart with
  | none =>
      obtain ⟨same, -⟩ := Reporter.innerReportDailyEvent_idle found today0 writes
      refine absurd ?_ gone
      show row ∈ (before.reporter.innerReportDailyEvent dayStart today0 writes).recorder.store.events
      rw [same]
      exact member
  | some reportDayStart =>
      have ran := Reporter.innerReportDailyEvent_ran found today0 writes
      have old := ran.store.deleted row member gone
      exact report_covers floor writtenLast covered found member (by omega)

end Cleanup

/-! ## Poles -/

instance (dayStart : Nat → Nat) (l : ReportLog) (today0 : Nat) (writes : ReportWrites) :
    Decidable (ReportStep.Written dayStart l (.report today0 writes)) :=
  inferInstanceAs (Decidable (∀ reportDayStart ∈ l.reporter.calcReportDayStart dayStart,
    ∀ day ∈ _, ∀ info ∈ _, _))

/-- An hour of use on the second day of the epoch. -/
def usedHour : EventRow :=
  { id := 1, rawid := .countDuration, ts := millisecsPerDay + 3600000,
    happenTime := millisecsPerDay + 3600000, bundleName := "a",
    durations := bucket unfoldedPortrait 3600000, showCount := 1 }

def Recorder.used : Recorder := { store := { events := [usedHour], nextId := 2 } }

/-- The hour is reported the next day and deleted four days later. -/
theorem reported_hour_deleted :
    let steps : List ReportStep := [.report (millisecsPerDay * 2) {}]
    let before := Lib.run (ReportLog.step utcDayStart) { reporter := { recorder := .used } } steps
    let after := before.step utcDayStart (.report (millisecsPerDay * 6) {})
    usedHour ∈ before.store.events ∧ usedHour ∉ after.store.events ∧
      after.Sent utcDayStart usedHour.happenTime := by
  intro steps before after
  have here : usedHour ∈ before.store.events := by decide +kernel
  have gone : usedHour ∉ after.store.events := by decide +kernel
  refine ⟨here, gone, cleanup_after_report utcDayStart_days.floor .used steps (millisecsPerDay * 6) {}
    ⟨trivial, trivial, trivial⟩ ⟨?_, ?_, trivial⟩ usedHour here gone⟩
  · decide +kernel
  · decide +kernel

/-- **A day whose report failed is deleted.**  The first report comes four days after the
hour of use and its only event is not written; the same run deletes the row. -/
theorem failed_day_deleted :
    let start : ReportLog := { reporter := { recorder := .used } }
    let after := start.step utcDayStart (.report (millisecsPerDay * 6) { sent := fun _ _ => false })
    usedHour ∈ start.store.events ∧ usedHour ∉ after.store.events ∧
      (after.calls.map fun call => (call.day, call.written)) = [(millisecsPerDay, false)] ∧
      ¬ after.Sent utcDayStart usedHour.happenTime := by
  decide +kernel

end Imf.Usage
