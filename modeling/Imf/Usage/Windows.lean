/-
# Imf.Usage.Windows -- which reported days count a row

A day is reported over 24 hours from its start, while the starts come from the calendar
(`Calendar`): a day may be an hour shorter or longer.  Over any runs of
`InnerReportDailyEvent` on a store that only they change, the days reported are those of
the rows from the first of them up to the report time, each once and in order
(`Windows`), so that a row is counted once and on its own day exactly when the 24 hours
agree with the calendar on the rows (`windows_partition_iff`).

Poles: two days of 24 hours (`two_days_counted`), and a row in the last hour of a day of
25 hours that no report counts (`long_day_row_lost`).
-/
import Imf.Usage.Retention

namespace Imf.Usage

set_option autoImplicit false

open DataHelper

/-! ## Calendars -/

/-- `DayStartFromMs` as the floor to the start of the local day.  The starts are its fixed
points; nothing is said about how far apart they are. -/
structure Calendar (dayStart : Nat → Nat) : Prop where
  floor : ∀ t, dayStart t ≤ t
  same : ∀ t x, dayStart t ≤ x → x ≤ t → dayStart x = dayStart t

section Windows

variable {dayStart : Nat → Nat}

theorem Calendar.idem (calendar : Calendar dayStart) (t : Nat) :
    dayStart (dayStart t) = dayStart t :=
  calendar.same t (dayStart t) le_rfl (calendar.floor t)

/-- A day start is not after the start of any later time's day. -/
theorem Calendar.start_le (calendar : Calendar dayStart) {d t : Nat} (isStart : dayStart d = d)
    (le : d ≤ t) : d ≤ dayStart t := by
  by_contra gt
  have same := calendar.same t d (by omega) le
  omega

/-- The rows of the 24 hours from a start. -/
def inWindow (day : Nat) (row : EventRow) : Bool := inPeriod day (day + millisecsPerDay - 1) row

theorem inWindow_iff {day : Nat} {row : EventRow} :
    inWindow day row = true ↔
      day ≤ row.happenTime ∧ row.happenTime ≤ day + millisecsPerDay - 1 := by
  simp [inWindow, inPeriod]

theorem queryActiveDays_sorted (s : DataHelper) (startTime endTime : Nat) :
    (s.queryActiveDays dayStart startTime endTime).Pairwise (· < ·) := by
  have nodup : (s.queryActiveDays dayStart startTime endTime).Nodup :=
    queryActiveDays_nodup s startTime endTime
  have sorted : (s.queryActiveDays dayStart startTime endTime).Pairwise (· ≤ ·) := by
    unfold queryActiveDays
    split
    · exact List.Pairwise.nil
    · exact List.pairwise_insertionSort _ _
  exact (sorted.and nodup).imp fun both => lt_of_le_of_ne both.1 both.2

/-! ## Runs on one store -/

/-- The runs at their midnights, one after the other. -/
def ReportLog.reports (dayStart : Nat → Nat) (r : Reporter) (runs : List (Nat × ReportWrites)) :
    ReportLog :=
  Lib.run (ReportLog.step dayStart) { reporter := r } (runs.map fun each => .report each.1 each.2)

/-- Where the runs are: nothing was reported or deleted yet; or the report time is the end
of a day that is not after the next midnight, and only rows up to it may be gone; or a row
at time zero keeps a reporter that never reported from ever starting. -/
inductive ReportPhase (dayStart : Nat → Nat) (rows : List EventRow) (next : Nat) (l : ReportLog) : Prop
  | fresh (same : ∀ row, row ∈ l.store.events ↔ row ∈ rows) (none : l.calls = [])
  | resumed (known : l.reporter.lastReportTime ≠ reportTimeNever)
      (isStart : dayStart (l.reporter.lastReportTime + 1) = l.reporter.lastReportTime + 1)
      (past : l.reporter.lastReportTime + 1 ≤ next) (sub : ∀ row ∈ l.store.events, row ∈ rows)
      (kept : ∀ row ∈ rows, l.reporter.lastReportTime < row.happenTime → row ∈ l.store.events)
  | stuck (never : l.reporter.lastReportTime = reportTimeNever) (row : EventRow)
      (member : row ∈ l.store.events) (zero : row.happenTime = 0)

/-- The days that were reported, against the rows the runs began with. -/
structure Windows (dayStart : Nat → Nat) (rows : List EventRow) (next : Nat) (l : ReportLog) :
    Prop where
  phase : ReportPhase dayStart rows next l
  opened : l.calls ≠ [] → l.store.ready = true
  counted : ∀ call ∈ l.calls, ∀ row ∈ rows, row ∈ call.rows ↔ inWindow call.day row = true
  ordered : (l.calls.map DayReport.day).Pairwise (· < ·)
  used : ∀ call ∈ l.calls, ∃ row ∈ rows, dayStart row.happenTime = call.day ∧
    row.happenTime ≤ l.reporter.lastReportTime
  covered : ∀ row ∈ rows, ∀ call ∈ l.calls, call.day ≤ row.happenTime →
    row.happenTime ≤ l.reporter.lastReportTime → dayStart row.happenTime ∈ l.calls.map DayReport.day

/-- What a phase gives to a run that starts at `reportDayStart`. -/
structure ReportPhase.Starts (rows : List EventRow) (next reportDayStart : Nat) (l : ReportLog) :
    Prop where
  sub : ∀ row ∈ l.store.events, row ∈ rows
  here : ∀ row ∈ rows, reportDayStart ≤ row.happenTime ∨ next ≤ row.happenTime → row ∈ l.store.events
  origin : (l.calls = [] ∧ ∀ row ∈ rows, row ∈ l.store.events) ∨
    reportDayStart = l.reporter.lastReportTime + 1 ∧ l.reporter.lastReportTime + 1 ≤ next ∧
      l.reporter.lastReportTime ≠ reportTimeNever

theorem ReportPhase.starts {rows : List EventRow} {next reportDayStart : Nat} {l : ReportLog}
    (phase : ReportPhase dayStart rows next l)
    (found : l.reporter.calcReportDayStart dayStart = some reportDayStart) :
    ReportPhase.Starts rows next reportDayStart l := by
  cases phase with
  | fresh same none =>
      exact ⟨fun row => (same row).1, fun row member _ => (same row).2 member,
        .inl ⟨none, fun row => (same row).2⟩⟩
  | resumed known isStart past sub kept =>
      rw [Reporter.calcReportDayStart, if_neg known, isStart] at found
      obtain rfl := Option.some.inj found
      refine ⟨sub, fun row member later => kept row member ?_, .inr ⟨rfl, past, known⟩⟩
      omega
  | stuck never row member zero =>
      have earliest := queryEarliestEventTime_le (s := l.reporter.recorder.store) member
      rw [Reporter.calcReportDayStart, if_pos never] at found
      dsimp only at found
      rw [if_pos (by omega)] at found
      cases found

theorem calcReportDayStart_isStart (calendar : Calendar dayStart) {r : Reporter} {reportDayStart : Nat}
    (found : r.calcReportDayStart dayStart = some reportDayStart) :
    dayStart reportDayStart = reportDayStart := by
  unfold Reporter.calcReportDayStart at found
  dsimp only at found
  split_ifs at found
  all_goals
    obtain rfl := Option.some.inj found
    exact calendar.idem _

/-- The days of a run, against what was reported before it. -/
theorem Windows.days {rows : List EventRow} {next reportDayStart today0 : Nat} {l : ReportLog}
    (calendar : Calendar dayStart) (windows : Windows dayStart rows next l)
    (found : l.reporter.calcReportDayStart dayStart = some reportDayStart) {day : Nat}
    (active : day ∈ l.store.queryActiveDays dayStart reportDayStart (today0 - 1)) :
    reportDayStart ≤ day ∧ (∀ call ∈ l.calls, call.day < day) ∧
      ∃ row ∈ rows, row ∈ l.store.events ∧ dayStart row.happenTime = day ∧
        reportDayStart ≤ row.happenTime ∧ row.happenTime ≤ today0 - 1 := by
  have starts := windows.phase.starts found
  obtain ⟨row, member, low, high, rfl⟩ := queryActiveDays_period active
  have isStart := calcReportDayStart_isStart calendar found
  have after := calendar.start_le isStart low
  refine ⟨after, fun call made => ?_, row, starts.sub row member, member, rfl, low, high⟩
  rcases starts.origin with ⟨none, -⟩ | ⟨resume, -, -⟩
  · rw [none] at made
    cases made
  · obtain ⟨used, -, ofDay, early⟩ := windows.used call made
    have floor := calendar.floor used.happenTime
    omega

/-- **A run keeps the phases.** -/
theorem Windows.phase_step {rows : List EventRow} {next today0 : Nat} {l : ReportLog}
    (windows : Windows dayStart rows next l) (isMidnight : dayStart today0 = today0)
    (later : next ≤ today0) {reportDayStart : Nat}
    (found : l.reporter.calcReportDayStart dayStart = some reportDayStart) (writes : ReportWrites) :
    ReportPhase dayStart rows today0 (l.step dayStart (.report today0 writes)) := by
  have starts := windows.phase.starts found
  have ran := Reporter.innerReportDailyEvent_ran found today0 writes
  have stays : ∀ row ∈ l.store.events, today0 - millisecsPerDay * dataKeepDay ≤ row.happenTime →
      row ∈ (l.step dayStart (.report today0 writes)).store.events := by
    intro row member late
    by_contra gone
    have old := ran.store.deleted row member gone
    omega
  have time : (l.step dayStart (.report today0 writes)).reporter.lastReportTime = today0 - 1 := ran.time
  by_cases early : today0 ≤ 1
  · have clear : today0 - millisecsPerDay * dataKeepDay = 0 := by
      have positive : 1 < millisecsPerDay * dataKeepDay := by decide
      omega
    rcases starts.origin with ⟨none, whole⟩ | ⟨-, past, known⟩
    · rcases List.eq_nil_or_concat'
        (l.store.queryActiveDays dayStart reportDayStart (today0 - 1)) with idle | ⟨days, day, busy⟩
      · refine .fresh (fun row => ⟨fun member => ?_, fun member => ?_⟩) ?_
        · exact starts.sub row (ran.store.kept row member)
        · exact stays row (whole row member) (by omega)
        · show l.calls ++ l.reporter.dayReports dayStart today0 writes = []
          have idle' : l.reporter.recorder.store.queryActiveDays dayStart reportDayStart
            (today0 - 1) = [] := idle
          rw [none, ran.calls, idle']
          rfl
      · have active : day ∈ l.store.queryActiveDays dayStart reportDayStart (today0 - 1) := by
          simp [busy]
        obtain ⟨row, member, -, high, -⟩ := queryActiveDays_period active
        refine .stuck ?_ row (stays row member (by omega)) (by omega)
        rw [time, reportTimeNever]
        omega
    · unfold reportTimeNever at known
      omega
  · have succ : today0 - 1 + 1 = today0 := by omega
    refine .resumed ?_ ?_ ?_ ?_ ?_
    · rw [time, reportTimeNever]
      omega
    · rw [time, succ, isMidnight]
    · rw [time, succ]
    · exact fun row member => starts.sub row (ran.store.kept row member)
    · intro row member late
      rw [time] at late
      exact stays row (starts.here row member (.inr (by omega))) (by omega)

/-- A run that finds no day to start from changes nothing. -/
theorem Windows.idle {rows : List EventRow} {next today0 : Nat} {l : ReportLog}
    (windows : Windows dayStart rows next l) (later : next ≤ today0)
    (found : l.reporter.calcReportDayStart dayStart = none) (writes : ReportWrites) :
    Windows dayStart rows today0 (l.step dayStart (.report today0 writes)) := by
  obtain ⟨same, idle⟩ := Reporter.innerReportDailyEvent_idle found today0 writes
  have unchanged : l.step dayStart (.report today0 writes) = l := by
    simp [ReportLog.step, same, idle]
  rw [unchanged]
  refine { windows with phase := ?_ }
  cases windows.phase with
  | fresh same none => exact .fresh same none
  | resumed known isStart past sub kept => exact .resumed known isStart (by omega) sub kept
  | stuck never row member zero => exact .stuck never row member zero

section Run

variable {rows : List EventRow} {next reportDayStart today0 : Nat} {l : ReportLog}

theorem ReportLog.step_calls (found : l.reporter.calcReportDayStart dayStart = some reportDayStart)
    (today0 : Nat) (writes : ReportWrites) :
    (l.step dayStart (.report today0 writes)).calls =
      l.calls ++ (l.store.queryActiveDays dayStart reportDayStart (today0 - 1)).map
        (dayReport l.store writes.sent) :=
  congrArg (l.calls ++ ·) (Reporter.innerReportDailyEvent_ran found today0 writes).calls

theorem ReportLog.step_time (found : l.reporter.calcReportDayStart dayStart = some reportDayStart)
    (today0 : Nat) (writes : ReportWrites) :
    (l.step dayStart (.report today0 writes)).reporter.lastReportTime = today0 - 1 :=
  (Reporter.innerReportDailyEvent_ran found today0 writes).time

namespace Windows

variable (windows : Windows dayStart rows next l)
  (found : l.reporter.calcReportDayStart dayStart = some reportDayStart)

include windows found

/-- After an earlier report a run starts where that one ended. -/
theorem earlier (made : l.calls ≠ []) :
    reportDayStart = l.reporter.lastReportTime + 1 ∧ l.reporter.lastReportTime + 1 ≤ next := by
  rcases (windows.phase.starts found).origin with ⟨none, -⟩ | ⟨resume, past, -⟩
  · exact absurd none made
  · exact ⟨resume, past⟩

theorem opened_step {writes : ReportWrites}
    (made : (l.step dayStart (.report today0 writes)).calls ≠ []) : l.store.ready = true := by
  by_contra closed
  have noDays : l.store.queryActiveDays dayStart reportDayStart (today0 - 1) = [] := by
    simp [queryActiveDays, closed]
  rw [ReportLog.step_calls found, noDays, List.map_nil, List.append_nil] at made
  exact closed (windows.opened made)

/-- A row in the window of a new day is not before `reportDayStart`: it is still there. -/
theorem counted_day (calendar : Calendar dayStart) {day : Nat} (sent : Nat → UsageInfo → Bool)
    (active : day ∈ l.store.queryActiveDays dayStart reportDayStart (today0 - 1)) {row : EventRow}
    (member : row ∈ rows) :
    row ∈ (dayReport l.store sent day).rows ↔ inWindow day row = true := by
  obtain ⟨after, -⟩ := windows.days calendar found active
  show row ∈ l.store.events.filter (inWindow day) ↔ inWindow day row = true
  rw [List.mem_filter]
  refine ⟨fun both => both.2, fun within => ⟨?_, within⟩⟩
  have low := (inWindow_iff.1 within).1
  exact (windows.phase.starts found).here row member (.inl (by omega))

theorem ordered_step (calendar : Calendar dayStart) (writes : ReportWrites) :
    ((l.step dayStart (.report today0 writes)).calls.map DayReport.day).Pairwise (· < ·) := by
  have newDays : ((l.store.queryActiveDays dayStart reportDayStart (today0 - 1)).map
      (dayReport l.store writes.sent)).map DayReport.day =
        l.store.queryActiveDays dayStart reportDayStart (today0 - 1) := by
    rw [List.map_map]
    exact List.map_id _
  rw [ReportLog.step_calls found, List.map_append, newDays]
  refine List.pairwise_append.2 ⟨windows.ordered, queryActiveDays_sorted _ _ _, ?_⟩
  intro d old day active
  obtain ⟨call, made, rfl⟩ := List.mem_map.1 old
  exact (windows.days calendar found active).2.1 call made

theorem covered_step (calendar : Calendar dayStart) {writes : ReportWrites} {row : EventRow}
    (member : row ∈ rows) {call : DayReport}
    (made : call ∈ (l.step dayStart (.report today0 writes)).calls) (low : call.day ≤ row.happenTime)
    (high : row.happenTime ≤ today0 - 1) :
    dayStart row.happenTime ∈ (l.step dayStart (.report today0 writes)).calls.map DayReport.day := by
  have ready := windows.opened_step found (List.ne_nil_of_mem made)
  rw [ReportLog.step_calls found] at made ⊢
  rw [List.map_append, List.mem_append]
  by_cases reached : reportDayStart ≤ row.happenTime
  · have active : dayStart row.happenTime ∈
        l.store.queryActiveDays dayStart reportDayStart (today0 - 1) :=
      (mem_queryActiveDays ready).2
        ⟨row, (windows.phase.starts found).here row member (.inl reached), reached, high, rfl⟩
    right
    rw [List.map_map]
    exact List.mem_map.2 ⟨_, active, rfl⟩
  · -- The row is from before this run, and so is the day it comes after.
    left
    rcases List.mem_append.1 made with old | new
    · have resume := (windows.earlier found (List.ne_nil_of_mem old)).1
      exact windows.covered row member call old low (by omega)
    · obtain ⟨day, active, rfl⟩ := List.mem_map.1 new
      obtain ⟨after, -⟩ := windows.days calendar found active
      have low : day ≤ row.happenTime := low
      omega

end Windows

end Run

/-- **A run reports the days of the rows it reaches, after all earlier ones.** -/
theorem Windows.step {rows : List EventRow} {next today0 : Nat} {l : ReportLog}
    (calendar : Calendar dayStart) (windows : Windows dayStart rows next l)
    (isMidnight : dayStart today0 = today0) (later : next ≤ today0) (writes : ReportWrites) :
    Windows dayStart rows today0 (l.step dayStart (.report today0 writes)) := by
  cases found : l.reporter.calcReportDayStart dayStart with
  | none => exact windows.idle later found writes
  | some reportDayStart =>
      have ran := Reporter.innerReportDailyEvent_ran found today0 writes
      have calls := ReportLog.step_calls found today0 writes
      have time := ReportLog.step_time found today0 writes
      refine ⟨windows.phase_step isMidnight later found writes,
        fun made => ran.store.ready.trans (windows.opened_step found made), ?_,
        windows.ordered_step found calendar writes, ?_, ?_⟩
      · intro call made row member
        rw [calls] at made
        rcases List.mem_append.1 made with old | new
        · exact windows.counted call old row member
        · obtain ⟨day, active, rfl⟩ := List.mem_map.1 new
          exact windows.counted_day found calendar writes.sent active member
      · intro call made
        rw [calls] at made
        rw [time]
        rcases List.mem_append.1 made with old | new
        · obtain ⟨row, member, ofDay, early⟩ := windows.used call old
          have past := (windows.earlier found (List.ne_nil_of_mem old)).2
          exact ⟨row, member, ofDay, by omega⟩
        · obtain ⟨day, active, rfl⟩ := List.mem_map.1 new
          obtain ⟨-, -, row, member, -, ofDay, -, early⟩ := windows.days calendar found active
          exact ⟨row, member, ofDay, early⟩
      · intro row member call made low high
        rw [time] at high
        exact windows.covered_step found calendar member made low high

theorem reports_windows (calendar : Calendar dayStart) (r : Reporter)
    (runs : List (Nat × ReportWrites)) (ordered : runs.Pairwise fun a b => a.1 ≤ b.1)
    (midnights : ∀ each ∈ runs, dayStart each.1 = each.1) :
    ∃ next, Windows dayStart r.recorder.store.events next (ReportLog.reports dayStart r runs) := by
  have start : Windows dayStart r.recorder.store.events 0 { reporter := r } :=
    ⟨.fresh (fun _ => Iff.rfl) rfl, fun made => absurd rfl made, by simp, by simp, by simp, by simp⟩
  have run : ∀ (next : Nat) (l : ReportLog), Windows dayStart r.recorder.store.events next l →
      (∀ each ∈ runs, next ≤ each.1) → ∃ next', Windows dayStart r.recorder.store.events next'
        (Lib.run (ReportLog.step dayStart) l (runs.map fun each => .report each.1 each.2)) := by
    induction runs with
    | nil => exact fun next l windows _ => ⟨next, windows⟩
    | cons each runs ih =>
        intro next l windows bounded
        obtain ⟨first, rest⟩ := List.pairwise_cons.1 ordered
        rw [List.forall_mem_cons] at midnights bounded
        exact ih rest midnights.2 each.1 _ (windows.step calendar midnights.1 bounded.1 each.2) first
  exact run 0 _ start fun _ _ => Nat.zero_le _

/-! ## Counted once, on its own day -/

/-- The days whose report counts the row. -/
def ReportLog.countedOn (l : ReportLog) (row : EventRow) : List Nat :=
  (l.calls.filter fun call => decide (row ∈ call.rows)).map DayReport.day

/-- The first reported day and the report time, the range of what should be counted. -/
def ReportLog.InRange (l : ReportLog) (row : EventRow) : Prop :=
  (∃ call ∈ l.calls.head?, call.day ≤ row.happenTime) ∧
    row.happenTime ≤ l.reporter.lastReportTime

/-- A list without repetitions has one element that passes a test. -/
theorem filter_eq_singleton_iff {days : List Nat} (nodup : days.Nodup) (test : Nat → Bool) {d : Nat}
    (member : d ∈ days) : days.filter test = [d] ↔ ∀ x ∈ days, test x = true ↔ x = d := by
  constructor
  · intro single x here
    have filtered : x ∈ days.filter test ↔ x = d := by simp [single]
    simpa [List.mem_filter, here] using filtered
  · intro only
    have same : days.filter test = days.filter (· == d) := by
      apply List.filter_congr
      intro x here
      rw [Bool.eq_iff_iff, only x here, beq_iff_eq]
    rw [same, List.filter_beq, List.count_eq_one_of_mem nodup member]
    rfl

theorem Windows.countedOn {rows : List EventRow} {next : Nat} {l : ReportLog}
    (windows : Windows dayStart rows next l) {row : EventRow} (member : row ∈ rows) :
    l.countedOn row = (l.calls.map DayReport.day).filter fun day => inWindow day row := by
  unfold ReportLog.countedOn
  rw [List.filter_map]
  congr 1
  apply List.filter_congr
  intro call made
  rw [Bool.eq_iff_iff, decide_eq_true_eq, windows.counted call made row member]
  rfl

/-- The first day comes before all others. -/
theorem Windows.first_le {rows : List EventRow} {next : Nat} {l : ReportLog}
    (windows : Windows dayStart rows next l) {first : DayReport} (head : first ∈ l.calls.head?)
    {call : DayReport} (made : call ∈ l.calls) : first.day ≤ call.day := by
  obtain ⟨calls, split⟩ : ∃ calls, l.calls = first :: calls := List.head?_eq_some_iff.1 head
  have ordered := windows.ordered
  rw [split, List.map_cons, List.pairwise_cons] at ordered
  rw [split] at made
  rcases List.mem_cons.1 made with rfl | later
  · exact le_rfl
  · exact (ordered.1 _ (List.mem_map.2 ⟨call, later, rfl⟩)).le

/-- **Every row of the range is counted on its own day and on no other exactly when the 24
hours from a start agree with the calendar on these rows.** -/
theorem windows_partition_iff (calendar : Calendar dayStart) (r : Reporter)
    (runs : List (Nat × ReportWrites)) (ordered : runs.Pairwise fun a b => a.1 ≤ b.1)
    (midnights : ∀ each ∈ runs, dayStart each.1 = each.1) :
    let final := ReportLog.reports dayStart r runs
    (∀ row ∈ r.recorder.store.events, final.InRange row →
        final.countedOn row = [dayStart row.happenTime]) ↔
      ∀ a ∈ r.recorder.store.events, final.InRange a →
        ∀ b ∈ r.recorder.store.events, final.InRange b →
          (inWindow (dayStart a.happenTime) b = true ↔
            dayStart b.happenTime = dayStart a.happenTime) := by
  intro final
  obtain ⟨next, windows⟩ := reports_windows calendar r runs ordered midnights
  have own : ∀ row ∈ r.recorder.store.events, final.InRange row →
      dayStart row.happenTime ∈ final.calls.map DayReport.day := by
    rintro row member ⟨⟨first, head, low⟩, high⟩
    exact windows.covered row member first (List.mem_of_mem_head? head) low high
  have nodup : (final.calls.map DayReport.day).Nodup := windows.ordered.imp fun lt => lt.ne
  have once : ∀ row ∈ r.recorder.store.events, final.InRange row →
      (final.countedOn row = [dayStart row.happenTime] ↔
        ∀ d ∈ final.calls.map DayReport.day, inWindow d row = true ↔ d = dayStart row.happenTime) := by
    intro row member range
    rw [windows.countedOn member]
    exact filter_eq_singleton_iff nodup _ (own row member range)
  constructor
  · intro counted a memberA rangeA b memberB rangeB
    have only := (once b memberB rangeB).1 (counted b memberB rangeB) _ (own a memberA rangeA)
    rw [only, eq_comm]
  · intro agree row member range
    refine (once row member range).2 fun d reported => ?_
    obtain ⟨call, made, rfl⟩ := List.mem_map.1 reported
    obtain ⟨used, here, ofDay, early⟩ := windows.used call made
    obtain ⟨⟨first, head, -⟩, -⟩ := id range
    have floor := calendar.floor used.happenTime
    have start := windows.first_le head made
    have rangeUsed : final.InRange used := ⟨⟨first, head, by omega⟩, early⟩
    rw [← ofDay, agree used here rangeUsed row member range, eq_comm]

end Windows

/-! ## Poles -/

instance (l : ReportLog) (row : EventRow) : Decidable (l.InRange row) :=
  inferInstanceAs (Decidable ((∃ call ∈ l.calls.head?, _) ∧ _))

theorem utcDayStart_calendar : Calendar utcDayStart where
  floor := utcDayStart_days.floor
  same t x low high :=
    utcDayStart_days.same t x low (high.trans_lt (utcDayStart_days.within t))

/-- Days of 24 hours, but for the second, which has 25. -/
def longDayStart (ms : Nat) : Nat :=
  if ms < 176400000 then utcDayStart (min ms 172799999)
  else 176400000 + utcDayStart (ms - 176400000)

/-- A store with a row of use at each of the times. -/
def Recorder.usedAt (times : List Nat) : Recorder :=
  { store := { events := times.map fun time => { usedHour with happenTime := time } } }

/-- Rows of two days, reported at the two midnights after them. -/
theorem two_days_counted :
    let r : Reporter := { recorder := .usedAt [90000000, 180000000] }
    let runs : List (Nat × ReportWrites) := [(millisecsPerDay * 2, {}), (millisecsPerDay * 3, {})]
    let final := ReportLog.reports utcDayStart r runs
    (∀ row ∈ r.recorder.store.events, final.InRange row) ∧
      ∀ row ∈ r.recorder.store.events, final.InRange row →
        final.countedOn row = [utcDayStart row.happenTime] := by
  intro r runs final
  refine ⟨by decide +kernel, ?_⟩
  refine (windows_partition_iff utcDayStart_calendar r runs ?_ (by decide +kernel)).2
    (by decide +kernel)
  exact List.pairwise_pair.2 (by decide)

/-- **A row in the last hour of a day of 25 hours is not counted.**  Its day is reported
over the 24 hours from its start, and the report time moves past the row. -/
theorem long_day_row_lost :
    let r : Reporter := { recorder := .usedAt [90000000, 174600000] }
    let final := ReportLog.reports longDayStart r [(176400000, {})]
    longDayStart 176400000 = 176400000 ∧
      (∀ row ∈ r.recorder.store.events,
        final.InRange row ∧ longDayStart row.happenTime = millisecsPerDay) ∧
      r.recorder.store.events.map final.countedOn = [[millisecsPerDay], []] ∧
      ¬ ∀ row ∈ r.recorder.store.events, final.InRange row →
        final.countedOn row = [longDayStart row.happenTime] := by
  decide +kernel

end Imf.Usage
