/-
# Imf.Usage.Daily -- reports over many days

Reports should say, for every bundle, how long it was shown up to the last reported
midnight and in how many sessions (`ReportsExact`, against the `Ledger`).  `reports_exact`
proves it over runs of calls and reports in which no session is open across a midnight
that is reported or settled after; a session that is open across it is reported in part
by the foreground channel and booked whole when it ends
(`midnight_session_counted_twice`).
-/
import Imf.Usage.Attribution
import Imf.Usage.Interleaving
import Imf.Usage.Days
import Imf.Usage.Ledger

namespace Imf.Usage

set_option autoImplicit false

open DataHelper

/-! ## The system -/

/-- A call or a report. -/
inductive Step where
  | call (made : Call)
  | report (now : Tick)
  deriving DecidableEq

def Reporter.step (dayStart : Nat → Nat) (r : Reporter) : Step → Reporter
  | .call made => { r with recorder := r.recorder.step made }
  | .report now => r.innerReportDailyEvent dayStart now.today0 {}

def Ledger.step (w : Ledger) : Step → Ledger
  | .call made => w.call made
  | .report _ => w

def reportedTime (b : String) (reported : List (Nat × UsageInfo)) : Nat :=
  infoTime b (reported.map Prod.snd)

def reportedShows (b : String) (reported : List (Nat × UsageInfo)) : Nat :=
  infoShows b (reported.map Prod.snd)

/-- What was reported for every bundle is its time and its sessions up to the last
reported midnight. -/
def ReportsExact (r : Reporter) (w : Ledger) : Prop :=
  ∀ b, reportedTime b r.reported = w.shownUntil b r.midnight ∧
    reportedShows b r.reported = w.sessionsUntil b r.midnight

/-! ## Clocks and conditions -/

/-- `s` was read before `t`; a midnight that was read is not after later readings. -/
structure Tick.Before (s t : Tick) : Prop where
  boot : s.boot ≤ t.boot
  wall : s.wall ≤ t.wall
  midnight : s.today0 ≤ t.wall
  today0 : s.today0 ≤ t.today0

/-- The midnight of a reading, made after its wall clock. -/
structure Tick.OnDay (dayStart : Nat → Nat) (t : Tick) : Prop where
  positive : 0 < t.wall
  midnight : dayStart t.wall ≤ t.today0
  isStart : dayStart t.today0 = t.today0

instance (s t : Tick) : Decidable (s.Before t) :=
  decidable_of_iff (s.boot ≤ t.boot ∧ s.wall ≤ t.wall ∧ s.today0 ≤ t.wall ∧ s.today0 ≤ t.today0)
    ⟨fun ⟨boot, wall, midnight, today0⟩ => ⟨boot, wall, midnight, today0⟩,
     fun before => ⟨before.boot, before.wall, before.midnight, before.today0⟩⟩

instance (dayStart : Nat → Nat) (t : Tick) : Decidable (t.OnDay dayStart) :=
  decidable_of_iff (0 < t.wall ∧ dayStart t.wall ≤ t.today0 ∧ dayStart t.today0 = t.today0)
    ⟨fun ⟨positive, midnight, isStart⟩ => ⟨positive, midnight, isStart⟩,
     fun onDay => ⟨onDay.positive, onDay.midnight, onDay.isStart⟩⟩

def Call.ticks : Call → List Tick
  | .bind _ ticks _ _ => [ticks.hide, ticks.start, ticks.settle]
  | .unbind _ ticks _ => [ticks.hide, ticks.settle]
  | .screen _ _ now _ => [now]

def Step.ticks : Step → List Tick
  | .call made => made.ticks
  | .report now => [now]

/-- An unbind names the bundle that is current. -/
def Call.Current (u : Recorder) : Call → Prop
  | .unbind b _ _ => u.cacher.isKeyboardShowing = true → u.cacher.currentImeBundle = b
  | _ => True

instance (u : Recorder) : (call : Call) → Decidable (call.Current u)
  | .bind .. => .isTrue trivial
  | .unbind .. => inferInstanceAs (Decidable (_ → _))
  | .screen .. => .isTrue trivial

/-- The writes of a call succeed, and an unbind names the bundle that is current. -/
def Step.Sequential (r : Reporter) : Step → Prop
  | .call made => made.Written ∧ made.Current r.recorder
  | .report _ => True

instance (r : Reporter) : (step : Step) → Decidable (step.Sequential r)
  | .call _ => inferInstanceAs (Decidable (_ ∧ _))
  | .report _ => .isTrue trivial

/-- No row of an open session is of a day before `today0`. -/
def OfDay (today0 : Nat) (s : DataHelper) : Prop := ∀ row ∈ rawRows s.events, today0 ≤ row.happenTime

instance (today0 : Nat) (s : DataHelper) : Decidable (OfDay today0 s) :=
  inferInstanceAs (Decidable (∀ row ∈ rawRows s.events, _))

/-- The condition on a step: a session is closed on the day it began on, none is open
across a midnight that is reported, and what is reported for a day fits. -/
def Step.WithinDay (dayStart : Nat → Nat) (r : Reporter) : Step → Prop
  | .call (.bind b ticks _ _) =>
      r.recorder.cacher.isKeyboardShowing = true → r.recorder.cacher.currentImeBundle ≠ b →
        r.recorder.store.nextId ≤ 2 ^ 31 ∧ OfDay ticks.settle.today0 r.recorder.store
  | .call (.unbind _ ticks _) =>
      r.recorder.cacher.isKeyboardShowing = true →
        r.recorder.store.nextId ≤ 2 ^ 31 ∧ OfDay ticks.settle.today0 r.recorder.store
  | .call (.screen _ new _ _) => ValidStatus new
  | .report now =>
      OfDay now.today0 r.recorder.store ∧
        ∀ row ∈ r.recorder.store.events, row.happenTime < now.today0 →
          DayFits (r.recorder.store.events.filter (inPeriod (dayStart row.happenTime)
            (dayStart row.happenTime + millisecsPerDay - 1)))

instance (dayStart : Nat → Nat) (r : Reporter) : (step : Step) → Decidable (step.WithinDay dayStart r)
  | .call (.bind ..) => inferInstanceAs (Decidable (_ → _ → _))
  | .call (.unbind ..) => inferInstanceAs (Decidable (_ → _))
  | .call (.screen _ new _ _) => inferInstanceAs (Decidable (ValidStatus new))
  | .report _ => inferInstanceAs (Decidable (_ ∧ ∀ row ∈ r.recorder.store.events, _))

/-! ## Settlement on a day -/

/-- The settlement of the session whose rows are the raw rows of the store: they are gone,
and the session is booked on the day. -/
theorem settleSession_day {dayStart : Nat → Nat} (days : DayStarts dayStart) {s : DataHelper}
    (wf : WellFormed s) (bound : s.nextId ≤ 2 ^ 31) (stop : EventRecord)
    (guarded : Guarded stop.bundleName s) {id : Int} (stored : Stored (some id) (rawRows s.events))
    (bundle : ∀ row ∈ rawRows s.events, row.bundleName = stop.bundleName) {settle : Tick}
    (past : ∀ row ∈ s.events, 0 < row.happenTime ∧ row.happenTime ≤ settle.wall)
    (onDay : settle.OnDay dayStart) (durations : DurationMap) :
    let s' := settleSession s stop durations (getStartIndex s stop.bundleName) settle {}
    rawRows s'.events = [] ∧ (∀ row ∈ s'.events, 0 < row.happenTime ∧ row.happenTime ≤ settle.wall) ∧
      ∀ b d, dayTime dayStart b d s'.events = dayTime dayStart b d s.events +
          (if b = stop.bundleName ∧ d = dayStart settle.wall then DurationMap.total durations else 0) ∧
        dayShows dayStart b d s'.events = dayShows dayStart b d s.events +
          (if b = stop.bundleName ∧ d = dayStart settle.wall then 1 else 0) := by
  have mine : rawOf stop.bundleName s.events = rawRows s.events :=
    List.filter_eq_self.2 fun row member => by simpa using bundle row member
  have index : getStartIndex s stop.bundleName = id := by
    apply getStartIndex_stored wf bound
    rwa [mine]
  have young := stored.young wf fun row member => (List.mem_filter.1 member).1
  have older := guarded.older wf (by omega) (by rw [index]; exact young.1)
  have upserted := settleSession_written wf.ready stop durations id settle
  rw [if_pos young.1] at upserted
  rw [index] at older ⊢
  generalize settleSession s stop durations id settle {} = s' at upserted
  refine ⟨?_, fun row member => ?_, fun b d => ?_⟩
  · rw [upserted.rawRows rfl, rawRows_eraseFrom, List.filter_eq_nil_iff]
    intro row member kept
    simp [isFrom, bundle row member, young.2 row member] at kept
  · rcases upserted.times row member with old | new
    · exact past row (List.mem_filter.1 old).1
    · have time : row.happenTime = settle.wall := new
      exact ⟨by rw [time]; exact onDay.positive, time.le⟩
  · have day := upserted.day rfl rfl days onDay.midnight
      (fun row member => (past row (List.mem_filter.1 member).1).2) b d
    have same : dayCounts dayStart b d (s.eraseFrom stop.bundleName id).events =
        dayCounts dayStart b d s.events := by
      rw [dayCounts, eraseFrom_booked older b, dayCounts]
    rw [dayTime, dayTime, dayShows, dayShows, same] at day
    exact day

/-- A raw row at the end. -/
theorem addEvent_day (dayStart : Nat → Nat) {s : DataHelper} (ready : s.ready = true)
    (record : EventRecord) (raw : record.rawid ≠ .countDuration) :
    let s' := (s.addEvent record true).1
    rawRows s'.events = rawRows s.events ++ [makeRow s.nextId record 0] ∧
      (∀ row ∈ s'.events, row ∈ s.events ∨ row.happenTime = record.happenTime) ∧
      ∀ b d, dayCounts dayStart b d s'.events = dayCounts dayStart b d s.events := by
  have written : (s.addEvent record true).1.events = s.events ++ [makeRow s.nextId record 0] := by
    simp [DataHelper.addEvent, ready]
  refine ⟨?_, fun row member => ?_, fun b d => ?_⟩
  · rw [written]
    simp [rawRows, EventRow.isCount, makeRow, raw]
  · rw [written] at member
    rcases List.mem_append.1 member with old | new
    · exact .inl old
    · exact .inr (by rw [List.mem_singleton.1 new]; rfl)
  · rw [dayCounts, addEvent_countRows ready record raw]
    rfl

/-! ## The rows that a report keeps -/

/-- Without old rows, the raw rows and the last START row are the same. -/
theorem Guarded.fewer {b : String} {s s' : DataHelper} (guarded : Guarded b s)
    (raw : rawRows s'.events = rawRows s.events) (fewer : ∀ row ∈ s'.events, row ∈ s.events) :
    Guarded b s' := by
  have wanted : ∀ row, isRow b .inputStart row = true → (!row.isCount) = true := by
    intro row hit
    simp only [isRow, Bool.and_eq_true, beq_iff_eq] at hit
    simp [EventRow.isCount, hit.2]
  have last : Lib.findLast? (isRow b .inputStart) s'.events =
      Lib.findLast? (isRow b .inputStart) s.events := by
    rw [← Lib.findLast?_filter wanted s'.events, ← Lib.findLast?_filter wanted s.events]
    exact congrArg _ raw
  intro start found row member hit
  rw [last] at found
  exact guarded start found row (fewer row member) hit

theorem WellFormed.sentDays {r : Reporter} (wf : WellFormed r.recorder.store) (days : List Nat)
    (today0 : Nat) : WellFormed (r.sentDays days today0).recorder.store :=
  ⟨wf.ready, fun row member => wf.nonneg row (List.mem_filter.1 member).1,
    fun row member => wf.below row (List.mem_filter.1 member).1, wf.next⟩

/-- The rows of an open session are kept when they are of today. -/
theorem rawRows_sentDays {r : Reporter} {today0 : Nat} (ofDay : OfDay today0 r.recorder.store)
    (days : List Nat) :
    rawRows (r.sentDays days today0).recorder.store.events = rawRows r.recorder.store.events := by
  simp only [Reporter.sentDays, rawRows, List.filter_filter]
  apply List.filter_congr
  intro row member
  cases raw : !row.isCount with
  | false => rfl
  | true =>
      have today := ofDay row (List.mem_filter.2 ⟨member, raw⟩)
      have kept : ¬ row.happenTime < today0 - millisecsPerDay * dataKeepDay := by omega
      simp [kept]

/-- So are the bookings of the days that are kept. -/
theorem dayCounts_sentDays {dayStart : Nat → Nat} (starts : DayStarts dayStart) (r : Reporter)
    (days : List Nat) {today0 d : Nat} (from_ : today0 - millisecsPerDay * dataKeepDay ≤ d)
    (b : String) :
    dayCounts dayStart b d (r.sentDays days today0).recorder.store.events =
      dayCounts dayStart b d r.recorder.store.events := by
  simp only [Reporter.sentDays, dayCounts, countRows, List.filter_filter]
  apply List.filter_congr
  intro row _
  by_cases same : dayStart row.happenTime = d
  · have floor := starts.floor row.happenTime
    have kept : ¬ row.happenTime < today0 - millisecsPerDay * dataKeepDay := by omega
    simp [kept]
  · simp [beq_eq_false_iff_ne.2 same]

/-- A report at the first midnight of the epoch counts as none. -/
theorem midnight_sentDays (r : Reporter) (days : List Nat) (today0 : Nat) :
    (r.sentDays days today0).midnight = if 1 < today0 then today0 else 0 := by
  show (if today0 - 1 = 0 then 0 else today0 - 1 + 1) = _
  by_cases late : 1 < today0
  · rw [if_pos late, if_neg (by omega)]
    omega
  · rw [if_neg late, if_pos (by omega)]

/-! ## The invariant -/

/-- The open session, as the ledger and the store have it. -/
structure OpenSince (r : Reporter) (w : Ledger) (clock start : Tick) : Prop where
  current : w.current = some (r.recorder.cacher.currentImeBundle, start)
  timed : r.recorder.cacher.Timed start.boot clock.boot
  stored : ∃ id, Stored (some id) (rawRows r.recorder.store.events)
  bundle : ∀ row ∈ rawRows r.recorder.store.events,
    row.bundleName = r.recorder.cacher.currentImeBundle
  began : ∃ row ∈ rawRows r.recorder.store.events, row.happenTime = start.wall
  unreported : r.midnight ≤ start.wall
  past : start.wall ≤ clock.wall

/-- The reporter and its store agree with the ledger. -/
structure Recorded (dayStart : Nat → Nat) (r : Reporter) (w : Ledger) (clock : Tick) : Prop where
  sound : r.recorder.Sound
  status : ValidStatus r.recorder.cacher.getScreenStatus
  past : ∀ row ∈ r.recorder.store.events, 0 < row.happenTime ∧ row.happenTime ≤ clock.wall
  idle : r.recorder.cacher.isKeyboardShowing = false →
    w.current = none ∧ rawRows r.recorder.store.events = []
  showing : r.recorder.cacher.isKeyboardShowing = true → ∃ start, OpenSince r w clock start
  books : ∀ b d, r.midnight ≤ d →
    dayTime dayStart b d r.recorder.store.events = w.onDay dayStart Session.time b d ∧
      dayShows dayStart b d r.recorder.store.events = w.onDay dayStart (fun _ => 1) b d
  closed : ∀ s ∈ w.closed, dayStart s.settle.wall ≤ s.start.wall ∧ s.start.wall ≤ s.hide.wall ∧
    s.hide.wall ≤ s.settle.wall
  reported : ∀ b, reportedTime b r.reported = w.before dayStart Session.time b r.midnight ∧
    reportedShows b r.reported = w.before dayStart (fun _ => 1) b r.midnight
  isStart : dayStart r.midnight = r.midnight
  midnight : r.midnight ≤ clock.today0

namespace Recorded

variable {dayStart : Nat → Nat} {r : Reporter} {w : Ledger} {clock : Tick}

/-- Time passes. -/
theorem advance (recorded : Recorded dayStart r w clock) {later : Tick} (before : clock.Before later) :
    Recorded dayStart r w later where
  sound := recorded.sound
  status := recorded.status
  past := fun row member =>
    ⟨(recorded.past row member).1, (recorded.past row member).2.trans before.wall⟩
  idle := recorded.idle
  showing := by
    intro showing
    obtain ⟨start, session⟩ := recorded.showing showing
    exact ⟨start, { session with
      timed := ⟨session.timed.ready, session.timed.status, session.timed.total,
        session.timed.past.trans before.boot⟩
      past := session.past.trans before.wall }⟩
  books := recorded.books
  closed := recorded.closed
  reported := recorded.reported
  isStart := recorded.isStart
  midnight := recorded.midnight.trans before.today0

/-- The open session ends on the day it began on. -/
theorem close (recorded : Recorded dayStart r w clock) (days : DayStarts dayStart)
    (showing : r.recorder.cacher.isKeyboardShowing = true)
    (bound : r.recorder.store.nextId ≤ 2 ^ 31) {hide settle : Tick}
    (ofDay : OfDay settle.today0 r.recorder.store) (first : clock.Before hide)
    (second : hide.Before settle) (onDay : settle.OnDay dayStart) :
    Recorded dayStart
      { r with recorder :=
        { cacher := r.recorder.cacher.hidden hide
          store := r.recorder.settled r.recorder.cacher.currentImeBundle hide settle {} } }
      (w.close hide settle) settle := by
  obtain ⟨start, session⟩ := recorded.showing showing
  obtain ⟨id, stored⟩ := session.stored
  obtain ⟨row, member, began⟩ := session.began
  have sameDay := ofDay row member
  have hidden : w.close hide settle =
      { current := none
        closed := w.closed ++ [⟨r.recorder.cacher.currentImeBundle, start, hide, settle⟩] } := by
    rw [Ledger.close, session.current]
  have whole := session.timed.closeSegment first.boot
  have unreported : r.midnight ≤ dayStart settle.wall := by
    have later := days.mono (recorded.midnight.trans (first.midnight.trans second.wall))
    rwa [recorded.isStart] at later
  obtain ⟨gone, past, books⟩ := settleSession_day days recorded.sound.wf bound
    (r.recorder.cacher.stopRecord r.recorder.cacher.currentImeBundle hide)
    (recorded.sound.guarded showing) stored session.bundle
    (fun row member => ⟨(recorded.past row member).1,
      (recorded.past row member).2.trans (first.wall.trans second.wall)⟩) onDay
    (r.recorder.cacher.closeSegment hide.boot)
  rw [EventCacher.stopRecord_bundleName] at gone past books
  rw [hidden, Recorder.settled, EventCacher.closing_ready session.timed.ready]
  refine ⟨⟨recorded.sound.wf.settleSession _ _ _ _ _, ?_⟩, recorded.status, past,
    fun _ => ⟨rfl, gone⟩, ?_, fun b d from_ => ?_, fun s closed => ?_, fun b => ?_,
    recorded.isStart, recorded.midnight.trans (first.today0.trans second.today0)⟩
  · rintro ⟨⟩
  · rintro ⟨⟩
  · obtain ⟨time, shows⟩ := recorded.books b d from_
    obtain ⟨time', shows'⟩ := books b d
    rw [Ledger.onDay_append, Ledger.onDay_append, ← time, ← shows]
    have length : DurationMap.total (r.recorder.cacher.closeSegment hide.boot) =
        Session.time ⟨r.recorder.cacher.currentImeBundle, start, hide, settle⟩ := by
      simp only [Session.time]
      omega
    rw [length] at time'
    exact ⟨time', shows'⟩
  · rcases List.mem_append.1 closed with old | new
    · exact recorded.closed s old
    · rw [List.mem_singleton.1 new]
      refine ⟨?_, session.past.trans first.wall, second.wall⟩
      exact onDay.midnight.trans (began ▸ sameDay)
  · rw [Ledger.before_append _ unreported, Ledger.before_append _ unreported]
    exact recorded.reported b

/-- A session begins. -/
theorem opened (recorded : Recorded dayStart r w clock)
    (idle : r.recorder.cacher.isKeyboardShowing = false) (b : String) {start : Tick}
    (boot : start.boot ≤ clock.boot) (wall : start.wall ≤ clock.wall) (positive : 0 < start.wall)
    (unreported : r.midnight ≤ start.wall) :
    Recorded dayStart
      { r with recorder :=
        { cacher := r.recorder.cacher.opened b start
          store := (r.recorder.store.addEvent (r.recorder.cacher.startRecord b start) true).1 } }
      { w with current := some (b, start) } clock := by
  have wf := recorded.sound.wf
  obtain ⟨rows, times, counts⟩ := addEvent_day dayStart wf.ready
    (r.recorder.cacher.startRecord b start) (by rintro ⟨⟩)
  rw [(recorded.idle idle).2, List.nil_append] at rows
  have guarded := guarded_start wf (r.recorder.cacher.startRecord b start) rfl
  refine ⟨⟨wf.addEvent _ _, fun _ => guarded⟩, recorded.status, fun row member => ?_,
    ?_, fun _ => ⟨start, rfl, ?_, ?_, ?_, ?_, unreported, wall⟩,
    fun b' d from_ => ?_, recorded.closed, recorded.reported, recorded.isStart, recorded.midnight⟩
  · rcases times row member with old | new
    · exact recorded.past row old
    · have time : row.happenTime = start.wall := new
      omega
  · rintro ⟨⟩
  · exact .opened _ recorded.status b boot
  · rw [rows]
    exact ⟨_, .session _ [] rfl (by simp)⟩
  · intro row member
    rw [rows] at member
    rw [List.mem_singleton.1 member]
    rfl
  · rw [rows]
    exact ⟨_, List.mem_singleton.2 rfl, rfl⟩
  · simp only [dayTime, dayShows, counts]
    exact recorded.books b' d from_

/-- The status changes. -/
theorem screen (recorded : Recorded dayStart r w clock) (pre : Int) {new : Int}
    (valid : ValidStatus new) {now : Tick} (before : clock.Before now) (positive : 0 < now.wall) :
    Recorded dayStart { r with recorder := r.recorder.onScreenStatusChanged pre new now true } w
      now := by
  have sound := (onScreenStatusChanged_sound recorded.sound pre new now true).1
  have status : ValidStatus (r.recorder.cacher.decoded new).getScreenStatus := by
    rw [r.recorder.cacher.getScreenStatus_decoded valid]
    exact valid
  have later := recorded.advance before
  by_cases skip : r.recorder.cacher.isKeyboardShowing = false ∨ new = r.recorder.cacher.lastScreenStatus
  · rw [Recorder.onScreenStatusChanged_skip skip] at sound ⊢
    refine ⟨sound, status, later.past, later.idle, fun showing => ?_, later.books, later.closed,
      later.reported, later.isStart, later.midnight⟩
    obtain ⟨start, session⟩ := later.showing showing
    exact ⟨start, { session with timed := session.timed.decoded new le_rfl }⟩
  · obtain ⟨showing, changed⟩ := not_or.1 skip
    have showing : r.recorder.cacher.isKeyboardShowing = true := by simpa using showing
    rw [Recorder.onScreenStatusChanged_change showing changed] at sound ⊢
    have wf := recorded.sound.wf
    obtain ⟨rows, times, counts⟩ := addEvent_day dayStart wf.ready
      (r.recorder.cacher.statusRecord pre new now) (by rintro ⟨⟩)
    obtain ⟨start, session⟩ := recorded.showing showing
    obtain ⟨id, stored⟩ := session.stored
    obtain ⟨row, member, began⟩ := session.began
    refine ⟨sound, status, fun row member => ?_, fun idle => ?_, fun _ => ⟨start, ?_⟩,
      fun b d from_ => ?_, later.closed, later.reported, later.isStart, later.midnight⟩
    · rcases times row member with old | new
      · exact later.past row old
      · have time : row.happenTime = now.wall := new
        omega
    · exact absurd (showing.symm.trans idle) (by decide)
    · refine ⟨session.current, session.timed.turned valid before.boot, ⟨id, ?_⟩, ?_, ?_,
        session.unreported, session.past.trans before.wall⟩
      · rw [rows]
        apply stored.append rfl
        intro old member
        exact (wf.below old (List.mem_filter.1 member).1).le
      · intro row member
        rw [rows] at member
        rcases List.mem_append.1 member with old | new
        · exact session.bundle row old
        · rw [List.mem_singleton.1 new]
          rfl
      · rw [rows]
        exact ⟨row, List.mem_append_left _ member, began⟩
    · simp only [dayTime, dayShows, counts]
      exact recorded.books b d from_

/-- Who is current. -/
theorem is_current (recorded : Recorded dayStart r w clock) (b : String) :
    w.current.map Prod.fst = some b ↔
      r.recorder.cacher.isKeyboardShowing = true ∧ r.recorder.cacher.currentImeBundle = b := by
  cases showing : r.recorder.cacher.isKeyboardShowing with
  | false => simp [recorded.idle showing]
  | true =>
      obtain ⟨start, session⟩ := recorded.showing showing
      simp [session.current]

theorem bind (recorded : Recorded dayStart r w clock) (days : DayStarts dayStart) {b : String}
    {ticks : BindTicks} (withinDay : Step.WithinDay dayStart r (.call (.bind b ticks {} true)))
    (onDay : ∀ t ∈ Call.ticks (.bind b ticks {} true), t.OnDay dayStart) {rest : List Tick}
    (ticking : (clock :: ([ticks.hide, ticks.start, ticks.settle] ++ rest)).Pairwise Tick.Before) :
    ∃ clock', Recorded dayStart { r with recorder := r.recorder.onImeBind b ticks {} true }
        (w.call (.bind b ticks {} true)) clock' ∧ (clock' :: rest).Pairwise Tick.Before := by
  have skip := Lib.pairwise_skip ticking
  simp only [List.cons_append, List.nil_append, List.pairwise_cons] at ticking
  have hide := ticking.1 ticks.hide (by simp)
  have start := ticking.1 ticks.start (by simp)
  have hidden := ticking.2.1 ticks.settle (by simp)
  have started := ticking.2.2.1 ticks.settle (by simp)
  have positive := (onDay ticks.start (by simp [Call.ticks])).positive
  have unreported : r.midnight ≤ ticks.start.wall := recorded.midnight.trans start.midnight
  by_cases showing : r.recorder.cacher.isKeyboardShowing = true
  · by_cases same : r.recorder.cacher.currentImeBundle = b
    · rw [Recorder.onImeBind_same showing same, Ledger.call,
        if_pos ((recorded.is_current b).2 ⟨showing, same⟩)]
      exact ⟨clock, recorded, skip⟩
    · rw [Recorder.onImeBind_switch showing same, Ledger.call,
        if_neg fun current => same ((recorded.is_current b).1 current).2]
      obtain ⟨bound, ofDay⟩ := withinDay showing same
      have closed := recorded.close days showing bound ofDay hide hidden
        (onDay ticks.settle (by simp [Call.ticks]))
      exact ⟨ticks.settle, closed.opened rfl b started.boot started.wall positive unreported,
        List.pairwise_cons.2 ticking.2.2.2⟩
  · have idle : r.recorder.cacher.isKeyboardShowing = false := by simpa using showing
    have left : w.close ticks.hide ticks.settle = w := by simp [Ledger.close, recorded.idle idle]
    rw [Recorder.onImeBind_idle idle, Ledger.call,
      if_neg fun current => showing ((recorded.is_current b).1 current).1, left]
    have later := recorded.advance (ticking.1 ticks.settle (by simp))
    exact ⟨ticks.settle, later.opened idle b started.boot started.wall positive unreported,
      List.pairwise_cons.2 ticking.2.2.2⟩

theorem unbind (recorded : Recorded dayStart r w clock) (days : DayStarts dayStart) {b : String}
    {ticks : UnbindTicks} (withinDay : Step.WithinDay dayStart r (.call (.unbind b ticks {})))
    (current : Call.Current r.recorder (.unbind b ticks {}))
    (onDay : ticks.settle.OnDay dayStart) {rest : List Tick}
    (ticking : (clock :: ([ticks.hide, ticks.settle] ++ rest)).Pairwise Tick.Before) :
    ∃ clock', Recorded dayStart { r with recorder := r.recorder.onImeUnbind b ticks {} }
        (w.call (.unbind b ticks {})) clock' ∧ (clock' :: rest).Pairwise Tick.Before := by
  have skip := Lib.pairwise_skip ticking
  simp only [List.cons_append, List.nil_append, List.pairwise_cons] at ticking
  have hide := ticking.1 ticks.hide (by simp)
  have hidden := ticking.2.1 ticks.settle (by simp)
  by_cases showing : r.recorder.cacher.isKeyboardShowing = true
  · obtain rfl := current showing
    obtain ⟨bound, ofDay⟩ := withinDay showing
    rw [Recorder.onImeUnbind_showing showing, Ledger.call,
      if_pos ((recorded.is_current _).2 ⟨showing, rfl⟩)]
    exact ⟨ticks.settle, recorded.close days showing bound ofDay hide hidden onDay,
      List.pairwise_cons.2 ticking.2.2⟩
  · rw [Recorder.onImeUnbind_idle (by simpa using showing), Ledger.call,
      if_neg fun current => showing ((recorded.is_current b).1 current).1]
    exact ⟨clock, recorded, skip⟩

/-- A session that was settled on a day that was not reported has its booking there. -/
theorem settled_row (recorded : Recorded dayStart r w clock) {s : Session} (member : s ∈ w.closed)
    (unreported : r.midnight ≤ dayStart s.settle.wall) :
    ∃ row ∈ r.recorder.store.events, dayStart row.happenTime = dayStart s.settle.wall := by
  have shows := (recorded.books s.bundleName _ unreported).2
  have counted : 0 < w.onDay dayStart (fun _ => 1) s.bundleName (dayStart s.settle.wall) := by
    have here : s ∈ w.closed.filter fun t =>
        t.bundleName == s.bundleName && dayStart t.settle.wall == dayStart s.settle.wall :=
      List.mem_filter.2 ⟨member, by simp⟩
    simp only [Ledger.onDay, List.map_const', List.sum_replicate, smul_eq_mul, Nat.mul_one]
    exact List.length_pos_of_mem here
  have rows : dayCounts dayStart s.bundleName (dayStart s.settle.wall) r.recorder.store.events ≠
    [] := by
    intro none
    rw [dayShows, none] at shows
    exact absurd shows (by simpa using counted.ne)
  obtain ⟨row, here⟩ := List.exists_mem_of_ne_nil _ rows
  obtain ⟨count, ofDay⟩ := List.mem_filter.1 here
  exact ⟨row, (List.mem_filter.1 count).1, by simpa using ofDay⟩

/-- An active day is over by today's midnight, has only bookings up to its end, and is
reported as the ledger has it. -/
theorem active (recorded : Recorded dayStart r w clock) (days : DayStarts dayStart) {now : Tick}
    (onDay : now.OnDay dayStart) (positive : 0 < now.today0)
    (withinDay : Step.WithinDay dayStart r (.report now)) {reportDayStart : Nat}
    (found : r.calcReportDayStart dayStart = some reportDayStart) {d : Nat}
    (member : d ∈ r.recorder.store.queryActiveDays dayStart reportDayStart (now.today0 - 1))
    (b : String) :
    (r.midnight ≤ d ∧ d < now.today0) ∧
      infoTime b (r.recorder.store.getUsageInfo d (d + millisecsPerDay - 1)) =
        w.onDay dayStart Session.time b d ∧
      infoShows b (r.recorder.store.getUsageInfo d (d + millisecsPerDay - 1)) =
        w.onDay dayStart (fun _ => 1) b d := by
  have ready := recorded.sound.wf.ready
  have unreported := (calcReportDayStart_spec ready days recorded.isStart found).2
  obtain ⟨ofDay, fits⟩ := withinDay
  obtain ⟨row, here, low, high, rfl⟩ := (mem_queryActiveDays ready).1 member
  have floor := days.floor row.happenTime
  have isStart := days.same row.happenTime _ le_rfl (by unfold millisecsPerDay; omega)
  have ended := days.next onDay.isStart (t := row.happenTime) (by omega)
  have counts : ∀ old ∈ r.recorder.store.events,
      old.happenTime ≤ dayStart row.happenTime + millisecsPerDay - 1 →
        old.rawid = .countDuration := by
    intro old member early
    by_contra raw
    have today := ofDay old (List.mem_filter.2 ⟨member, by simp [EventRow.isCount, raw]⟩)
    have hours : 0 < millisecsPerDay := by decide
    omega
  obtain ⟨time, shows⟩ := getUsageInfo_day ready days isStart counts (fits row here (by omega)) b
  obtain ⟨bookedTime, bookedShows⟩ := recorded.books b _ (unreported _ low)
  exact ⟨⟨unreported _ low, by omega⟩, time.trans bookedTime, shows.trans bookedShows⟩

/-- What is reported after the active days were sent. -/
theorem sent (recorded : Recorded dayStart r w clock) (days : DayStarts dayStart) {now : Tick}
    (before : clock.Before now) (onDay : now.OnDay dayStart) (positive : 0 < now.today0)
    (withinDay : Step.WithinDay dayStart r (.report now)) {reportDayStart : Nat}
    (found : r.calcReportDayStart dayStart = some reportDayStart) (b : String) :
    let r' := r.sentDays (r.recorder.store.queryActiveDays dayStart reportDayStart (now.today0 - 1))
      now.today0
    reportedTime b r'.reported = w.before dayStart Session.time b now.today0 ∧
      reportedShows b r'.reported = w.before dayStart (fun _ => 1) b now.today0 := by
  intro r'
  have ready := recorded.sound.wf.ready
  have covers := (calcReportDayStart_spec ready days recorded.isStart found).1
  have order : r.midnight ≤ now.today0 := recorded.midnight.trans before.today0
  have active := fun d member =>
    recorded.active days onDay positive withinDay found (d := d) member b
  -- a day that has sessions has a booking, which makes it active
  have cover : ∀ s ∈ w.closed, s.bundleName = b → r.midnight ≤ dayStart s.settle.wall →
      dayStart s.settle.wall < now.today0 → dayStart s.settle.wall ∈
        r.recorder.store.queryActiveDays dayStart reportDayStart (now.today0 - 1) := by
    intro s member _ low high
    obtain ⟨row, here, same⟩ := recorded.settled_row member low
    have ended := days.next onDay.isStart high
    have within := days.within row.happenTime
    exact (mem_queryActiveDays ready).2 ⟨row, here, covers row here (by rwa [same]), by omega, same⟩
  have sums := fun value => w.before_days value b order (queryActiveDays_nodup _ _ _)
    (fun d member => (active d member).1) cover
  obtain ⟨time, shows⟩ := recorded.reported b
  constructor
  · rw [sums, ← time]
    refine (infoSum_days _ b _ _ r.reported).trans (congrArg _ (congrArg List.sum ?_))
    exact List.map_congr_left fun d member => (active d member).2.1
  · rw [sums, ← shows]
    refine (infoSum_days _ b _ _ r.reported).trans (congrArg _ (congrArg List.sum ?_))
    exact List.map_congr_left fun d member => (active d member).2.2

/-- What is reported is what the ledger has, up to the midnight of the report. -/
theorem sent_until (recorded : Recorded dayStart r w clock) (days : DayStarts dayStart) {now : Tick}
    (before : clock.Before now) (onDay : now.OnDay dayStart)
    (withinDay : Step.WithinDay dayStart r (.report now)) {reportDayStart : Nat}
    (found : r.calcReportDayStart dayStart = some reportDayStart) :
    let r' := r.sentDays (r.recorder.store.queryActiveDays dayStart reportDayStart (now.today0 - 1))
      now.today0
    r.midnight ≤ r'.midnight ∧ r'.midnight ≤ now.today0 ∧ dayStart r'.midnight = r'.midnight ∧
      ∀ b, reportedTime b r'.reported = w.before dayStart Session.time b r'.midnight ∧
        reportedShows b r'.reported = w.before dayStart (fun _ => 1) b r'.midnight := by
  intro r'
  have order : r.midnight ≤ now.today0 := recorded.midnight.trans before.today0
  have midnight : r'.midnight = if 1 < now.today0 then now.today0 else 0 := midnight_sentDays _ _ _
  by_cases late : 1 < now.today0
  · rw [if_pos late] at midnight
    rw [midnight]
    exact ⟨order, le_rfl, onDay.isStart,
      recorded.sent days before onDay (by omega) withinDay found⟩
  · rw [if_neg late] at midnight
    have never : r.midnight = 0 := by
      unfold Reporter.midnight reportTimeNever at order ⊢
      split <;> simp_all
      omega
    have none : r.recorder.store.queryActiveDays dayStart reportDayStart (now.today0 - 1) = [] := by
      apply List.eq_nil_iff_forall_not_mem.2
      intro d member
      obtain ⟨row, here, -, high, -⟩ := (mem_queryActiveDays recorded.sound.wf.ready).1 member
      have positive := (recorded.past row here).1
      omega
    have same : r'.reported = r.reported := by
      show r.reported ++ _ = r.reported
      rw [none]
      exact List.append_nil _
    rw [midnight, same, ← never]
    exact ⟨le_rfl, order, recorded.isStart, recorded.reported⟩

/-- A report. -/
theorem report (recorded : Recorded dayStart r w clock) (days : DayStarts dayStart) {now : Tick}
    (before : clock.Before now) (onDay : now.OnDay dayStart)
    (withinDay : Step.WithinDay dayStart r (.report now)) :
    Recorded dayStart (r.innerReportDailyEvent dayStart now.today0 {}) w now := by
  have wf := recorded.sound.wf
  have later := recorded.advance before
  cases found : r.calcReportDayStart dayStart with
  | none =>
      unfold Reporter.innerReportDailyEvent
      simp only [found]
      exact later
  | some reportDayStart =>
      obtain ⟨grows, today, isStart, reported⟩ :=
        recorded.sent_until days before onDay withinDay found
      have raw := rawRows_sentDays withinDay.1
        (r.recorder.store.queryActiveDays dayStart reportDayStart (now.today0 - 1))
      rw [innerReportDailyEvent_sent wf.ready found]
      generalize r.recorder.store.queryActiveDays dayStart reportDayStart (now.today0 - 1) = active
        at grows today isStart reported raw
      have fewer : ∀ row ∈ (r.sentDays active now.today0).recorder.store.events,
          row ∈ r.recorder.store.events := fun row member => (List.mem_filter.1 member).1
      refine ⟨⟨wf.sentDays active _, fun showing => ?_⟩, recorded.status,
        fun row member => later.past row (fewer row member), fun idle => ?_, fun showing => ?_,
        fun b d from_ => ?_, recorded.closed, reported, isStart, today⟩
      · exact (recorded.sound.guarded showing).fewer raw fewer
      · exact ⟨(recorded.idle idle).1, raw.trans (recorded.idle idle).2⟩
      · obtain ⟨start, session⟩ := later.showing showing
        obtain ⟨row, member, began⟩ := session.began
        refine ⟨start, session.current, session.timed, ?_, ?_, ?_, ?_, session.past⟩
        · rw [raw]
          exact session.stored
        · rw [raw]
          exact session.bundle
        · rw [raw]
          exact session.began
        · exact today.trans (began ▸ withinDay.1 row member)
      · rw [midnight_sentDays] at from_
        have kept : now.today0 - millisecsPerDay * dataKeepDay ≤ d := by
          unfold millisecsPerDay dataKeepDay
          split at from_ <;> omega
        simp only [dayTime, dayShows, dayCounts_sentDays days r active kept b]
        refine recorded.books b d (grows.trans ?_)
        rw [midnight_sentDays]
        exact from_

/-- One step. -/
theorem step (recorded : Recorded dayStart r w clock) (days : DayStarts dayStart) {step : Step}
    (sequential : step.Sequential r) (withinDay : step.WithinDay dayStart r)
    (onDay : ∀ t ∈ step.ticks, t.OnDay dayStart) {rest : List Tick}
    (ticking : (clock :: (step.ticks ++ rest)).Pairwise Tick.Before) :
    ∃ clock', Recorded dayStart (r.step dayStart step) (w.step step) clock' ∧
      (clock' :: rest).Pairwise Tick.Before := by
  cases step with
  | call made =>
      cases made with
      | bind b ticks settled started =>
          obtain ⟨⟨rfl, rfl⟩, -⟩ := sequential
          exact recorded.bind days withinDay onDay ticking
      | unbind b ticks settled =>
          obtain ⟨rfl, current⟩ := sequential
          exact recorded.unbind days withinDay current
            (onDay ticks.settle (by simp [Step.ticks, Call.ticks])) ticking
      | screen pre new now written =>
          obtain ⟨rfl, -⟩ : written = true ∧ _ := sequential
          obtain ⟨first, ticking'⟩ := List.pairwise_cons.1 ticking
          refine ⟨now, recorded.screen pre withinDay (first now (by simp [Step.ticks, Call.ticks]))
            (onDay now (by simp [Step.ticks, Call.ticks])).positive, ticking'⟩
  | report now =>
      obtain ⟨first, ticking'⟩ := List.pairwise_cons.1 ticking
      exact ⟨now, recorded.report days (first now (by simp [Step.ticks]))
        (onDay now (by simp [Step.ticks])) withinDay, ticking'⟩

/-- A run. -/
theorem run (recorded : Recorded dayStart r w clock) (days : DayStarts dayStart) {steps : List Step}
    (meets : Lib.Meets (Reporter.step dayStart)
      (fun r step => step.Sequential r ∧ step.WithinDay dayStart r) r steps)
    (onDay : ∀ t ∈ steps.flatMap Step.ticks, t.OnDay dayStart)
    (ticking : (clock :: steps.flatMap Step.ticks).Pairwise Tick.Before) :
    ∃ clock', Recorded dayStart (Lib.run (Reporter.step dayStart) r steps)
      (Lib.run Ledger.step w steps) clock' := by
  induction steps generalizing r w clock with
  | nil => exact ⟨clock, recorded⟩
  | cons step steps ih =>
      rw [List.flatMap_cons] at onDay ticking
      obtain ⟨⟨sequential, withinDay⟩, rest⟩ := meets
      obtain ⟨clock', next, ticking'⟩ := recorded.step days sequential withinDay
        (fun t member => onDay t (List.mem_append_left _ member)) ticking
      exact ih next rest (fun t member => onDay t (List.mem_append_right _ member)) ticking'

/-- Every session lies on one side of a midnight that was reported. -/
theorem side (recorded : Recorded dayStart r w clock) (days : DayStarts dayStart) {s : Session}
    (member : s ∈ w.closed) :
    (s.start.wall < r.midnight ↔ dayStart s.settle.wall < r.midnight) ∧
      s.shownUntil r.midnight = if dayStart s.settle.wall < r.midnight then s.time else 0 := by
  obtain ⟨began, shown, settled⟩ := recorded.closed s member
  have within := days.within s.settle.wall
  by_cases earlier : dayStart s.settle.wall < r.midnight
  · have ended := days.next recorded.isStart earlier
    rw [if_pos earlier, Session.shownUntil, if_pos (by omega)]
    exact ⟨⟨fun _ => earlier, fun _ => by omega⟩, rfl⟩
  · rw [if_neg earlier, Session.shownUntil, if_neg (by omega)]
    exact ⟨⟨fun start => by omega, fun settle => absurd settle earlier⟩, by omega⟩

/-- The open session began after every midnight that was reported. -/
theorem open_later (recorded : Recorded dayStart r w clock) {c : String} {start : Tick}
    (current : w.current = some (c, start)) : r.midnight ≤ start.wall := by
  cases showing : r.recorder.cacher.isKeyboardShowing with
  | false => simp [recorded.idle showing] at current
  | true =>
      obtain ⟨start', session⟩ := recorded.showing showing
      obtain ⟨rfl, rfl⟩ := Prod.mk.inj (Option.some.inj (session.current.symm.trans current))
      exact session.unreported

theorem exact (recorded : Recorded dayStart r w clock) (days : DayStarts dayStart) :
    ReportsExact r w := by
  intro b
  obtain ⟨time, shows⟩ := recorded.reported b
  obtain ⟨shown, sessions⟩ := w.until_eq_before (fun _ _ current => recorded.open_later current)
    (fun _ member => recorded.side days member) b
  exact ⟨time.trans shown.symm, shows.trans sessions.symm⟩

end Recorded

/-! ## Runs -/

/-- A reporter that was never used: nothing shown, stored or reported. -/
structure Reporter.Unused (r : Reporter) : Prop where
  wf : WellFormed r.recorder.store
  idle : r.recorder.cacher.isKeyboardShowing = false
  status : ValidStatus r.recorder.cacher.getScreenStatus
  empty : r.recorder.store.events = []
  never : r.lastReportTime = reportTimeNever
  none : r.reported = []

theorem Reporter.Unused.recorded {r : Reporter} (unused : r.Unused) {dayStart : Nat → Nat}
    (days : DayStarts dayStart) : Recorded dayStart r {} { boot := 0, wall := 0, today0 := 0 } := by
  have midnight : r.midnight = 0 := if_pos unused.never
  refine ⟨⟨unused.wf, fun showing => ?_⟩, unused.status, ?_, fun _ => ⟨rfl, ?_⟩, fun showing => ?_,
    fun b d _ => ?_, nofun, fun b => ?_, ?_, midnight.le⟩
  · exact absurd (showing.symm.trans unused.idle) (by decide)
  · rw [unused.empty]
    nofun
  · rw [unused.empty]
    rfl
  · exact absurd (showing.symm.trans unused.idle) (by decide)
  · rw [unused.empty]
    exact ⟨rfl, rfl⟩
  · rw [unused.none]
    exact ⟨rfl, rfl⟩
  · rw [midnight]
    exact Nat.le_zero.1 (days.floor 0)

/-- **Reports are exact over days.**  Along every run of calls and daily reports from an
unused reporter, with ordered clocks, where no session is open across a midnight that is
reported or settled after. -/
theorem reports_exact {dayStart : Nat → Nat} (days : DayStarts dayStart) {r : Reporter}
    (unused : r.Unused) (steps : List Step)
    (ticking : (steps.flatMap Step.ticks).Pairwise Tick.Before)
    (onDay : ∀ t ∈ steps.flatMap Step.ticks, t.OnDay dayStart)
    (meets : Lib.Meets (Reporter.step dayStart)
      (fun r step => step.Sequential r ∧ step.WithinDay dayStart r) r steps) :
    ReportsExact (Lib.run (Reporter.step dayStart) r steps) (Lib.run Ledger.step {} steps) := by
  have clock : (({ boot := 0, wall := 0, today0 := 0 } : Tick) :: steps.flatMap Step.ticks).Pairwise
      Tick.Before :=
    List.pairwise_cons.2 ⟨fun t _ => ⟨t.boot.zero_le, t.wall.zero_le, t.wall.zero_le, t.today0.zero_le⟩,
      ticking⟩
  obtain ⟨clock', reached⟩ := (unused.recorded days).run days meets onDay clock
  exact reached.exact days

/-! ## Poles -/

/-- All readings of a call at the hour of a day. -/
def Tick.hour (day hour : Nat) : Tick :=
  let now := (day * 24 + hour) * 3600000
  { boot := now, wall := now, today0 := utcDayStart now }

def Step.bind (b : String) (now : Tick) : Step := .call (.bind b ⟨now, now, now⟩ {} true)

def Step.unbind (b : String) (now : Tick) : Step := .call (.unbind b ⟨now, now⟩ {})

def Reporter.fresh : Reporter := { recorder := .fresh }

theorem Reporter.fresh_unused : Reporter.fresh.Unused :=
  ⟨Recorder.fresh_wellFormed, rfl, by decide, rfl, rfl, rfl⟩

/-- Two days of sessions that end before midnight. -/
theorem two_days_reported :
    let steps : List Step :=
      [.bind "a" (.hour 1 8), .call (.screen 12 11 (.hour 1 9) true), .bind "b" (.hour 1 10),
       .unbind "b" (.hour 1 12), .report (.hour 2 1), .bind "a" (.hour 2 3), .unbind "a" (.hour 2 4),
       .report (.hour 3 1)]
    ReportsExact (Lib.run (Reporter.step utcDayStart) .fresh steps) (Lib.run Ledger.step {} steps) := by
  exact reports_exact utcDayStart_days Reporter.fresh_unused _ (by decide +kernel) (by decide +kernel)
    (by decide +kernel)

/-- A session from 23:00 to 01:00 with a report in between: the hour before midnight is in
the first report and again in the second, and one session is counted twice. -/
theorem midnight_session_counted_twice :
    let steps : List Step :=
      [.bind "a" (.hour 1 23), .report (.hour 2 0), .unbind "a" (.hour 2 1), .report (.hour 3 0)]
    let r := Lib.run (Reporter.step utcDayStart) .fresh steps
    let w := Lib.run Ledger.step {} steps
    (steps.flatMap Step.ticks).Pairwise Tick.Before ∧
      (∀ t ∈ steps.flatMap Step.ticks, t.OnDay utcDayStart) ∧
      Lib.Meets (Reporter.step utcDayStart) (fun r step => step.Sequential r) .fresh steps ∧
      reportedTime "a" r.reported = 3599999 + 7200000 ∧ w.shownUntil "a" r.midnight = 7200000 ∧
      reportedShows "a" r.reported = 2 ∧ w.sessionsUntil "a" r.midnight = 1 ∧ ¬ ReportsExact r w := by
  intro steps r w
  have shows : reportedShows "a" r.reported = 2 ∧ w.sessionsUntil "a" r.midnight = 1 := by
    decide +kernel
  refine ⟨by decide +kernel, by decide +kernel, by decide +kernel, by decide +kernel,
    by decide +kernel, shows.1, shows.2, fun exact => ?_⟩
  have same := (exact "a").2
  rw [shows.1, shows.2] at same
  cases same

end Imf.Usage
