/-
# Imf.Usage.Days -- what is booked on a day, and what a report of it says

Days of 24 hours (`DayStarts`), the bookings of a bundle on a day, and the report of a day
that has no raw rows before its end: every bundle with a booking on the day is reported
with exactly that, when the sums fit in 32 bits, none is zero, and there are at most a
hundred of them (`DayFits`).
-/
import Imf.Usage.Reporter
import Imf.Usage.Booking
import Imf.Lib.Fiber

namespace Imf.Usage

set_option autoImplicit false

open DataHelper

/-! ## Days of 24 hours -/

/-- `DayStartFromMs` where every local day has 24 hours. -/
structure DayStarts (dayStart : Nat → Nat) : Prop where
  floor : ∀ t, dayStart t ≤ t
  within : ∀ t, t < dayStart t + millisecsPerDay
  same : ∀ t x, dayStart t ≤ x → x < dayStart t + millisecsPerDay → dayStart x = dayStart t

/-- Days that start at multiples of 24 hours. -/
def utcDayStart (ms : Nat) : Nat := ms / millisecsPerDay * millisecsPerDay

theorem utcDayStart_days : DayStarts utcDayStart := by
  have hours : millisecsPerDay = 86400000 := rfl
  unfold utcDayStart
  rw [hours]
  refine ⟨fun t => by omega, fun t => ?_, fun t x low high => ?_⟩
  · rw [hours]
    omega
  · rw [hours] at high
    omega

section Days

variable {dayStart : Nat → Nat}

theorem DayStarts.mono (days : DayStarts dayStart) {x y : Nat} (le : x ≤ y) :
    dayStart x ≤ dayStart y := by
  by_contra gt
  have low := days.floor x
  have high := days.within y
  have same := days.same y x (by omega) (by omega)
  omega

/-- The next day starts 24 hours later at the earliest. -/
theorem DayStarts.next (days : DayStarts dayStart) {midnight : Nat}
    (isStart : dayStart midnight = midnight) {t : Nat} (earlier : dayStart t < midnight) :
    dayStart t + millisecsPerDay ≤ midnight := by
  by_contra gt
  have same := days.same t midnight (by omega) (by omega)
  omega

/-- The rows that a report of a day reads are those of the day. -/
theorem DayStarts.inPeriod_iff (days : DayStarts dayStart) {d : Nat} (isStart : dayStart d = d)
    (row : EventRow) :
    inPeriod d (d + millisecsPerDay - 1) row = true ↔ dayStart row.happenTime = d := by
  have positive : 0 < millisecsPerDay := by decide
  have within := days.within row.happenTime
  have floor := days.floor row.happenTime
  simp only [inPeriod, decide_eq_true_eq]
  constructor
  · rintro ⟨low, high⟩
    have same := days.same d row.happenTime
    rw [isStart] at same
    exact same low (by omega)
  · intro same
    omega

/-! ## Bookings of a day -/

/-- The `COUNT_DURATION` rows of a bundle on a day. -/
def dayCounts (dayStart : Nat → Nat) (b : String) (d : Nat) (events : List EventRow) : List EventRow :=
  (countRows b events).filter fun row => dayStart row.happenTime == d

def dayTime (dayStart : Nat → Nat) (b : String) (d : Nat) (events : List EventRow) : Nat :=
  ((dayCounts dayStart b d events).map fun row => DurationMap.total row.durations).sum

def dayShows (dayStart : Nat → Nat) (b : String) (d : Nat) (events : List EventRow) : Nat :=
  ((dayCounts dayStart b d events).map EventRow.showCount).sum

theorem dayCounts_append (b : String) (d : Nat) (l l' : List EventRow) :
    dayCounts dayStart b d (l ++ l') = dayCounts dayStart b d l ++ dayCounts dayStart b d l' := by
  simp [dayCounts, countRows]

theorem dayCounts_cons (b : String) (d : Nat) (row : EventRow) (l : List EventRow) :
    dayCounts dayStart b d (row :: l) =
      (if isRow b .countDuration row = true ∧ dayStart row.happenTime = d then [row] else []) ++
        dayCounts dayStart b d l := by
  by_cases hit : isRow b .countDuration row = true
  · by_cases ofDay : dayStart row.happenTime = d <;> simp [dayCounts, countRows, hit, ofDay]
  · simp [dayCounts, countRows, hit]

section Upsert

variable {b : String} {today0 : Nat} {count : EventRecord} {durations : DurationMap}
  {s s' : DataHelper}

/-- The rows after an upsert are old ones, or have the time of its record. -/
theorem Upserted.times (upserted : Upserted b today0 count durations s s') :
    ∀ row ∈ s'.events, row ∈ s.events ∨ row.happenTime = count.happenTime := by
  cases upserted with
  | existing before after row events rowBundle rowKind ofDay =>
      intro r member
      rcases List.mem_append.1 member with old | member
      · exact .inl (by simp [events, old])
      · rcases List.mem_cons.1 member with rfl | old
        · exact .inr rfl
        · exact .inl (by simp [events, old])
  | new =>
      intro r member
      rcases List.mem_append.1 member with old | new
      · exact .inl old
      · exact .inr (by rw [List.mem_singleton.1 new]; rfl)

/-- **An upsert books on the day of its record.** -/
theorem Upserted.day (upserted : Upserted b today0 count durations s s')
    (kind : count.rawid = .countDuration) (bundle : count.bundleName = b) (days : DayStarts dayStart)
    (midnight : dayStart count.happenTime ≤ today0)
    (past : ∀ row ∈ s.events, row.happenTime ≤ count.happenTime) (b' : String) (d : Nat) :
    dayTime dayStart b' d s'.events = dayTime dayStart b' d s.events +
        (if b' = b ∧ d = dayStart count.happenTime then DurationMap.total durations else 0) ∧
      dayShows dayStart b' d s'.events = dayShows dayStart b' d s.events +
        (if b' = b ∧ d = dayStart count.happenTime then 1 else 0) := by
  cases upserted with
  | existing before after row events rowBundle rowKind ofDay =>
      have here : row.happenTime ≤ count.happenTime := past row (by simp [events])
      have within := days.within count.happenTime
      have same : dayStart row.happenTime = dayStart count.happenTime :=
        days.same _ _ (by omega) (by omega)
      have test : isRow b' .countDuration row = (b == b') := by simp [isRow, rowBundle, rowKind]
      have test' : isRow b' .countDuration (row.addSession count durations) = (b == b') := test
      have day' : dayStart (row.addSession count durations).happenTime =
        dayStart count.happenTime := rfl
      simp only [dayTime, dayShows, events, dayCounts_append, dayCounts_cons, test, test', day', same,
        beq_iff_eq]
      by_cases hit : b = b' ∧ dayStart count.happenTime = d
      · simp only [hit, and_self, if_true, List.map_append, List.sum_append,
          List.map_cons, List.map_nil,
          List.sum_cons, List.sum_nil, EventRow.addSession, DurationMap.total_add]
        constructor <;> omega
      · have miss : ¬ (b' = b ∧ d = dayStart count.happenTime) := fun both =>
          hit ⟨both.1.symm, both.2.symm⟩
        simp [hit, miss]
  | new =>
      have test : isRow b' .countDuration
          (makeRow s.nextId { count with showCount := 1 } durations) = (b == b') := by
        simp [isRow, makeRow, kind, bundle]
      simp only [dayTime, dayShows, dayCounts_append, dayCounts_cons, test, beq_iff_eq]
      by_cases hit : b = b' ∧ dayStart count.happenTime = d
      · simp [hit, makeRow, dayCounts, countRows]
      · have miss : ¬ (b' = b ∧ d = dayStart count.happenTime) := fun both =>
          hit ⟨both.1.symm, both.2.symm⟩
        simp [hit, miss, makeRow, dayCounts, countRows]

end Upsert

/-! ## The report of a day -/

/-- What fits in the report of the rows of a day: at most a hundred bundles, each with a
positive time, and sums of 32 bits. -/
def DayFits (rows : List EventRow) : Prop :=
  (rows.map EventRow.bundleName).dedup.length ≤ maxImeUsageSize ∧
    ∀ row ∈ rows, 0 < DurationMap.total (booked row.bundleName rows) ∧
      (∀ i, booked row.bundleName rows i < 2 ^ 32) ∧ bookedShows row.bundleName rows < 2 ^ 32

instance (rows : List EventRow) : Decidable (DayFits rows) :=
  inferInstanceAs (Decidable (_ ∧ ∀ row ∈ rows, _))

/-- A sum over what a report gives for a bundle. -/
def infoSum (value : UsageInfo → Nat) (b : String) (infos : List UsageInfo) : Nat :=
  ((infos.filter fun info => info.package == b).map value).sum

def infoTime : String → List UsageInfo → Nat := infoSum fun info => DurationMap.total info.durations

def infoShows : String → List UsageInfo → Nat := infoSum UsageInfo.showCount

/-- What a bundle is reported with when all its rows are bookings. -/
def infoOf (rows : List EventRow) (b : String) : UsageInfo :=
  { package := b, durations := booked b rows, showCount := bookedShows b rows,
    usage := DurationMap.total (booked b rows) }

theorem toUInt32_eq {n : Nat} (small : n < 2 ^ 32) : toUInt32 n = n := Nat.mod_eq_of_lt small

theorem toUInt32_add (a b : Nat) : toUInt32 (toUInt32 a + b) = toUInt32 (a + b) :=
  Nat.mod_add_mod a (2 ^ 32) b

/-- The shows that a report counts for a row. -/
def EventRow.shows (row : EventRow) : Nat :=
  if row.rawid = .inputStart then 1 else if row.rawid = .countDuration then row.showCount else 0

/-- The sums that the report makes, modulo 2^32. -/
theorem foldl_addRow (rows : List EventRow) {info : UsageInfo} (small : ∀ i, info.durations i < 2 ^ 32)
    (few : info.showCount < 2 ^ 32) :
    rows.foldl UsageInfo.addRow info =
      { info with
        durations := fun i => toUInt32 (info.durations i + (rows.map EventRow.durations).sum i)
        showCount := toUInt32 (info.showCount + (rows.map EventRow.shows).sum) } := by
  induction rows generalizing info with
  | nil =>
      have same : (fun i => toUInt32 (info.durations i + (0 : DurationMap) i)) = info.durations :=
        funext fun i => toUInt32_eq (small i)
      simp only [List.foldl_nil, List.map_nil, List.sum_nil, same, Nat.add_zero, toUInt32_eq few]
  | cons row rows ih =>
      have bound : ∀ n, toUInt32 n < 2 ^ 32 := fun n => Nat.mod_lt _ (by decide)
      have added : info.addRow row =
          { info with
            durations := fun i => toUInt32 (info.durations i + row.durations i)
            showCount := toUInt32 (info.showCount + row.shows) } := by
        unfold UsageInfo.addRow EventRow.shows
        congr 1
        split
        · rfl
        · split
          · rfl
          · exact (toUInt32_eq few).symm
      rw [List.foldl_cons, added, ih (fun i => bound _) (bound _)]
      simp only [toUInt32_add, List.map_cons, List.sum_cons, Pi.add_apply, Nat.add_assoc]

/-- The statistic channel where all the rows of the period are bookings. -/
theorem queryStatistic_counts {s : DataHelper} (ready : s.ready = true) {startTime endTime : Nat}
    (counts : ∀ row ∈ s.events.filter (inPeriod startTime endTime), row.rawid = .countDuration)
    (fits : DayFits (s.events.filter (inPeriod startTime endTime))) :
    s.queryStatisticEventsInPeriod startTime endTime =
      ((s.events.filter (inPeriod startTime endTime)).map EventRow.bundleName).dedup.map
        (infoOf (s.events.filter (inPeriod startTime endTime))) := by
  unfold queryStatisticEventsInPeriod
  rw [if_neg (by simp [ready])]
  dsimp only
  generalize s.events.filter (inPeriod startTime endTime) = rows at counts fits
  apply List.map_congr_left
  intro b member
  obtain ⟨row, here, rfl⟩ := List.mem_map.1 (List.mem_dedup.1 member)
  obtain ⟨-, small, few⟩ := fits.2 row here
  have mine : (rows.filter fun r => r.bundleName == row.bundleName) =
    countRows row.bundleName rows := by
    apply List.filter_congr
    intro r member
    simp [isRow, counts r member]
  have shows : (countRows row.bundleName rows).map EventRow.shows =
      (countRows row.bundleName rows).map EventRow.showCount := by
    refine List.map_congr_left fun r member => ?_
    rw [EventRow.shows, counts r (List.mem_filter.1 member).1]
    rfl
  rw [mine, foldl_addRow _ (fun i => by simp) (by simp), shows]
  have durations : (fun i => toUInt32 ((0 : DurationMap) i +
      ((countRows row.bundleName rows).map EventRow.durations).sum i)) =
      booked row.bundleName rows := by
    funext i
    rw [Pi.zero_apply, Nat.zero_add]
    exact toUInt32_eq (small i)
  simp only [durations, infoOf, UsageInfo.getAppUsage, Nat.zero_add, UsageInfo.mk.injEq, true_and,
    and_true]
  exact toUInt32_eq few

/-- No open session up to the end of the period: the foreground channel adds nothing. -/
theorem mergeForegroundInfo_none {s : DataHelper} {endTime : Nat}
    (counts : ∀ row ∈ s.events, row.happenTime ≤ endTime → row.rawid = .countDuration)
    (infos : List UsageInfo) (startTime : Nat) :
    s.mergeForegroundInfo infos startTime endTime = infos := by
  have last : (s.queryFinalEventInfo endTime).rawId ≠ .inputStart ∧
      (s.queryFinalEventInfo endTime).rawId ≠ .inputStatusChanged := by
    unfold queryFinalEventInfo
    split
    · exact ⟨by decide, by decide⟩
    · split
      · exact ⟨by decide, by decide⟩
      · rename_i row found
        obtain ⟨member, early⟩ := Lib.findLast?_eq_some found
        have kind := counts row member (by simpa using early)
        simp [kind]
  simp only [mergeForegroundInfo, if_pos last]

/-- All that has a positive usage is reported, when it is not too much. -/
theorem collectAndSortResults_perm {infos : List UsageInfo} (positive : ∀ info ∈ infos, 0 < info.usage)
    (few : infos.length ≤ maxImeUsageSize) : (collectAndSortResults infos).Perm infos := by
  have all : infos.filter (fun info => decide (info.usage > 0)) = infos :=
    List.filter_eq_self.2 fun info member => by simpa using positive info member
  unfold collectAndSortResults
  rw [all, List.take_of_length_le (by simpa using few)]
  exact List.perm_insertionSort _ infos

/-- The bundles of the rows, each with what it has booked. -/
theorem sum_infoOf (rows : List EventRow) (b : String) (value : UsageInfo → Nat)
    (zero : b ∉ rows.map EventRow.bundleName → value (infoOf rows b) = 0) :
    infoSum value b ((rows.map EventRow.bundleName).dedup.map (infoOf rows)) =
      value (infoOf rows b) := by
  have key := Lib.sum_filter_key (List.nodup_dedup (rows.map EventRow.bundleName)) b
    fun k => value (infoOf rows k)
  rw [infoSum, List.filter_map, List.map_map]
  apply key.trans
  split
  · rfl
  · rename_i absent
    exact (zero fun member => absent (List.mem_dedup.2 member)).symm

theorem total_sum (l : List DurationMap) :
    DurationMap.total l.sum = (l.map DurationMap.total).sum := by
  induction l with
  | nil => simp
  | cons a l ih => rw [List.sum_cons, DurationMap.total_add, ih, List.map_cons, List.sum_cons]

/-- The bookings among the rows of a period of a day are those of the day. -/
theorem booked_day (days : DayStarts dayStart) {d : Nat} (isStart : dayStart d = d)
    (events : List EventRow) (b : String) :
    DurationMap.total (booked b (events.filter (inPeriod d (d + millisecsPerDay - 1)))) =
        dayTime dayStart b d events ∧
      bookedShows b (events.filter (inPeriod d (d + millisecsPerDay - 1))) =
        dayShows dayStart b d events := by
  have same : countRows b (events.filter (inPeriod d (d + millisecsPerDay - 1))) =
      dayCounts dayStart b d events := by
    simp only [countRows, dayCounts, List.filter_filter]
    apply List.filter_congr
    intro row _
    have ofDay : inPeriod d (d + millisecsPerDay - 1) row = (dayStart row.happenTime == d) := by
      rw [Bool.eq_iff_iff, days.inPeriod_iff isStart row, beq_iff_eq]
    rw [ofDay, Bool.and_comm]
  simp only [booked, bookedShows, dayTime, dayShows, same, total_sum, List.map_map, Function.comp_def,
    and_self]

/-- **A day without an open session is reported as it is booked.** -/
theorem getUsageInfo_day {s : DataHelper} (ready : s.ready = true) (days : DayStarts dayStart) {d : Nat}
    (isStart : dayStart d = d)
    (counts : ∀ row ∈ s.events, row.happenTime ≤ d + millisecsPerDay - 1 → row.rawid = .countDuration)
    (fits : DayFits (s.events.filter (inPeriod d (d + millisecsPerDay - 1)))) (b : String) :
    infoTime b (s.getUsageInfo d (d + millisecsPerDay - 1)) = dayTime dayStart b d s.events ∧
      infoShows b (s.getUsageInfo d (d + millisecsPerDay - 1)) = dayShows dayStart b d s.events := by
  have counts' : ∀ row ∈ s.events.filter (inPeriod d (d + millisecsPerDay - 1)),
      row.rawid = .countDuration := by
    intro row member
    obtain ⟨here, period⟩ := List.mem_filter.1 member
    simp only [inPeriod, decide_eq_true_eq] at period
    exact counts row here period.2
  obtain ⟨time, shows⟩ := booked_day days isStart s.events b
  have result : (s.getUsageInfo d (d + millisecsPerDay - 1)).Perm
      (((s.events.filter (inPeriod d (d + millisecsPerDay - 1))).map EventRow.bundleName).dedup.map
        (infoOf (s.events.filter (inPeriod d (d + millisecsPerDay - 1))))) := by
    unfold getUsageInfo
    rw [mergeForegroundInfo_none counts, queryStatistic_counts ready counts' fits]
    refine collectAndSortResults_perm (fun info member => ?_) (by simpa using fits.1)
    obtain ⟨bundle, here, rfl⟩ := List.mem_map.1 member
    obtain ⟨row, mine, rfl⟩ := List.mem_map.1 (List.mem_dedup.1 here)
    exact (fits.2 row mine).1
  generalize s.events.filter (inPeriod d (d + millisecsPerDay - 1)) = rows at result time shows
  have none : b ∉ rows.map EventRow.bundleName → countRows b rows = [] := by
    intro absent
    refine List.filter_eq_nil_iff.2 fun row member hit => absent ?_
    simp only [isRow, Bool.and_eq_true, beq_iff_eq] at hit
    exact List.mem_map.2 ⟨row, member, hit.1⟩
  rw [← time, ← shows]
  constructor
  · refine ((result.filter _).map _).sum_eq.trans (sum_infoOf rows b _ fun absent => ?_)
    simp [infoOf, booked, none absent]
  · refine ((result.filter _).map _).sum_eq.trans (sum_infoOf rows b _ fun absent => ?_)
    simp [infoOf, bookedShows, none absent]

/-! ## A report whose writes succeed -/

theorem mem_queryActiveDays {s : DataHelper} (ready : s.ready = true) {startTime endTime d : Nat} :
    d ∈ s.queryActiveDays dayStart startTime endTime ↔
      ∃ row ∈ s.events, startTime ≤ row.happenTime ∧ row.happenTime ≤ endTime ∧
        dayStart row.happenTime = d := by
  simp [queryActiveDays, ready, inPeriod, and_assoc]

theorem queryActiveDays_nodup (s : DataHelper) (startTime endTime : Nat) :
    (s.queryActiveDays dayStart startTime endTime).Nodup := by
  unfold queryActiveDays
  split
  · exact List.nodup_nil
  · exact (List.perm_insertionSort _ _).nodup_iff.2 (List.nodup_dedup _)

/-- An empty period has no active days. -/
theorem queryActiveDays_empty {s : DataHelper} (ready : s.ready = true) {startTime endTime : Nat}
    (empty : endTime < startTime) : s.queryActiveDays dayStart startTime endTime = [] := by
  apply List.eq_nil_iff_forall_not_mem.2
  intro d member
  obtain ⟨row, -, low, high, -⟩ := (mem_queryActiveDays ready).1 member
  omega

/-- The earliest time is not after that of any row. -/
theorem foldl_earliest (events : List EventRow) (earliest : Int) :
    let result := events.foldl
      (fun earliest row =>
        if earliest = indexNotFound ∨ (row.happenTime : Int) < earliest then row.happenTime
        else earliest) earliest
    (earliest ≠ indexNotFound → result ≤ earliest) ∧ ∀ row ∈ events, result ≤ row.happenTime := by
  induction events generalizing earliest with
  | nil => simp
  | cons row events ih =>
      obtain ⟨low, rest⟩ := ih
        (if earliest = indexNotFound ∨ (row.happenTime : Int) < earliest then row.happenTime
         else earliest)
      have found : (if earliest = indexNotFound ∨ (row.happenTime : Int) < earliest
          then (row.happenTime : Int) else earliest) ≠ indexNotFound ∧
          (if earliest = indexNotFound ∨ (row.happenTime : Int) < earliest
          then (row.happenTime : Int) else earliest) ≤ row.happenTime ∧
          (earliest ≠ indexNotFound → (if earliest = indexNotFound ∨ (row.happenTime : Int) < earliest
          then (row.happenTime : Int) else earliest) ≤ earliest) := by
        unfold indexNotFound
        split <;> omega
      refine ⟨fun known => (low found.1).trans (found.2.2 known), fun r member => ?_⟩
      rcases List.mem_cons.1 member with rfl | member
      · exact (low found.1).trans found.2.1
      · exact rest r member

/-- The last midnight up to which everything is reported. -/
def Reporter.midnight (r : Reporter) : Nat :=
  if r.lastReportTime = reportTimeNever then 0 else r.lastReportTime + 1

/-- Where a report begins: with the first row on a day that was not reported. -/
theorem calcReportDayStart_spec {r : Reporter} (ready : r.recorder.store.ready = true)
    (days : DayStarts dayStart) (isStart : dayStart r.midnight = r.midnight) {reportDayStart : Nat}
    (found : r.calcReportDayStart dayStart = some reportDayStart) :
    (∀ row ∈ r.recorder.store.events, r.midnight ≤ dayStart row.happenTime →
        reportDayStart ≤ row.happenTime) ∧
      ∀ t, reportDayStart ≤ t → r.midnight ≤ dayStart t := by
  unfold Reporter.calcReportDayStart at found
  by_cases never : r.lastReportTime = reportTimeNever
  · have zero : r.midnight = 0 := if_pos never
    rw [if_pos never] at found
    dsimp only at found
    split at found
    · cases found
    · rename_i positive
      obtain rfl := Option.some.inj found
      refine ⟨fun row member _ => ?_, fun t _ => by omega⟩
      have earliest := (foldl_earliest r.recorder.store.events indexNotFound).2 row member
      have floor := days.floor r.recorder.store.queryEarliestEventTime.toNat
      have same : r.recorder.store.queryEarliestEventTime ≤ row.happenTime := by
        rw [queryEarliestEventTime, if_neg (by simp [ready])]
        exact earliest
      omega
  · have midnight : r.midnight = r.lastReportTime + 1 := if_neg never
    rw [if_neg never, ← midnight, isStart] at found
    obtain rfl := Option.some.inj found
    refine ⟨fun row _ later => later.trans (days.floor _), fun t later => ?_⟩
    have mono := days.mono later
    rwa [isStart] at mono

/-- The reporter after the days were sent at the midnight `today0`. -/
def Reporter.sentDays (r : Reporter) (days : List Nat) (today0 : Nat) : Reporter :=
  { recorder :=
      { r.recorder with
        store :=
          { r.recorder.store with
            events := r.recorder.store.events.filter fun row =>
              !decide (row.happenTime < today0 - millisecsPerDay * dataKeepDay)
            lastReportTime := today0 - 1 } }
    lastReportTime := today0 - 1
    reported := r.reported ++ days.flatMap fun day =>
      (r.recorder.store.getUsageInfo day (day + millisecsPerDay - 1)).map fun info => (day, info) }

theorem reportDays_sent (s : DataHelper) (days : List Nat) :
    reportDays s (fun _ _ => true) days =
      (days.flatMap fun day =>
        (s.getUsageInfo day (day + millisecsPerDay - 1)).map fun info => (day, info), true) := by
  simp [reportDays, reportSingleDay]

theorem deleteEventsByTime_written {s : DataHelper} (ready : s.ready = true) (clearDataTime : Nat) :
    (s.deleteEventsByTime clearDataTime true).1 =
      { s with events := s.events.filter fun row => !decide (row.happenTime < clearDataTime) } := by
  unfold deleteEventsByTime
  rw [if_neg (by simp [ready])]
  dsimp only
  split
  · rename_i all
    rw [List.filter_eq_self.2 (List.length_filter_eq_length_iff.1 all)]
  · rfl

/-- The guarded subtractions of a report: the end of yesterday, and the first time that is kept. -/
theorem report_bounds (today0 : Nat) :
    (if today0 > 0 then today0 - 1 else 0) = today0 - 1 ∧
      (if today0 > millisecsPerDay * dataKeepDay then today0 - millisecsPerDay * dataKeepDay else 0) =
        today0 - millisecsPerDay * dataKeepDay := by
  constructor
  · split <;> omega
  · split <;> omega

/-- **A report sends the active days since the last one**, moves its time to yesterday's
end and drops the rows that are older than it keeps. -/
theorem innerReportDailyEvent_sent {r : Reporter} (ready : r.recorder.store.ready = true)
    {reportDayStart : Nat} (found : r.calcReportDayStart dayStart = some reportDayStart)
    (today0 : Nat) :
    r.innerReportDailyEvent dayStart today0 {} =
      r.sentDays (r.recorder.store.queryActiveDays dayStart reportDayStart (today0 - 1)) today0 := by
  obtain ⟨yesterday, clear⟩ := report_bounds today0
  have sent : r.reportUnreportedDays dayStart reportDayStart (today0 - 1) (fun _ _ => true) =
      { r with reported := r.reported ++ (reportDays r.recorder.store (fun _ _ => true)
        (r.recorder.store.queryActiveDays dayStart reportDayStart (today0 - 1))).1 } := by
    unfold Reporter.reportUnreportedDays
    split
    · rename_i empty
      rw [queryActiveDays_empty ready empty]
      simp [reportDays]
    · rfl
  unfold Reporter.innerReportDailyEvent
  simp only [found, yesterday, clear, sent, reportDays_sent]
  by_cases old : today0 - millisecsPerDay * dataKeepDay > 0
  · have none : ∀ s : DataHelper, s.ready = true →
        s.queryActiveDays dayStart (today0 - millisecsPerDay * dataKeepDay - 1 + 1)
          (today0 - millisecsPerDay * dataKeepDay - 1) = [] :=
      fun s ready => queryActiveDays_empty ready (by omega)
    have positive : 0 < millisecsPerDay * dataKeepDay := by decide
    have known : ¬ today0 - 1 = reportTimeNever := by
      unfold reportTimeNever
      omega
    have beyond : today0 - 1 + 1 > today0 - millisecsPerDay * dataKeepDay - 1 := by omega
    simp only [old, if_true, Reporter.reportAndCleanupOldData, Reporter.updateAndPersistReportTime,
      saveReportState, ready, Bool.true_eq_false, if_false, known, beyond, none, reportDays_sent,
      List.flatMap_nil, List.append_nil, deleteEventsByTime_written, Reporter.sentDays]
  · have zero : today0 - millisecsPerDay * dataKeepDay = 0 := by omega
    simp only [zero, gt_iff_lt, Nat.lt_irrefl, if_false, Reporter.updateAndPersistReportTime,
      saveReportState, ready, Bool.true_eq_false, Reporter.sentDays, Nat.not_lt_zero, decide_false,
      Bool.not_false, List.filter_true]

/-- What the days add to what was reported. -/
theorem infoSum_days (value : UsageInfo → Nat) (b : String) (infos : Nat → List UsageInfo)
    (days : List Nat) (reported : List (Nat × UsageInfo)) :
    infoSum value b ((reported ++ days.flatMap fun day => (infos day).map fun info =>
        (day, info)).map Prod.snd) =
      infoSum value b (reported.map Prod.snd) +
        (days.map fun day => infoSum value b (infos day)).sum := by
  simp only [infoSum, List.map_append, List.filter_append, List.sum_append, Nat.add_left_cancel_iff]
  induction days with
  | nil => rfl
  | cons day days ih => simp [ih, Function.comp_def]

end Days

end Imf.Usage
