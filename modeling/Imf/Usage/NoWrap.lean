/-
# Imf.Usage.NoWrap -- differences of clock readings, and sums in 32 bits

A session that was recovered is measured from its rows: `CalculateDuration` takes the boot clock
between two records and, when the START row is of an earlier day, the wall clock from midnight to
the first record that is not.  Midnight is read after the wall clock of the STOP record, so that it
can be later than that record; the unsigned difference is then close to 2^64.  The array that the
durations are accumulated in is not initialized.  The report adds durations of 64 bits up in 32.

`no_wrap_iff`: over every run with a wall clock that does not go back, exactly when none of this
happens.
-/
import Imf.Usage.DayReport
import Imf.Usage.Durations
import Imf.Usage.Settlement

namespace Imf.Usage

set_option autoImplicit false

open DataHelper

/-! ## What CalculateDuration adds -/

/-- A duration that is added, and the time that has passed on the clock that it is read from. -/
structure Piece where
  status : Int
  duration : Nat
  elapsed : Nat
  deriving DecidableEq

/-- Between neighbouring records, on the boot clock. -/
def pairPieces : EventRecord → List EventRecord → List Piece
  | _, [] => []
  | pre, record :: records =>
      (if canCalcDuration pre.rawid record.rawid then
        [{ status := orUnfoldedPortrait pre.screenStatus
           duration := if record.ts > pre.ts then record.ts - pre.ts else 0
           elapsed := record.ts - pre.ts }]
      else []) ++ pairPieces record records

/-- All of them; the first is read from the wall clock, in a session that began at `opened`. -/
def durationPieces (dayStartTime opened : Nat) : List EventRecord → List Piece
  | [] => []
  | first :: rest =>
      (if first.rawid ≠ .inputStart then
        [{ status := orUnfoldedPortrait (statusBefore first)
           duration := subUInt64 first.happenTime dayStartTime
           elapsed := first.happenTime - opened }]
      else []) ++ pairPieces first rest

/-- The pieces, accumulated. -/
def accumulatePieces (pieces : List Piece) (durations : DurationMap) : DurationMap :=
  pieces.foldl (fun durations piece => accumulate piece.status piece.duration durations) durations

theorem calculatePairs_pieces (pre : EventRecord) (records : List EventRecord)
    (durations : DurationMap) :
    calculatePairs pre records durations = accumulatePieces (pairPieces pre records) durations := by
  induction records generalizing pre durations with
  | nil => rfl
  | cons record records ih =>
      rw [calculatePairs, ih, pairPieces, accumulatePieces, accumulatePieces, List.foldl_append]
      split
      · rfl
      · rfl

theorem calculateDuration_pieces (dayStartTime opened : Nat) (records : List EventRecord)
    (durations : DurationMap) :
    calculateDuration dayStartTime records durations =
      accumulatePieces (durationPieces dayStartTime opened records) durations := by
  cases records with
  | nil => rfl
  | cons first rest =>
      simp only [calculateDuration]
      rw [calculatePairs_pieces, durationPieces, accumulatePieces, accumulatePieces, List.foldl_append]
      split
      · rfl
      · rfl

/-! ## A session that is closed -/

/-- The rows that the session of `b` is taken to have. -/
def recoveredRows (s : DataHelper) (b : String) : List EventRow :=
  sessionRows b (getStartIndex s b) s.events

/-- When it began. -/
def recoveredFrom (s : DataHelper) (b : String) : Nat :=
  match recoveredRows s b with
  | [] => 0
  | row :: _ => row.happenTime

/-- What `CalculateDurationForRecord` adds up. -/
def closingPieces (s : DataHelper) (stop : EventRecord) (today0 : Nat) : List Piece :=
  if getStartIndex s stop.bundleName < 0 then []
  else
    durationPieces today0 (recoveredFrom s stop.bundleName)
      (s.queryEventRecords (getStartIndex s stop.bundleName) today0 stop.bundleName ++ [stop])

theorem closingDurations_pieces {c : EventCacher} (recovered : c.isSessionDurationsReady = false)
    (s : DataHelper) (stop : EventRecord) (now : Tick) :
    (c.closingDurations s stop now).1 =
      accumulatePieces (closingPieces s stop now.today0) now.uninitialized := by
  rw [EventCacher.closingDurations, if_neg (by simp [recovered]),
    calculateDurationForRecord, closingPieces]
  dsimp only
  split
  · rfl
  · exact calculateDuration_pieces _ _ _ _

/-- What the array holds is what the pieces are added to. -/
theorem accumulatePieces_add (pieces : List Piece) (durations : DurationMap) :
    accumulatePieces pieces durations = durations + accumulatePieces pieces 0 := by
  unfold accumulatePieces
  induction pieces generalizing durations with
  | nil => exact (add_zero durations).symm
  | cons piece pieces ih =>
      rw [List.foldl_cons, List.foldl_cons, ih (accumulate _ _ durations), ih (accumulate _ _ 0)]
      simp only [accumulate]
      rw [zero_add, add_assoc]

/-- The durations that are booked are the measured ones if the array holds zeros. -/
theorem accumulatePieces_eq_iff (pieces : List Piece) (durations : DurationMap) :
    accumulatePieces pieces durations = accumulatePieces pieces 0 ↔ durations = 0 := by
  rw [accumulatePieces_add]
  exact add_eq_right

/-- The condition: no START row is found and nothing is measured; or the first row that is measured
is a START row; or midnight is neither before the session nor after its STOP record. -/
def MidnightFits (s : DataHelper) (b : String) (hide : Tick) : Prop :=
  getStartIndex s b < 0 ∨
    (∃ first ∈ (s.queryEventRecords (getStartIndex s b) hide.today0 b).head?,
      first.rawid = .inputStart) ∨
    (recoveredFrom s b ≤ hide.today0 ∧ hide.today0 ≤ hide.wall)

section Closing

variable {s : DataHelper}

/-- What is found are rows of the session, of the day. -/
theorem foldl_queryRow_mem (startIndex : Int) (today0 : Nat) (b : String) (events : List EventRow)
    (records : List EventRecord) :
    ∀ record ∈ events.foldl (queryRow startIndex today0 b) records, record ∈ records ∨
      ∃ row ∈ sessionRows b startIndex events, today0 ≤ row.happenTime ∧ record = toRecord row := by
  induction events generalizing records with
  | nil => exact fun record member => .inl member
  | cons row events ih =>
      intro record member
      have widen : ∀ r ∈ sessionRows b startIndex events,
        r ∈ sessionRows b startIndex (row :: events) := by
        intro r inside
        simp only [sessionRows, rawRows, List.mem_filter, List.mem_cons] at inside ⊢
        exact ⟨⟨.inr inside.1.1, inside.1.2⟩, inside.2⟩
      rcases ih _ record member with old | ⟨r, inside, ofDay, same⟩
      · unfold queryRow at old
        split at old
        · exact .inl old
        · split at old
          · cases old
          · rename_i kept raw
            rcases List.mem_append.1 old with older | new
            · exact .inl older
            · simp only [not_or, not_lt, ne_eq, not_not] at kept
              refine .inr ⟨row, ?_, kept.2.2, List.mem_singleton.1 new⟩
              simp [sessionRows, rawRows, isFrom, EventRow.isCount, kept.1, kept.2.1, raw]
      · exact .inr ⟨r, widen r inside, ofDay, same⟩

theorem queryEventRecords_mem {startIndex : Int} {today0 : Nat} {b : String} {record : EventRecord}
    (member : record ∈ s.queryEventRecords startIndex today0 b) :
    ∃ row ∈ sessionRows b startIndex s.events, today0 ≤ row.happenTime ∧ record = toRecord row := by
  unfold queryEventRecords at member
  split at member
  · cases member
  · rcases foldl_queryRow_mem startIndex today0 b s.events [] record member with none | found
    · cases none
    · exact found

/-- No row of the session is older than its first. -/
theorem recoveredFrom_le
    (sorted : (rawRows s.events).Pairwise fun a b => a.happenTime ≤ b.happenTime) {b : String}
    {row : EventRow} (member : row ∈ recoveredRows s b) : recoveredFrom s b ≤ row.happenTime := by
  have order : (recoveredRows s b).Pairwise fun a b => a.happenTime ≤ b.happenTime := sorted.filter _
  unfold recoveredFrom
  cases rows : recoveredRows s b with
  | nil => exact Nat.zero_le _
  | cons first rest =>
      rw [rows] at order member
      rcases List.mem_cons.1 member with rfl | later
      · exact le_rfl
      · exact (List.pairwise_cons.1 order).1 row later

theorem pairPieces_le (pre : EventRecord) (records : List EventRecord) :
    ∀ piece ∈ pairPieces pre records, piece.duration ≤ piece.elapsed := by
  induction records generalizing pre with
  | nil => simp [pairPieces]
  | cons record records ih =>
      intro piece member
      rcases List.mem_append.1 member with here | later
      · split at here
        · rw [List.mem_singleton.1 here]
          dsimp only
          split <;> omega
        · cases here
      · exact ih record piece later

/-- **An unsigned difference is at most the time since `opened`** exactly when the midnight that is
subtracted is in between. -/
theorem subUInt64_le_iff {now today0 opened : Nat} (began : opened ≤ now) (small : now < 2 ^ 64)
    (small' : today0 < 2 ^ 64) : subUInt64 now today0 ≤ now - opened ↔ opened ≤ today0 ∧
      today0 ≤ now := by
  rw [subUInt64]
  by_cases after : today0 ≤ now
  · have shift : now + 2 ^ 64 - today0 = now - today0 + 2 ^ 64 := by omega
    rw [shift, Nat.add_mod_right, Nat.mod_eq_of_lt (by omega)]
    omega
  · rw [Nat.mod_eq_of_lt (by omega)]
    omega

/-- **When no duration of a recovered session is longer than the time that has passed.** -/
theorem closingPieces_le_iff {hide : Tick} (past : ∀ row ∈ s.events, row.happenTime ≤ hide.wall)
    (sorted : (rawRows s.events).Pairwise fun a b => a.happenTime ≤ b.happenTime)
    (small : hide.wall < 2 ^ 64)
    (small' : hide.today0 < 2 ^ 64) {stop : EventRecord} (kind : stop.rawid = .inputStop)
    (read : stop.happenTime = hide.wall) :
    (∀ piece ∈ closingPieces s stop hide.today0, piece.duration ≤ piece.elapsed) ↔
      MidnightFits s stop.bundleName hide := by
  unfold closingPieces MidnightFits
  by_cases missing : getStartIndex s stop.bundleName < 0
  · simp [missing]
  rw [if_neg missing]
  simp only [missing, false_or]
  have since : ∀ row ∈ recoveredRows s stop.bundleName,
    recoveredFrom s stop.bundleName ≤ row.happenTime ∧
      row.happenTime ≤ hide.wall := by
    intro row member
    refine ⟨recoveredFrom_le sorted member, past row ?_⟩
    exact (List.mem_filter.1 (List.mem_filter.1 member).1).1
  have began : recoveredFrom s stop.bundleName ≤ hide.wall := by
    cases rows : recoveredRows s stop.bundleName with
    | nil => simp [recoveredFrom, rows]
    | cons first rest =>
        have bounds := since first (by simp [rows])
        exact bounds.1.trans bounds.2
  cases found : s.queryEventRecords (getStartIndex s stop.bundleName) hide.today0 stop.bundleName with
  | nil =>
      -- the STOP record is the first one, whatever day it is of
      have exactly := subUInt64_le_iff began small small'
      simp [durationPieces, pairPieces, kind, read, exactly]
  | cons first rest =>
      have isFound : first ∈ s.queryEventRecords
        (getStartIndex s stop.bundleName) hide.today0 stop.bundleName := by
        simp [found]
      obtain ⟨row, member, ofDay, rfl⟩ := queryEventRecords_mem isFound
      have bounds := since row member
      have pairs := pairPieces_le (toRecord row) (rest ++ [stop])
      by_cases start : (toRecord row).rawid = .inputStart
      · simp only [List.cons_append, durationPieces, start, ne_eq, not_true_eq_false, if_false,
          List.nil_append,
          List.head?_cons, Option.mem_some_iff, exists_eq_left', true_or, iff_true]
        exact pairs
      · have exactly := subUInt64_le_iff bounds.1 (bounds.2.trans_lt small) small'
        have ofWall : hide.today0 ≤ hide.wall := ofDay.trans bounds.2
        simp only [List.cons_append, durationPieces, start, ne_eq, not_false_eq_true, if_true,
          List.nil_append,
          List.forall_mem_cons, List.head?_cons, Option.mem_some_iff, exists_eq_left', false_or,
          ofWall, and_true]
        refine ⟨fun both => (exactly.1 both.1).1, fun fits => ⟨exactly.2 ⟨fits, ofDay⟩, pairs⟩⟩

end Closing

/-! ## What the report adds up in 32 bits -/

/-- The rows of a bundle in a window. -/
def windowRows (s : DataHelper) (startTime endTime : Nat) (b : String) : List EventRow :=
  (s.events.filter (inPeriod startTime endTime)).filter fun row => row.bundleName == b

/-- What they hold. -/
def windowTime (s : DataHelper) (startTime endTime : Nat) (b : String) : DurationMap :=
  ((windowRows s startTime endTime b).map EventRow.durations).sum

/-- The time between neighbouring events, newest first, on the boot clock. -/
def foregroundSpans : List ForegroundRawEvt → DurationMap
  | newer :: older :: events =>
      foregroundSpans (older :: events) + bucket older.screenAfter (newer.ts - older.ts)
  | _ => 0

/-- The time of a session in a window, from its events there. -/
def foregroundTime (events : List ForegroundRawEvt) (startTime endTime : Nat) (screenStatus : Int) :
    DurationMap :=
  match events, events.getLast? with
  | newest :: _, some oldest =>
      (if oldest.rawId = .inputStatusChanged then bucket oldest.screenBefore
        (oldest.happenTime - startTime) else 0) +
        foregroundSpans events + bucket newest.screenAfter (endTime - newest.happenTime)
  | _, _ => bucket screenStatus (endTime - startTime)

/-- The events of `QueryForegroundImeInfo`. -/
def foregroundEvents (s : DataHelper) (startTime endTime : Nat) (package : String) :
    List ForegroundRawEvt :=
  collectForegroundEvents package
    (s.events.reverse.filter fun row => row.bundleName == package && inPeriod startTime endTime row)

/-- An info holds a time modulo 2^32. -/
def UsageInfo.Narrows (info : UsageInfo) (time : DurationMap) : Prop :=
  ∀ i, info.durations i = toUInt32 (time i)

section Sums

variable {s : DataHelper} {startTime endTime : Nat}

theorem toUInt32_eq_iff {n : Nat} : toUInt32 n = n ↔ n < 2 ^ 32 :=
  ⟨fun same => same ▸ Nat.mod_lt _ (by decide), toUInt32_eq⟩

/-- What is held modulo 2^32 is held as it is exactly when it fits. -/
theorem UsageInfo.Narrows.exact_iff {info : UsageInfo} {time : DurationMap}
    (narrows : info.Narrows time) :
    info.durations = time ↔ ∀ i, time i < 2 ^ 32 := by
  refine ⟨fun same i => ?_, fun small => funext fun i => ?_⟩
  · rw [← toUInt32_eq_iff, ← narrows i, same]
  · rw [narrows i, toUInt32_eq (small i)]

theorem UsageInfo.Narrows.addDuration {info : UsageInfo} {time : DurationMap}
    (narrows : info.Narrows time)
    (screenStatus : Int) {narrowed duration : Nat} (same : toUInt32 narrowed = toUInt32 duration) :
    (info.addDuration screenStatus narrowed).Narrows (time + bucket screenStatus duration) := by
  intro i
  unfold UsageInfo.addDuration
  cases index : screenStatusToIndex screenStatus with
  | none => simp [bucket, index, narrows i]
  | some j =>
      by_cases here : i = j
      · subst here
        simp only [bucket, index, Function.update_self, Pi.add_apply, Pi.single_eq_same, narrows i]
        unfold toUInt32 at same ⊢
        omega
      · simp [bucket, index, here, narrows i]

theorem foregroundPairs_narrows {events : List ForegroundRawEvt} {info : UsageInfo} {time : DurationMap}
    (narrows : info.Narrows time) :
    (foregroundPairs events info).Narrows (time + foregroundSpans events) := by
  induction events with
  | nil => simpa [foregroundPairs, foregroundSpans] using narrows
  | cons newer events ih =>
      cases events with
      | nil => simpa [foregroundPairs, foregroundSpans] using narrows
      | cons older events =>
          rw [foregroundPairs, foregroundSpans, ← add_assoc]
          refine ih.addDuration older.screenAfter ?_
          split
          · simp [toUInt32]
          · rw [Nat.sub_eq_zero_of_le (by omega)]

/-- A wall clock difference inside the window, narrowed. -/
theorem toUInt32_subUInt64 {a b : Nat} (le : b ≤ a) :
    toUInt32 (toUInt32 (subUInt64 a b)) = toUInt32 (a - b) := by
  unfold toUInt32 subUInt64
  omega

theorem calculateForegroundDuration_narrows {events : List ForegroundRawEvt}
    (window : startTime ≤ endTime)
    (inside : ∀ event ∈ events, startTime ≤ event.happenTime) (screenStatus : Int) (package : String) :
    (calculateForegroundDuration events startTime endTime screenStatus { package }).Narrows
      (foregroundTime events startTime endTime screenStatus) := by
  have fresh : UsageInfo.Narrows { package } 0 := fun _ => rfl
  cases events with
  | nil =>
      have added := fresh.addDuration screenStatus (toUInt32_subUInt64 window)
      rwa [zero_add] at added
  | cons newest older =>
      obtain ⟨oldest, last⟩ : ∃ oldest, (newest :: older).getLast? = some oldest :=
        ⟨_, List.getLast?_eq_some_getLast (by simp)⟩
      have early := inside oldest (List.mem_of_getLast? last)
      have sinceStart : (if oldest.rawId = .inputStatusChanged then
            UsageInfo.addDuration { package } oldest.screenBefore
              (toUInt32 (subUInt64 oldest.happenTime startTime))
          else { package }).Narrows
          (if oldest.rawId = .inputStatusChanged then bucket oldest.screenBefore
            (oldest.happenTime - startTime)
            else 0) := by
        split
        · have added := fresh.addDuration oldest.screenBefore (toUInt32_subUInt64 early)
          rwa [zero_add] at added
        · exact fresh
      unfold calculateForegroundDuration foregroundTime
      simp only [last]
      refine (foregroundPairs_narrows sinceStart).addDuration newest.screenAfter ?_
      split
      · simp [toUInt32]
      · rw [Nat.sub_eq_zero_of_le (by omega)]

theorem collectForegroundEvents_sublist (package : String) (rows : List EventRow) :
    (collectForegroundEvents package rows).Sublist ((rawRows rows).map toForeground) := by
  induction rows with
  | nil => exact List.Sublist.refl _
  | cons row rows ih =>
      unfold collectForegroundEvents
      have raw : ∀ kind, row.rawid = kind → kind ≠ .countDuration →
          (rawRows (row :: rows)).map toForeground =
            toForeground row :: (rawRows rows).map toForeground := by
        rintro kind rfl other
        simp [rawRows, EventRow.isCount, other]
      have skip : (collectForegroundEvents package rows).Sublist
        ((rawRows (row :: rows)).map toForeground) :=
        ih.trans (((List.sublist_cons_self row rows).filter _).map _)
      split
      · exact skip
      · split
        · rename_i start
          rw [raw _ start (by decide)]
          exact (List.nil_sublist _).cons_cons _
        · split
          · rename_i changed
            rw [raw _ changed (by decide)]
            exact ih.cons_cons _
          · exact skip

/-- The events of a window are in it. -/
theorem foregroundEvents_inside {package : String} :
    ∀ event ∈ foregroundEvents s startTime endTime package,
      startTime ≤ event.happenTime ∧ event.happenTime ≤ endTime := by
  intro event member
  obtain ⟨row, found, rfl⟩ := List.mem_map.1 ((collectForegroundEvents_sublist _ _).subset member)
  have hit := (List.mem_filter.1 (List.mem_filter.1 found).1).2
  simp only [Bool.and_eq_true, inPeriod, decide_eq_true_eq] at hit
  exact hit.2

/-- **The foreground channel is exact** when the time of the open session fits. -/
theorem queryForeground_exact_iff (ready : s.ready = true) (window : startTime ≤ endTime)
    (package : String) (screenStatus : Int) :
    (s.queryForegroundImeInfo startTime endTime screenStatus { package }).durations =
        foregroundTime (foregroundEvents s startTime endTime package) startTime endTime screenStatus ↔
      ∀ i, foregroundTime (foregroundEvents s startTime endTime package) startTime endTime
        screenStatus i < 2 ^ 32 := by
  have inside : ∀ event ∈ foregroundEvents s startTime endTime package, startTime ≤ event.happenTime :=
    fun event member => (foregroundEvents_inside event member).1
  have narrows := calculateForegroundDuration_narrows window inside screenStatus package
  rw [queryForegroundImeInfo, if_neg (by simp [ready])]
  exact narrows.exact_iff

/-- **The sums of a window are exact** when what its rows hold fits. -/
theorem queryStatistic_exact_iff (ready : s.ready = true) :
    (∀ info ∈ s.queryStatisticEventsInPeriod startTime endTime,
        info.durations = windowTime s startTime endTime info.package) ↔
      ∀ b i, windowTime s startTime endTime b i < 2 ^ 32 := by
  have narrows : ∀ b, UsageInfo.Narrows
    ((windowRows s startTime endTime b).foldl UsageInfo.addRow { package := b })
      (windowTime s startTime endTime b) := by
    intro b i
    rw [foldl_addRow _ (fun i => by simp) (by simp)]
    simp [windowTime]
  have packages : ∀ b,
    ((windowRows s startTime endTime b).foldl UsageInfo.addRow { package := b }).package = b := by
    intro b
    rw [foldl_addRow _ (fun i => by simp) (by simp)]
  rw [queryStatisticEventsInPeriod, if_neg (by simp [ready])]
  dsimp only
  rw [List.forall_mem_map]
  constructor
  · intro exactly b i
    by_cases shown : b ∈ ((s.events.filter (inPeriod startTime endTime)).map EventRow.bundleName).dedup
    · have same := exactly b shown
      dsimp only at same
      rw [← windowRows, packages] at same
      exact (narrows b).exact_iff.1 same i
    · have none : windowRows s startTime endTime b = [] := by
        refine List.filter_eq_nil_iff.2 fun row member hit => shown (List.mem_dedup.2 ?_)
        exact List.mem_map.2 ⟨row, member, beq_iff_eq.1 hit⟩
      simp [windowTime, none]
  · intro small b _
    dsimp only
    rw [← windowRows, packages]
    exact (narrows b).exact_iff.2 (small b)

end Sums

/-! ## Clocks that keep pace -/

/-- Between two rows the boot clock does not count more than the wall clock. -/
def InPace (s : DataHelper) : Prop :=
  (rawRows s.events).Pairwise fun older newer =>
    newer.ts - older.ts ≤ newer.happenTime - older.happenTime

instance (s : DataHelper) : Decidable (InPace s) := inferInstanceAs (Decidable (List.Pairwise _ _))

section Pace

variable {s : DataHelper} {startTime endTime : Nat}

theorem total_foregroundSpans {newest : ForegroundRawEvt} {older : List ForegroundRawEvt}
    (sorted : (newest :: older).Pairwise fun newer older => older.happenTime ≤ newer.happenTime)
    (paced : (newest :: older).Pairwise fun newer older =>
      newer.ts - older.ts ≤ newer.happenTime - older.happenTime)
    {oldest : ForegroundRawEvt} (last : (newest :: older).getLast? = some oldest) :
    DurationMap.total (foregroundSpans (newest :: older)) + oldest.happenTime ≤ newest.happenTime := by
  induction older generalizing newest with
  | nil =>
      obtain rfl : newest = oldest := by simpa using last
      simp [foregroundSpans]
  | cons second older ih =>
      obtain ⟨before, sorted'⟩ := List.pairwise_cons.1 sorted
      obtain ⟨slower, paced'⟩ := List.pairwise_cons.1 paced
      have rest := ih sorted' paced' (by rwa [List.getLast?_cons_cons] at last)
      have share := total_bucket_le second.screenAfter (newest.ts - second.ts)
      have step := slower second (by simp)
      have order := before second (by simp)
      rw [foregroundSpans, DurationMap.total_add]
      omega

theorem le_total (durations : DurationMap) (i : Fin durationCount) :
    durations i ≤ DurationMap.total durations := by
  rw [DurationMap.total, ← Finset.add_sum_erase _ _ (Finset.mem_univ i)]
  exact Nat.le_add_right _ _

/-- In pace, a session has no more time in a window than the window is long. -/
theorem foregroundTime_le {events : List ForegroundRawEvt}
    (inside : ∀ event ∈ events, startTime ≤ event.happenTime ∧ event.happenTime ≤ endTime)
    (sorted : events.Pairwise fun newer older => older.happenTime ≤ newer.happenTime)
    (paced : events.Pairwise fun newer older =>
      newer.ts - older.ts ≤ newer.happenTime - older.happenTime)
    (screenStatus : Int) :
    DurationMap.total (foregroundTime events startTime endTime screenStatus) ≤ endTime - startTime := by
  cases events with
  | nil => exact total_bucket_le screenStatus (endTime - startTime)
  | cons newest older =>
      obtain ⟨oldest, last⟩ : ∃ oldest, (newest :: older).getLast? = some oldest :=
        ⟨_, List.getLast?_eq_some_getLast (by simp)⟩
      have early := inside oldest (List.mem_of_getLast? last)
      have late := inside newest (by simp)
      have spans := total_foregroundSpans sorted paced last
      have before : DurationMap.total (if oldest.rawId = .inputStatusChanged then
          bucket oldest.screenBefore (oldest.happenTime - startTime) else 0) ≤
            oldest.happenTime - startTime := by
        split
        · exact total_bucket_le _ _
        · simp
      have after := total_bucket_le newest.screenAfter (endTime - newest.happenTime)
      unfold foregroundTime
      simp only [last, DurationMap.total_add]
      omega

theorem foregroundEvents_pairwise {R : EventRow → EventRow → Prop}
    {Q : ForegroundRawEvt → ForegroundRawEvt → Prop}
    (imp : ∀ older newer, R older newer → Q (toForeground newer) (toForeground older))
    (rows : (rawRows s.events).Pairwise R) (package : String) :
    (foregroundEvents s startTime endTime package).Pairwise Q := by
  refine List.Pairwise.sublist (collectForegroundEvents_sublist _ _) ?_
  rw [List.pairwise_map]
  have reversed : (rawRows s.events.reverse).Pairwise fun newer older => R older newer := by
    rw [rawRows, List.filter_reverse, List.pairwise_reverse]
    exact rows
  refine List.Pairwise.sublist ?_ (reversed.imp fun related => imp _ _ related)
  exact List.filter_sublist.filter _

end Pace

/-! ## Every run -/

/-- The wall clock does not go back. -/
def ServiceStep.Forward (t : Tracked) : ServiceStep → Prop
  | .call made => (t.clock :: made.ticks.map Tick.wall).Pairwise (· ≤ ·)
  | .cleanup _ _ => True
  | .restart _ wall => t.clock ≤ wall

instance (t : Tracked) : (e : ServiceStep) → Decidable (e.Forward t)
  | .call _ => inferInstanceAs (Decidable (List.Pairwise _ _))
  | .cleanup _ _ => .isTrue trivial
  | .restart _ _ => inferInstanceAs (Decidable (_ ≤ _))

/-- The rows of a store are of the past, the raw ones in the order of their times. -/
structure Dated (s : DataHelper) (clock : Nat) : Prop where
  ready : s.ready = true
  past : ∀ row ∈ s.events, row.happenTime ≤ clock
  sorted : (rawRows s.events).Pairwise fun a b => a.happenTime ≤ b.happenTime

namespace Dated

variable {s : DataHelper} {clock : Nat}

theorem later (dated : Dated s clock) {now : Nat} (after : clock ≤ now) : Dated s now :=
  ⟨dated.ready, fun row member => (dated.past row member).trans after, dated.sorted⟩

theorem filter (dated : Dated s clock) (keep : EventRow → Bool) :
    Dated { s with events := s.events.filter keep } clock :=
  ⟨dated.ready, fun row member => dated.past row (List.mem_filter.1 member).1,
    dated.sorted.sublist (List.filter_sublist.filter _)⟩

/-- A raw row is added, not older than the raw ones. -/
theorem addEvent (dated : Dated s clock) {record : EventRecord} (raw : record.rawid ≠ .countDuration)
    (newest : ∀ row ∈ rawRows s.events, row.happenTime ≤ record.happenTime)
    (inside : record.happenTime ≤ clock)
    (written : Bool) : Dated (s.addEvent record written).1 clock := by
  unfold DataHelper.addEvent
  split
  · exact dated
  · split
    · refine ⟨dated.ready, fun row member => ?_, ?_⟩
      · rcases List.mem_append.1 member with old | new
        · exact dated.past row old
        · rw [List.mem_singleton.1 new]
          exact inside
      · have last : rawRows [makeRow s.nextId record 0] = [makeRow s.nextId record 0] := by
          simp [rawRows, makeRow, EventRow.isCount, raw]
        rw [rawRows, List.filter_append]
        show (rawRows s.events ++ rawRows [_]).Pairwise _
        rw [last, List.pairwise_append]
        refine ⟨dated.sorted, List.pairwise_singleton _ _, fun row member new isNew => ?_⟩
        rw [List.mem_singleton.1 isNew]
        exact newest row member
    · exact dated

/-- A session is settled, in whatever way its writes end. -/
theorem settleSession (dated : Dated s clock) (stop : EventRecord) (durations : DurationMap)
    (startIndex : Int) {now : Tick} (after : clock ≤ now.wall) (written : SettleWrites) :
    Dated (settleSession s stop durations startIndex now written) now.wall ∧
      ∀ row ∈ rawRows (Usage.settleSession s stop durations startIndex now written).events,
        row.happenTime ≤ clock := by
  obtain ⟨base, erased, result⟩ := settleSession_forms s stop durations startIndex now written
  have datedBase : Dated base clock := by
    rcases erased with rfl | ⟨-, rfl⟩
    · exact dated
    · exact dated.filter _
  have raws : ∀ row ∈ rawRows base.events, row.happenTime ≤ clock :=
    fun row member => datedBase.past row (List.mem_filter.1 member).1
  rcases result with same | upserted
  · rw [same]
    exact ⟨datedBase.later after, raws⟩
  · have kept := upserted.rawRows rfl
    refine ⟨⟨?_, fun row member => ?_, kept ▸ datedBase.sorted⟩, kept ▸ raws⟩
    · generalize Usage.settleSession s stop durations startIndex now written = s' at upserted
      cases upserted with
      | existing => exact datedBase.ready
      | new => exact datedBase.ready
    · rcases upserted.times row member with old | new
      · exact (datedBase.past row old).trans after
      · exact new.le

theorem onImeBind {u : Recorder} (dated : Dated u.store clock) (b : String) (ticks : BindTicks)
    (settled : SettleWrites) (started : Bool) (first : clock ≤ ticks.hide.wall)
    (second : ticks.hide.wall ≤ ticks.start.wall) (third : ticks.start.wall ≤ ticks.settle.wall) :
    Dated (u.onImeBind b ticks settled started).store ticks.settle.wall := by
  have after : clock ≤ ticks.settle.wall := (first.trans second).trans third
  by_cases showing : u.cacher.isKeyboardShowing = true
  · by_cases same : u.cacher.currentImeBundle = b
    · rw [Recorder.onImeBind_same showing same]
      exact dated.later after
    · rw [Recorder.onImeBind_switch showing same]
      obtain ⟨closed, raws⟩ :=
        dated.settleSession (u.cacher.stopRecord u.cacher.currentImeBundle ticks.hide)
        ((u.cacher.hidden ticks.hide).closingDurations u.store
          (u.cacher.stopRecord u.cacher.currentImeBundle ticks.hide) ticks.hide).1
        (getStartIndex u.store u.cacher.currentImeBundle) after settled
      refine closed.addEvent (show EventId.inputStart ≠ .countDuration by decide)
        (fun row member => (raws row member).trans ?_) third started
      exact first.trans second
  · rw [Recorder.onImeBind_idle (by simpa using showing)]
    refine (dated.later after).addEvent (show EventId.inputStart ≠ .countDuration by decide)
      (fun row member => (dated.past row (List.mem_filter.1 member).1).trans ?_) third started
    exact first.trans second

theorem onImeUnbind {u : Recorder} (dated : Dated u.store clock) (b : String) (ticks : UnbindTicks)
    (settled : SettleWrites) (after : clock ≤ ticks.settle.wall) :
    Dated (u.onImeUnbind b ticks settled).store ticks.settle.wall := by
  by_cases showing : u.cacher.isKeyboardShowing = true
  · rw [Recorder.onImeUnbind_showing showing]
    exact (dated.settleSession _ _ _ after settled).1
  · rw [Recorder.onImeUnbind_idle (by simpa using showing)]
    exact dated.later after

theorem onScreenStatusChanged {u : Recorder} (dated : Dated u.store clock) (pre new : Int)
    {now : Tick} (written : Bool) (after : clock ≤ now.wall) :
    Dated (u.onScreenStatusChanged pre new now written).store now.wall := by
  by_cases skip : u.cacher.isKeyboardShowing = false ∨ new = u.cacher.lastScreenStatus
  · rw [Recorder.onScreenStatusChanged_skip skip]
    exact dated.later after
  · rw [not_or] at skip
    rw [Recorder.onScreenStatusChanged_change (by simpa using skip.1) skip.2]
    exact (dated.later after).addEvent (show EventId.inputStatusChanged ≠ .countDuration by decide)
      (fun row member => (dated.past row (List.mem_filter.1 member).1).trans after) le_rfl written

theorem deleteEventsByTime (dated : Dated s clock) (clearDataTime : Nat)
    (written : Bool) : Dated (s.deleteEventsByTime clearDataTime written).1 clock := by
  unfold DataHelper.deleteEventsByTime
  split
  · exact dated
  · dsimp only
    split
    · exact dated
    · split
      · exact dated.filter _
      · exact dated

end Dated

/-- **What every step keeps**, whatever is called, by whatever name, and however its writes end. -/
theorem Dated.step {t : Tracked} (dated : Dated t.store t.clock) {e : ServiceStep}
    (forward : e.Forward t) :
    Dated (t.step e).store (t.step e).clock := by
  cases e with
  | call made =>
      -- what a call reads of the clock is in the order in which it reads it
      obtain ⟨first, ordered⟩ := List.pairwise_cons.1 forward
      cases made with
      | bind b ticks settled started =>
          obtain ⟨second, rest⟩ := List.pairwise_cons.1 ordered
          have third := (List.pairwise_cons.1 rest).1
          exact dated.onImeBind b ticks settled started (first _ (by simp [Call.ticks]))
            (second _ (by simp))
            (third _ (by simp))
      | unbind b ticks settled =>
          exact dated.onImeUnbind b ticks settled (first _ (by simp [Call.ticks]))
      | screen pre new now written =>
          exact dated.onScreenStatusChanged pre new written (first _ (by simp [Call.ticks]))
  | cleanup clearDataTime written => exact dated.deleteEventsByTime clearDataTime written
  | restart cacher wall => exact dated.later forward

/-! ## No wrap -/

/-- **Exactly when nothing wraps.**  In every state that is reached with a wall clock that does not go
back, whatever was called, however the writes ended and wherever the service was restarted: when a
recovered session is closed and a window of one day is reported, no duration that is measured is
longer than the time that has passed, what is accumulated are these durations and nothing else, and
no sum of the report is truncated, if and only if the midnight that is read fits the session, the
array that the durations are accumulated in happens to hold zeros, and what the rows hold in the
window is below 2^32 for every status.  For the session that is open they always fit when the boot
clock does not run ahead of the wall clock. -/
theorem no_wrap_iff (foldStatus vhMode : Int) (steps : List ServiceStep)
    (forward : Lib.Meets Tracked.step (fun t e => e.Forward t)
      { recorder := { cacher := .init foldStatus vhMode } } steps)
    (b : String) (hide : Tick) (startTime endTime : Nat) (package : String) (screenStatus : Int) :
    let t := Lib.run Tracked.step { recorder := { cacher := .init foldStatus vhMode } } steps
    let stop := t.cacher.stopRecord b hide
    let measured := closingPieces t.store stop hide.today0
    let openTime := foregroundTime (foregroundEvents t.store startTime endTime package) startTime
      endTime screenStatus
    t.cacher.isSessionDurationsReady = false →
      t.clock ≤ hide.wall → hide.wall < 2 ^ 64 → hide.today0 < 2 ^ 64 →
      startTime ≤ endTime → endTime < startTime + millisecsPerDay →
      ((∀ piece ∈ measured, piece.duration ≤ piece.elapsed) ∧
          ((t.cacher.hidden hide).closingDurations t.store stop hide).1 = accumulatePieces measured 0 ∧
          (∀ info ∈ t.store.queryStatisticEventsInPeriod startTime endTime,
            info.durations = windowTime t.store startTime endTime info.package) ∧
          (t.store.queryForegroundImeInfo startTime endTime screenStatus { package }).durations =
            openTime ↔
        MidnightFits t.store b hide ∧ hide.uninitialized = 0 ∧
          (∀ b i, windowTime t.store startTime endTime b i < 2 ^ 32) ∧ ∀ i, openTime i < 2 ^ 32) ∧
      (InPace t.store → ∀ i, openTime i < 2 ^ 32) := by
  intro t stop measured openTime recovered later wall midnight window day
  have start : Dated (Tracked.store { recorder := { cacher := .init foldStatus vhMode } }) 0 :=
    ⟨rfl, by simp, .nil⟩
  have dated : Dated t.store t.clock := Lib.run_keeps (P := fun t : Tracked => Dated t.store t.clock)
    (fun t e dated ok => dated.step ok) start forward
  have accumulated : ((t.cacher.hidden hide).closingDurations t.store stop hide).1 =
      accumulatePieces measured hide.uninitialized :=
    closingDurations_pieces
      (show (t.cacher.hidden hide).isSessionDurationsReady = false from recovered) _ _ _
  refine ⟨?_, fun paced i => ?_⟩
  · rw [accumulated, accumulatePieces_eq_iff]
    refine and_congr ?_ (and_congr Iff.rfl (and_congr (queryStatistic_exact_iff dated.ready)
      (queryForeground_exact_iff dated.ready window package screenStatus)))
    exact closingPieces_le_iff (fun row member => (dated.past row member).trans later) dated.sorted
      wall midnight rfl rfl
  · have order : (foregroundEvents t.store startTime endTime package).Pairwise
        fun newer older => older.happenTime ≤ newer.happenTime :=
      foregroundEvents_pairwise (fun _ _ order => order) dated.sorted package
    have pace : (foregroundEvents t.store startTime endTime package).Pairwise
        fun newer older => newer.ts - older.ts ≤ newer.happenTime - older.happenTime :=
      @foregroundEvents_pairwise _ _ _
        (fun older newer => newer.ts - older.ts ≤ newer.happenTime - older.happenTime) _
        (fun _ _ pace => pace) paced package
    have short := foregroundTime_le foregroundEvents_inside order pace screenStatus
    have part := le_total openTime i
    have whole : millisecsPerDay < 2 ^ 32 := by decide
    exact (part.trans short).trans_lt (by omega)

/-! ## Poles -/

/-- A session begins at 60 ms of the clock, and the service is restarted at 70 ms. -/
def restartedSession : List ServiceStep := [.call (.bind "a" (.at 60) {} true), .restart {} 70]

/-- It is closed at 130 ms, 30 ms after midnight: these 30 ms are measured. -/
theorem restarted_session_measured :
    let t := Lib.run Tracked.step { recorder := { cacher := .init 1 2 } } restartedSession
    let hide : Tick := { boot := 130, wall := 130, today0 := 100 }
    let measured := closingPieces t.store (t.cacher.stopRecord "a" hide) hide.today0
    (∀ piece ∈ measured, piece.duration ≤ piece.elapsed) ∧ measured.map Piece.duration = [30] ∧
      ((t.cacher.hidden hide).closingDurations t.store (t.cacher.stopRecord "a" hide) hide).1 =
        accumulatePieces measured 0 := by
  intro t hide measured
  have exactly := no_wrap_iff 1 2 restartedSession (by decide +kernel) "a" hide 0 200 "a" 12
    (by decide +kernel)
    (by decide +kernel) (by decide) (by decide) (by decide) (by decide)
  have pace : InPace t.store := by decide +kernel
  have empty : ∀ row ∈ t.store.events, row.durations = 0 := by decide +kernel
  have booked : ∀ b i, windowTime t.store 0 200 b i < 2 ^ 32 := by
    intro b i
    have none : windowTime t.store 0 200 b = 0 := by
      refine List.sum_eq_zero (List.forall_mem_map.2 fun row member => empty row ?_)
      exact (List.mem_filter.1 (List.mem_filter.1 member).1).1
    simp [none]
  have fits : MidnightFits t.store "a" hide := .inr (.inr ⟨by decide +kernel, by decide⟩)
  obtain ⟨short, accumulated, -⟩ := exactly.1.2 ⟨fits, rfl, booked, exactly.2 pace⟩
  exact ⟨short, by decide +kernel, accumulated⟩

/-- Midnight is 1 ms after the reading of the wall clock: the difference is 2^64 - 1.  And where the
array held an hour for some status, that hour is accumulated beside the 30 ms that were measured. -/
theorem midnight_after_stop_wraps :
    let t := Lib.run Tracked.step { recorder := { cacher := .init 1 2 } } restartedSession
    let stopped : Tick := { boot := 99, wall := 99, today0 := 100 }
    let wrapped := closingPieces t.store (t.cacher.stopRecord "a" stopped) stopped.today0
    let hide : Tick :=
      { boot := 130, wall := 130, today0 := 100, uninitialized := bucket unfoldedPortrait 3600000 }
    let measured := closingPieces t.store (t.cacher.stopRecord "a" hide) hide.today0
    let booked := ((t.cacher.hidden hide).closingDurations t.store
      (t.cacher.stopRecord "a" hide) hide).1
    Lib.Meets Tracked.step (fun t e => e.Forward t)
      { recorder := { cacher := .init 1 2 } } restartedSession ∧
      t.cacher.isKeyboardShowing = true ∧ t.cacher.isSessionDurationsReady = false ∧
      (t.clock ≤ stopped.wall ∧ wrapped.map Piece.duration = [2 ^ 64 - 1] ∧
        wrapped.map Piece.elapsed = [39]) ∧
      t.clock ≤ hide.wall ∧ measured.map Piece.elapsed = [70] ∧ DurationMap.total booked = 3600030 := by
  decide +kernel

end Imf.Usage
