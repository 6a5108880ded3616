/-
# Imf.Usage.Durations -- the incremental durations and the database durations

A session is measured twice.  The cacher adds up its segments while it is open
(`sessionDurations_`); for a session recovered from the file, `CalculateDurationForRecord`
adds up the rows again, from the midnight of the day it is closed on.  `fast_path_agrees_iff`
says when the two are equal for a session that the cacher has followed from its START:
when that START is not before midnight, and otherwise only when what was shown before the
first record of the day happens to be the time from midnight to that record.
-/
import Imf.Usage.Attribution

namespace Imf.Usage

set_option autoImplicit false

open DataHelper

/-! ## Time per status -/

/-- The time between neighbouring records, in the bucket of the earlier one. -/
def timePerStatus : List EventRecord → DurationMap
  | [] => 0
  | [_] => 0
  | record :: next :: records =>
      bucket record.screenStatus (next.ts - record.ts) + timePerStatus (next :: records)

theorem timePerStatus_append (before : List EventRecord) (record : EventRecord)
    (after : List EventRecord) :
    timePerStatus (before ++ record :: after) =
      timePerStatus (before ++ [record]) + timePerStatus (record :: after) := by
  induction before with
  | nil => simp [timePerStatus]
  | cons first before ih =>
      cases before with
      | nil => simp [timePerStatus]
      | cons second before =>
          simp only [List.cons_append, timePerStatus] at ih ⊢
          rw [ih, add_assoc]

/-- The loop of `CalculateDuration` over the rest of a session and its STOP record. -/
theorem calculatePairs_eq {stop : EventRecord} (kind : stop.rawid = .inputStop)
    (record : EventRecord) (records : List EventRecord) (durations : DurationMap)
    (opened : ∀ r ∈ record :: records, r.rawid ≠ .inputStop ∧ ValidStatus r.screenStatus)
    (status : ∀ r ∈ records, r.rawid ≠ .inputStart) :
    calculatePairs record (records ++ [stop]) durations =
      durations + timePerStatus (record :: records ++ [stop]) := by
  have pair : ∀ (pre next : EventRecord) (d : DurationMap), pre.rawid ≠ .inputStop →
      next.rawid ≠ .inputStart → ValidStatus pre.screenStatus →
      (if canCalcDuration pre.rawid next.rawid then
        accumulate (orUnfoldedPortrait pre.screenStatus)
          (if next.ts > pre.ts then next.ts - pre.ts else 0) d else d) =
        d + bucket pre.screenStatus (next.ts - pre.ts) := by
    intro pre next d notStop notStart valid
    have can : canCalcDuration pre.rawid next.rawid = true := by
      simp [canCalcDuration, notStop, notStart]
    have status : orUnfoldedPortrait pre.screenStatus = pre.screenStatus := if_neg valid.ne_zero
    have length : (if next.ts > pre.ts then next.ts - pre.ts else 0) = next.ts - pre.ts := by
      split <;> omega
    rw [can, if_pos rfl, status, length, accumulate]
  induction records generalizing record durations with
  | nil =>
      obtain ⟨notStop, valid⟩ := opened record (by simp)
      simp only [List.nil_append, List.cons_append, calculatePairs, timePerStatus, add_zero]
      exact pair record stop durations notStop (by simp [kind]) valid
  | cons next records ih =>
      obtain ⟨notStop, valid⟩ := opened record (by simp)
      simp only [List.cons_append, calculatePairs, timePerStatus]
      rw [pair record next durations notStop (status next (by simp)) valid,
        ih next _ (fun r member => opened r (by simp [member])) fun r member =>
          status r (by simp [member])]
      simp only [List.cons_append, add_assoc]

/-! ## Midnight -/

/-- The record is of an earlier day than the one that began at `today0`. -/
def EventRecord.isBefore (today0 : Nat) (record : EventRecord) : Bool :=
  decide (record.happenTime < today0)

/-- The status that `CalculateDuration` takes for the time from midnight to the first record. -/
def statusBefore (first : EventRecord) : Int :=
  if first.rawid = .inputStop then first.screenStatus else first.preScreenStatus

/-- The first record of the day, counting the STOP record. -/
def firstOfDay (today0 : Nat) (records : List EventRecord) (stop : EventRecord) : EventRecord :=
  (records.dropWhile (EventRecord.isBefore today0)).headD stop

/-- The records are all of the day, or what was shown before the first that is amounts to
the time from midnight to it. -/
def MidnightAgrees (today0 : Nat) (records : List EventRecord) (stop : EventRecord) : Prop :=
  let earlier := records.takeWhile (EventRecord.isBefore today0)
  let first := firstOfDay today0 records stop
  earlier = [] ∨
    timePerStatus (earlier ++ [first]) =
      bucket (orUnfoldedPortrait (statusBefore first)) (subUInt64 first.happenTime today0)

/-- In the order of their times, the records of the day are those behind the earlier ones. -/
theorem filter_ofDay {today0 : Nat} {records : List EventRecord}
    (sorted : records.Pairwise fun a b => a.happenTime ≤ b.happenTime) :
    records.filter (fun r => !r.isBefore today0) =
      records.dropWhile (EventRecord.isBefore today0) := by
  induction records with
  | nil => rfl
  | cons record records ih =>
      obtain ⟨later, sorted'⟩ := List.pairwise_cons.1 sorted
      by_cases earlier : record.isBefore today0 = true
      · rw [List.filter_cons_of_neg (by simp [earlier]), List.dropWhile_cons_of_pos earlier]
        exact ih sorted'
      · rw [List.dropWhile_cons_of_neg earlier, List.filter_eq_self]
        intro r member
        have := later r
        simp only [EventRecord.isBefore, decide_eq_true_eq, not_lt] at earlier ⊢
        rcases List.mem_cons.1 member with rfl | member
        · simpa using earlier
        · simpa using earlier.trans (later r member)

/-- The rows of the day of a session that began before it. -/
theorem calculateDuration_crossing {today0 : Nat} {records : List EventRecord} {stop : EventRecord}
    (status : ∀ r ∈ records, r.rawid = .inputStatusChanged ∧ ValidStatus r.screenStatus)
    (kind : stop.rawid = .inputStop) :
    calculateDuration today0 (records ++ [stop]) 0 =
      bucket (orUnfoldedPortrait (statusBefore (records.headD stop)))
          (subUInt64 (records.headD stop).happenTime today0) + timePerStatus (records ++ [stop]) := by
  cases records with
  | nil =>
      simp [calculateDuration, calculatePairs, statusBefore, timePerStatus, kind, accumulate]
  | cons first rest =>
      have firstKind := (status first (by simp)).1
      have pairs : ∀ d, calculatePairs first (rest ++ [stop]) d =
          d + timePerStatus (first :: rest ++ [stop]) := by
        intro d
        refine calculatePairs_eq kind first rest d (fun r member => ?_) fun r member => ?_
        · obtain ⟨kind', valid⟩ := status r member
          exact ⟨by simp [kind'], valid⟩
        · simp [(status r (by simp [member])).1]
      simp only [List.cons_append, calculateDuration, firstKind, List.headD_cons, statusBefore] at *
      rw [pairs]
      simp [accumulate]

/-- **When the two measures of a session agree.** -/
theorem timePerStatus_eq_iff {today0 : Nat} {start stop : EventRecord} {records : List EventRecord}
    (startKind : start.rawid = .inputStart) (startStatus : ValidStatus start.screenStatus)
    (status : ∀ r ∈ records, r.rawid = .inputStatusChanged ∧ ValidStatus r.screenStatus)
    (stopKind : stop.rawid = .inputStop)
    (sorted : (start :: records).Pairwise fun a b => a.happenTime ≤ b.happenTime) :
    timePerStatus (start :: records ++ [stop]) =
        calculateDuration today0 ((start :: records).filter (fun r => !r.isBefore today0) ++ [stop]) 0 ↔
      MidnightAgrees today0 (start :: records) stop := by
  rw [filter_ofDay sorted]
  by_cases earlier : start.isBefore today0 = true
  · have late : ∀ r ∈ records.dropWhile (EventRecord.isBefore today0),
        r.rawid = .inputStatusChanged ∧ ValidStatus r.screenStatus :=
      fun r member => status r ((List.dropWhile_sublist _).subset member)
    have first : firstOfDay today0 (start :: records) stop =
        (records.dropWhile (EventRecord.isBefore today0)).headD stop := by
      rw [firstOfDay, List.dropWhile_cons_of_pos earlier]
    rw [List.dropWhile_cons_of_pos earlier, calculateDuration_crossing late stopKind, MidnightAgrees,
      first, List.takeWhile_cons_of_pos earlier]
    simp only [reduceCtorEq, false_or]
    -- cut the session at the first record of the day
    obtain ⟨rest, cut⟩ : ∃ rest, records.dropWhile (EventRecord.isBefore today0) ++ [stop] =
        (records.dropWhile (EventRecord.isBefore today0)).headD stop :: rest := by
      cases records.dropWhile (EventRecord.isBefore today0) with
      | nil => exact ⟨[], rfl⟩
      | cons r rest => exact ⟨rest ++ [stop], rfl⟩
    have whole : start :: records ++ [stop] =
        (start :: records.takeWhile (EventRecord.isBefore today0)) ++
          (records.dropWhile (EventRecord.isBefore today0) ++ [stop]) := by
      simp only [List.cons_append, ← List.append_assoc, List.takeWhile_append_dropWhile]
    rw [whole, cut, timePerStatus_append, add_left_inj]
  · have none : (start :: records).takeWhile (EventRecord.isBefore today0) = [] :=
      List.takeWhile_cons_of_neg earlier
    rw [List.dropWhile_cons_of_neg earlier, MidnightAgrees, none]
    simp only [true_or, iff_true]
    have pairs := calculatePairs_eq stopKind start records 0
      (fun r member => ?_) fun r member => by simp [(status r member).1]
    · simp only [List.cons_append, calculateDuration, startKind, ne_eq, not_true_eq_false, if_false]
      rw [pairs, zero_add]
      rfl
    · rcases List.mem_cons.1 member with rfl | member
      · exact ⟨by simp [startKind], startStatus⟩
      · exact ⟨by simp [(status r member).1], (status r member).2⟩

/-! ## The query -/

/-- One row in the scan of `QueryEventRecords`. -/
def queryRow (startIndex : Int) (dayStartTime : Nat) (bundleName : String)
    (records : List EventRecord) (row : EventRow) : List EventRecord :=
  if row.bundleName ≠ bundleName ∨ row.id < startIndex ∨ row.happenTime < dayStartTime then records
  else if row.rawid = .countDuration then []
  else records ++ [toRecord row]

/-- The rows of a session that stand behind older ones are what is found, from `today0` on. -/
theorem queryEventRecords_eq {s : DataHelper} (ready : s.ready = true) {base rows : List EventRow}
    (events : s.events = base ++ rows) {b : String} {startIndex : Int}
    (older : ∀ row ∈ base, row.id < startIndex)
    (session : ∀ row ∈ rows, row.bundleName = b ∧ startIndex ≤ row.id ∧ row.rawid ≠ .countDuration)
    (today0 : Nat) :
    s.queryEventRecords startIndex today0 b =
      (rows.map toRecord).filter fun r => !r.isBefore today0 := by
  have skipped : base.foldl (queryRow startIndex today0 b) [] = [] := by
    clear events
    induction base with
    | nil => rfl
    | cons row base ih =>
        rw [List.foldl_cons, queryRow, if_pos (.inr (.inl (older row (by simp))))]
        exact ih fun r member => older r (by simp [member])
  have found : ∀ records, rows.foldl (queryRow startIndex today0 b) records =
      records ++ (rows.map toRecord).filter fun r => !r.isBefore today0 := by
    clear events skipped
    induction rows with
    | nil => simp
    | cons row rows ih =>
        intro records
        obtain ⟨bundle, young, raw⟩ := session row (by simp)
        rw [List.foldl_cons, ih fun r member => session r (by simp [member])]
        by_cases earlier : row.happenTime < today0
        · simp [queryRow, earlier, EventRecord.isBefore, toRecord]
        · simp [queryRow, bundle, not_lt.2 young, raw, earlier, EventRecord.isBefore, toRecord]
  show (if s.ready = false then [] else s.events.foldl (queryRow startIndex today0 b) []) = _
  rw [if_neg (by simp [ready]), events, List.foldl_append, skipped, found, List.nil_append]

/-! ## A session that the cacher follows -/

/-- A call of `OnScreenStatusChanged` whose write succeeds. -/
structure Change where
  pre : Int
  new : Int
  now : Tick
  deriving DecidableEq

def Change.call (change : Change) : Call := .screen change.pre change.new change.now true

/-- The STATUS_CHANGED records of a session of `b` in status `last`; a change to the
status that was recorded last makes none. -/
def statusRecords (b : String) : Int → List Change → List EventRecord
  | _, [] => []
  | last, change :: changes =>
      if change.new = last then statusRecords b last changes
      else
        { rawid := .inputStatusChanged, ts := change.now.boot, happenTime := change.now.wall,
          bundleName := b, preScreenStatus := change.pre, screenStatus := change.new } ::
        statusRecords b change.new changes

/-- A record at the end closes the segment of the one before. -/
theorem timePerStatus_concat {records : List EventRecord} {last : EventRecord}
    (isLast : records.getLast? = some last) (record : EventRecord) :
    timePerStatus (records ++ [record]) =
      timePerStatus records + bucket last.screenStatus (record.ts - last.ts) := by
  obtain ⟨before, rfl⟩ := List.getLast?_eq_some_iff.1 isLast
  rw [List.append_assoc, List.singleton_append, timePerStatus_append]
  simp [timePerStatus]

theorem EventCacher.closeSegment_eq {c : EventCacher} (ready : c.isSessionDurationsReady = true)
    (now : Nat) :
    c.closeSegment now =
      c.sessionDurations + bucket c.segmentScreenStatus (now - c.segmentStartBootTime) := by
  by_cases longer : now > c.segmentStartBootTime
  · rw [EventCacher.closeSegment, if_pos ⟨ready, longer⟩, accumulate]
  · rw [EventCacher.closeSegment, if_neg fun both => longer both.2,
      Nat.sub_eq_zero_of_le (by omega), bucket_zero, add_zero]

/-- The recorder follows a session of `b`: its rows stand behind the rows `base` from the
time before, from the START row with the given id on, and the cacher has added up the
segments between them. -/
structure Following (b : String) (base : List EventRow) (id : Int) (start : EventRecord)
    (records : List EventRecord) (v : Recorder) : Prop where
  ready : v.store.ready = true
  next : id ≤ v.store.nextId
  stored : ∃ startRow rows, v.store.events = base ++ startRow :: rows ∧ startRow.id = id ∧
    toRecord startRow = start ∧ rows.map toRecord = records ∧ ∀ row ∈ rows, id ≤ row.id
  showing : v.cacher.isKeyboardShowing = true
  current : v.cacher.currentImeBundle = b
  counting : v.cacher.isSessionDurationsReady = true
  durations : v.cacher.sessionDurations = timePerStatus (start :: records)
  segment : ∃ last, (start :: records).getLast? = some last ∧
    v.cacher.segmentStartBootTime = last.ts ∧ v.cacher.segmentScreenStatus = last.screenStatus ∧
    v.cacher.lastScreenStatus = last.screenStatus ∧ v.cacher.getScreenStatus = last.screenStatus

namespace Following

variable {b : String} {base : List EventRow} {id : Int} {start : EventRecord}
  {records : List EventRecord} {v : Recorder}

/-- What the cacher has added up when the session ends. -/
theorem closeSegment (following : Following b base id start records v) (stop : EventRecord) :
    v.cacher.closeSegment stop.ts = timePerStatus (start :: records ++ [stop]) := by
  obtain ⟨last, isLast, began, status, -, -⟩ := following.segment
  rw [EventCacher.closeSegment_eq following.counting, following.durations, began, status,
    timePerStatus_concat isLast]

/-- One status change. -/
theorem change (following : Following b base id start records v) {change : Change}
    (valid : ValidStatus change.new) :
    Following b base id start (records ++ statusRecords b v.cacher.lastScreenStatus [change])
        (v.step change.call) ∧
      (v.step change.call).cacher.lastScreenStatus = change.new := by
  obtain ⟨last, isLast, began, status, recorded, -⟩ := following.segment
  have reported := v.cacher.getScreenStatus_decoded valid
  show Following _ _ _ _ _ (v.onScreenStatusChanged change.pre change.new change.now true) ∧ _
  by_cases same : change.new = v.cacher.lastScreenStatus
  · have none : statusRecords b v.cacher.lastScreenStatus [change] = [] := by
      simp [statusRecords, same]
    rw [none, List.append_nil, Change.call, Recorder.step,
      Recorder.onScreenStatusChanged_skip (.inr same)]
    exact ⟨⟨following.ready, following.next, following.stored, following.showing, following.current,
      following.counting, following.durations, last, isLast, began, status, recorded,
      reported.trans (same.trans recorded)⟩, same.symm⟩
  · have added : statusRecords b v.cacher.lastScreenStatus [change] =
        [v.cacher.statusRecord change.pre change.new change.now] := by
      simp [statusRecords, same, EventCacher.statusRecord, following.current]
    rw [added, Change.call, Recorder.step,
      Recorder.onScreenStatusChanged_change following.showing same]
    have closed := following.closeSegment (v.cacher.statusRecord change.pre change.new change.now)
    obtain ⟨startRow, rows, events, startId, isStart, isRows, younger⟩ := following.stored
    have next := following.next
    refine ⟨⟨?_, ?_, ?_, following.showing, following.current, following.counting, closed, ?_⟩, rfl⟩
    · simp [DataHelper.addEvent, following.ready]
    · simp only [DataHelper.addEvent, following.ready, Bool.true_eq_false, if_false, if_true]
      omega
    · refine ⟨startRow, rows ++ [makeRow v.store.nextId
        (v.cacher.statusRecord change.pre change.new change.now) 0], ?_, startId, isStart, ?_, ?_⟩
      · simp [DataHelper.addEvent, following.ready, events]
      · simp [isRows, toRecord, makeRow, EventCacher.statusRecord]
      · intro row member
        rcases List.mem_append.1 member with old | new
        · exact younger row old
        · rw [List.mem_singleton.1 new]
          exact next
    · refine ⟨v.cacher.statusRecord change.pre change.new change.now, ?_, rfl, rfl, rfl, reported⟩
      rw [← List.cons_append, List.getLast?_concat]

/-- Any number of them. -/
theorem changes (following : Following b base id start records v) {changes : List Change}
    (valid : ∀ change ∈ changes, ValidStatus change.new) :
    Following b base id start (records ++ statusRecords b v.cacher.lastScreenStatus changes)
      (Lib.run Recorder.step v (changes.map Change.call)) := by
  induction changes generalizing records v with
  | nil => simpa [statusRecords] using following
  | cons change changes ih =>
      obtain ⟨next, status⟩ := following.change (valid change (by simp))
      have rest := ih next fun c member => valid c (by simp [member])
      have split : statusRecords b v.cacher.lastScreenStatus (change :: changes) =
          statusRecords b v.cacher.lastScreenStatus [change] ++
            statusRecords b change.new changes := by
        by_cases same : change.new = v.cacher.lastScreenStatus
        · simp [statusRecords, same]
        · simp [statusRecords, same]
      rw [split, ← List.append_assoc, List.map_cons, Lib.run_cons, ← status]
      exact rest

/-- The rows that the database path reads. -/
theorem query (following : Following b base id start records v) (low : 0 ≤ id) (bound : id < 2 ^ 31)
    (older : ∀ row ∈ base, row.id < id) (startKind : start.rawid = .inputStart)
    (bundle : ∀ r ∈ start :: records, r.bundleName = b)
    (status : ∀ r ∈ records, r.rawid = .inputStatusChanged) (stop : EventRecord)
    (named : stop.bundleName = b) (today0 : Nat) :
    (calculateDurationForRecord v.store stop today0 0).1 =
      calculateDuration today0
        ((start :: records).filter (fun r => !r.isBefore today0) ++ [stop]) 0 := by
  obtain ⟨startRow, rows, events, startId, rfl, rfl, younger⟩ := following.stored
  have hit : isRow b .inputStart startRow = true := by
    simp only [isRow, Bool.and_eq_true, beq_iff_eq]
    exact ⟨bundle (toRecord startRow) (by simp), startKind⟩
  have kinds : ∀ row ∈ rows, row.rawid = .inputStatusChanged :=
    fun row member => status _ (List.mem_map_of_mem member)
  have index : getStartIndex v.store b = id := by
    have misses : ∀ row ∈ rows, isRow b .inputStart row = false := by
      intro row member
      simp [isRow, kinds row member]
    simp only [getStartIndex, queryRawEventIndex, following.ready, Bool.true_eq_false, if_false, events,
      Lib.findLast?_split base hit misses, startId]
    exact toInt32_eq (by omega) bound
  have session : ∀ row ∈ startRow :: rows, row.bundleName = b ∧ id ≤ row.id ∧
      row.rawid ≠ .countDuration := by
    intro row member
    refine ⟨bundle (toRecord row) ?_, ?_, ?_⟩
    · exact List.mem_map_of_mem (f := toRecord) member
    · rcases List.mem_cons.1 member with rfl | member
      · exact startId.ge
      · exact younger row member
    · rcases List.mem_cons.1 member with rfl | member
      · exact fun count => by cases startKind.symm.trans count
      · simp [kinds row member]
  rw [calculateDurationForRecord, named, index]
  simp only [if_neg (not_lt.2 low), queryEventRecords_eq following.ready events older session today0,
    List.map_cons]

/-- A session begins in any store. -/
theorem opened {s : DataHelper} (wf : WellFormed s) (c : EventCacher) (b : String) (now : Tick) :
    Following b s.events s.nextId (c.startRecord b now) []
      { cacher := c.opened b now, store := (s.addEvent (c.startRecord b now) true).1 } := by
  refine ⟨?_, ?_, ?_, rfl, rfl, rfl, rfl, ?_⟩
  · simp [DataHelper.addEvent, wf.ready]
  · simp only [DataHelper.addEvent, wf.ready, Bool.true_eq_false, if_false, if_true]
    omega
  · refine ⟨makeRow s.nextId (c.startRecord b now) 0, [], ?_, rfl, rfl, rfl, by simp⟩
    simp [DataHelper.addEvent, wf.ready]
  · exact ⟨c.startRecord b now, rfl, rfl, rfl, rfl, rfl⟩

end Following

theorem settleSession_nextId (s : DataHelper) (stop : EventRecord) (durations : DurationMap)
    (startIndex : Int) (now : Tick) (written : SettleWrites) :
    (settleSession s stop durations startIndex now written).nextId ≤ s.nextId + 1 := by
  obtain ⟨base, erased, result⟩ := settleSession_forms s stop durations startIndex now written
  have same : base.nextId = s.nextId := by
    rcases erased with rfl | ⟨-, rfl⟩
    · rfl
    · rfl
  rcases result with unchanged | upserted
  · rw [unchanged, same]
    omega
  · generalize settleSession s stop durations startIndex now written = s' at upserted
    cases upserted with
    | existing => simp only [same]; omega
    | new => simp only [same]; omega

/-- Binding an IME that is not showing begins a session, behind what the store holds then. -/
theorem onImeBind_following {u : Recorder} (wf : WellFormed u.store) {b : String}
    (opening : ¬ (u.cacher.isKeyboardShowing = true ∧ u.cacher.currentImeBundle = b))
    (ticks : BindTicks) :
    ∃ s : DataHelper, WellFormed s ∧ s.nextId ≤ u.store.nextId + 1 ∧
      Following b s.events s.nextId (u.cacher.startRecord b ticks.start) []
        (u.onImeBind b ticks {} true) ∧
      (u.onImeBind b ticks {} true).cacher.lastScreenStatus = u.cacher.getScreenStatus := by
  by_cases showing : u.cacher.isKeyboardShowing = true
  · rw [Recorder.onImeBind_switch showing fun same => opening ⟨showing, same⟩]
    have wf' := Recorder.settled_wellFormed wf u.cacher.currentImeBundle ticks.hide ticks.settle {}
    exact ⟨_, wf', settleSession_nextId _ _ _ _ _ _,
      Following.opened wf' (u.cacher.hidden ticks.hide) b ticks.start, rfl⟩
  · rw [Recorder.onImeBind_idle (by simpa using showing)]
    exact ⟨u.store, wf, by omega, Following.opened wf u.cacher b ticks.start, rfl⟩

/-- The STATUS_CHANGED records of a session. -/
theorem statusRecords_spec {b : String} {changes : List Change}
    (valid : ∀ change ∈ changes, ValidStatus change.new) (last : Int) :
    ∀ r ∈ statusRecords b last changes, r.rawid = .inputStatusChanged ∧
      ValidStatus r.screenStatus ∧ r.bundleName = b ∧
      ∃ change ∈ changes, r.ts = change.now.boot ∧ r.happenTime = change.now.wall := by
  induction changes generalizing last with
  | nil => simp [statusRecords]
  | cons change changes ih =>
      intro r member
      have rest : ∀ last, r ∈ statusRecords b last changes → r.rawid = .inputStatusChanged ∧
          ValidStatus r.screenStatus ∧ r.bundleName = b ∧
          ∃ c ∈ change :: changes, r.ts = c.now.boot ∧ r.happenTime = c.now.wall := by
        intro last member
        obtain ⟨kind, status, bundle, c, here, times⟩ :=
          ih (fun c member => valid c (by simp [member])) last r member
        exact ⟨kind, status, bundle, c, by simp [here], times⟩
      by_cases same : change.new = last
      · rw [statusRecords, if_pos same] at member
        exact rest last member
      · rw [statusRecords, if_neg same] at member
        rcases List.mem_cons.1 member with rfl | member
        · exact ⟨rfl, valid change (by simp), rfl, change, by simp, rfl, rfl⟩
        · exact rest change.new member

/-- They are made at the times of some of the changes, in their order. -/
theorem statusRecords_times (b : String) (last : Int) (changes : List Change) :
    ((statusRecords b last changes).map EventRecord.happenTime).Sublist
      (changes.map fun c => c.now.wall) := by
  induction changes generalizing last with
  | nil => simp [statusRecords]
  | cons change changes ih =>
      rw [statusRecords]
      split
      · exact (ih _).cons _
      · exact (ih _).cons_cons _

/-! ## Clocks that run in step -/

/-- The wall clock is the boot clock, up to an offset. -/
def InStep (offset : Int) (boot wall : Nat) : Prop := (wall : Int) - boot = offset

theorem total_bucket_le (screenStatus : Int) (duration : Nat) :
    DurationMap.total (bucket screenStatus duration) ≤ duration := by
  by_cases valid : ValidStatus screenStatus
  · exact (total_bucket valid duration).le
  · have none : screenStatusToIndex screenStatus = none := by simpa [ValidStatus] using valid
    simp [bucket, none]

/-- The segments of a session add up to the time between its ends. -/
theorem total_timePerStatus {first last : EventRecord} {records : List EventRecord}
    (valid : ∀ r ∈ first :: records, ValidStatus r.screenStatus)
    (sorted : (first :: records ++ [last]).Pairwise fun a b => a.ts ≤ b.ts) :
    first.ts + DurationMap.total (timePerStatus (first :: records ++ [last])) = last.ts := by
  induction records generalizing first with
  | nil =>
      have later : first.ts ≤ last.ts := by simpa using sorted
      simp only [List.cons_append, List.nil_append, timePerStatus, add_zero,
        total_bucket (valid first (by simp))]
      omega
  | cons next records ih =>
      obtain ⟨later, sorted'⟩ := List.pairwise_cons.1 sorted
      have step : first.ts ≤ next.ts := later next (by simp)
      have rest := ih (fun r member => valid r (by simp [member])) sorted'
      simp only [List.cons_append, timePerStatus, DurationMap.total_add,
        total_bucket (valid first (by simp))] at rest ⊢
      omega

/-- The first record of the day is one of the session, behind those of earlier days. -/
theorem firstOfDay_spec {today0 : Nat} {stop : EventRecord} (today : today0 ≤ stop.happenTime)
    (records : List EventRecord) :
    today0 ≤ (firstOfDay today0 records stop).happenTime ∧
      (records.takeWhile (EventRecord.isBefore today0) ++ [firstOfDay today0 records stop]).Sublist
        (records ++ [stop]) := by
  have split := List.takeWhile_append_dropWhile (p := EventRecord.isBefore today0) (l := records)
  have head := List.head?_dropWhile_not (EventRecord.isBefore today0) records
  unfold firstOfDay
  cases late : records.dropWhile (EventRecord.isBefore today0) with
  | nil =>
      rw [late, List.append_nil] at split
      rw [split]
      exact ⟨today, List.Sublist.refl _⟩
  | cons r rest =>
      rw [late] at head split
      refine ⟨by simpa [EventRecord.isBefore] using head, ?_⟩
      conv => rhs; rw [← split]
      simp

theorem subUInt64_le {a b : Nat} (le : b ≤ a) : subUInt64 a b ≤ a - b := by
  have shift : a + 2 ^ 64 - b = a - b + 2 ^ 64 := by omega
  rw [subUInt64, shift, Nat.add_mod_right]
  exact Nat.mod_le _ _

/-- In step, nothing makes up for what was shown before midnight. -/
theorem midnightAgrees_iff_of_inStep {start stop : EventRecord} {records : List EventRecord}
    {today0 : Nat} {offset : Int}
    (inStep : ∀ r ∈ start :: records ++ [stop], InStep offset r.ts r.happenTime)
    (sorted : (start :: records ++ [stop]).Pairwise fun a b => a.happenTime ≤ b.happenTime)
    (valid : ∀ r ∈ start :: records, ValidStatus r.screenStatus) (today : today0 ≤ stop.happenTime) :
    MidnightAgrees today0 (start :: records) stop ↔ today0 ≤ start.happenTime := by
  obtain ⟨ofDay, thinned⟩ := firstOfDay_spec today (start :: records)
  unfold MidnightAgrees
  generalize firstOfDay today0 (start :: records) stop = first at ofDay thinned
  by_cases earlier : start.isBefore today0 = true
  · have before : start.happenTime < today0 := by simpa [EventRecord.isBefore] using earlier
    rw [List.takeWhile_cons_of_pos earlier] at thinned ⊢
    simp only [reduceCtorEq, false_or]
    refine ⟨fun agrees => ?_, fun ofToday => absurd ofToday (by omega)⟩
    have ticking : (start :: records.takeWhile (EventRecord.isBefore today0) ++ [first]).Pairwise
        fun a b => a.ts ≤ b.ts := by
      refine (sorted.sublist thinned).imp_of_mem fun {a b} ha hb order => ?_
      have ha := inStep a (thinned.subset ha)
      have hb := inStep b (thinned.subset hb)
      simp only [InStep] at ha hb
      omega
    have whole := total_timePerStatus (fun r member => valid r (by
      rcases List.mem_cons.1 member with rfl | member
      · simp
      · simp [(List.takeWhile_sublist _).subset member])) ticking
    have share := total_bucket_le (orUnfoldedPortrait (statusBefore first))
      (subUInt64 first.happenTime today0)
    have plain := subUInt64_le ofDay
    have first' := inStep first (thinned.subset (by simp))
    have start' := inStep start (by simp)
    rw [← agrees] at share
    simp only [InStep, List.cons_append] at first' start' whole share
    omega
  · have none : (start :: records).takeWhile (EventRecord.isBefore today0) = [] :=
      List.takeWhile_cons_of_neg earlier
    have ofToday : today0 ≤ start.happenTime := by simpa [EventRecord.isBefore] using earlier
    simp [none, ofToday]

/-! ## The two paths -/

/-- **The incremental durations of a session are those of the database path exactly when
midnight agrees**; with clocks that run in step, exactly when the session began on the day
it is closed on. -/
theorem fast_path_agrees_iff {u : Recorder} (wf : WellFormed u.store)
    (bound : u.store.nextId + 1 < 2 ^ 31) {b : String}
    (opening : ¬ (u.cacher.isKeyboardShowing = true ∧ u.cacher.currentImeBundle = b))
    (startStatus : ValidStatus u.cacher.getScreenStatus) (ticks : BindTicks) (changes : List Change)
    (valid : ∀ change ∈ changes, ValidStatus change.new) (hide : Tick)
    (clock : (ticks.start.wall :: (changes.map fun c => c.now.wall) ++ [hide.wall]).Pairwise (· ≤ ·)) :
    let v := Lib.run Recorder.step (u.onImeBind b ticks {} true) (changes.map Change.call)
    let start := u.cacher.startRecord b ticks.start
    let stop := v.cacher.stopRecord b hide
    let agree := (v.cacher.hidden hide).sessionDurations =
      (calculateDurationForRecord v.store stop hide.today0 0).1
    (agree ↔ MidnightAgrees hide.today0 (start :: statusRecords b start.screenStatus changes) stop) ∧
      ∀ offset, InStep offset ticks.start.boot ticks.start.wall →
        (∀ change ∈ changes, InStep offset change.now.boot change.now.wall) →
        InStep offset hide.boot hide.wall → hide.today0 ≤ hide.wall →
        (agree ↔ hide.today0 ≤ ticks.start.wall) := by
  intro v start stop agree
  obtain ⟨s, wf', next, opened, status⟩ := onImeBind_following wf opening ticks
  have following := opened.changes valid
  rw [status, List.nil_append] at following
  have spec := statusRecords_spec (b := b) valid u.cacher.getScreenStatus
  generalize recorded : statusRecords b u.cacher.getScreenStatus changes = records at following spec
  have sorted : (start :: records ++ [stop]).Pairwise fun a b => a.happenTime ≤ b.happenTime := by
    refine List.Pairwise.of_map EventRecord.happenTime (fun _ _ le => le) (clock.sublist ?_)
    have times := statusRecords_times b u.cacher.getScreenStatus changes
    rw [recorded] at times
    rw [List.map_append, List.map_cons]
    exact (times.cons_cons ticks.start.wall).append_right [hide.wall]
  have query := following.query wf'.next (by omega) (fun row member => wf'.below row member) rfl
    (by
      intro r member
      rcases List.mem_cons.1 member with rfl | member
      · rfl
      · exact (spec r member).2.2.1)
    (fun r member => (spec r member).1) stop rfl hide.today0
  have agree_iff : agree ↔ MidnightAgrees hide.today0 (start :: records) stop := by
    show (v.cacher.closeSegment stop.ts = _) ↔ _
    rw [following.closeSegment stop, query]
    exact timePerStatus_eq_iff rfl startStatus
      (fun r member => ⟨(spec r member).1, (spec r member).2.1⟩) rfl
      (sorted.sublist (List.sublist_append_left _ _))
  have same : statusRecords b start.screenStatus changes = records := recorded
  rw [same]
  refine ⟨agree_iff, fun offset startStep steps stopStep today => ?_⟩
  have inStep : ∀ r ∈ start :: records ++ [stop], InStep offset r.ts r.happenTime := by
    intro r member
    rcases List.mem_append.1 member with member | member
    · rcases List.mem_cons.1 member with rfl | member
      · exact startStep
      · obtain ⟨-, -, -, change, here, ts, happenTime⟩ := spec r member
        rw [ts, happenTime]
        exact steps change here
    · rw [List.mem_singleton.1 member]
      exact stopStep
  rw [agree_iff]
  refine midnightAgrees_iff_of_inStep inStep sorted (fun r member => ?_) today
  rcases List.mem_cons.1 member with rfl | member
  · exact startStatus
  · exact (spec r member).2.1

/-! ## Poles -/

/-- A session from 20 ms to 90 ms of a day, with one turn of the device. -/
theorem fast_path_agrees_within_day :
    let v := Lib.run Recorder.step (Recorder.fresh.onImeBind "a" (.at 20) {} true)
      [.screen 12 11 (.at 50) true]
    (v.cacher.hidden (.at 90)).sessionDurations =
      (calculateDurationForRecord v.store (v.cacher.stopRecord "a" (.at 90)) 0 0).1 := by
  intro v
  have agrees := fast_path_agrees_iff Recorder.fresh_wellFormed (b := "a") (by decide) (by decide)
    (by decide) (.at 20) [⟨12, 11, .at 50⟩] (by decide) (.at 90) (by decide)
  exact (agrees.2 0 rfl (by simp [InStep, Tick.at]) rfl (by decide)).2 (by decide)

/-- A session from 40 ms before midnight to 30 ms after it: 70 ms were shown, and the
database path finds 30. -/
theorem fast_path_differs_across_midnight :
    let v := Recorder.fresh.onImeBind "a" (.at 60) {} true
    let hide : Tick := { boot := 130, wall := 130, today0 := 100 }
    let slow := (calculateDurationForRecord v.store (v.cacher.stopRecord "a" hide) hide.today0 0).1
    (v.cacher.hidden hide).sessionDurations ≠ slow ∧
      DurationMap.total (v.cacher.hidden hide).sessionDurations = 70 ∧ DurationMap.total slow = 30 := by
  decide +kernel

end Imf.Usage
