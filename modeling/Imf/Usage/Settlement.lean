/-
# Imf.Usage.Settlement -- settlement under write failures

`SettleSession` tries one transaction that deletes the session's raw rows and books its
durations; when that write fails it deletes and books in two separate writes.  Each
write rolls back its own change only, so the session is lost when the second write
fails alone, and counted twice when the first one does.  A session that was counted twice
leaves its START row before its booking; a later session whose own START row could not be
written is taken to begin there, and its settlement deletes that booking too.
`settlement_exactly_once_iff` is the exact condition on the outcomes of the writes and on
the store.
-/
import Imf.Usage.Booking

namespace Imf.Usage

set_option autoImplicit false

open DataHelper

/-- The store, whose ids are below the next one, holds an open session of the bundle: its last START
row has the given id. -/
structure OpenSession (s : DataHelper) (b : String) (startIndex : Int) : Prop where
  ready : s.ready = true
  below : ∀ row ∈ s.events, row.id < s.nextId
  index : getStartIndex s b = startIndex
  nonneg : 0 ≤ startIndex
  start : ∃ row ∈ s.events, isRow b .inputStart row = true ∧ row.id = startIndex

/-- No booking of the bundle has an id from the given one on. -/
def NoneBooked (s : DataHelper) (b : String) (startIndex : Int) : Prop :=
  ∀ row ∈ s.events, isFrom b startIndex row = true → row.isCount = false

instance (s : DataHelper) (b : String) (startIndex : Int) : Decidable (NoneBooked s b startIndex) :=
  inferInstanceAs (Decidable (∀ row ∈ s.events, _ → _))

/-- The raw rows of the session. -/
def sessionRows (b : String) (startIndex : Int) (events : List EventRow) : List EventRow :=
  (rawRows events).filter (isFrom b startIndex)

/-- All `COUNT_DURATION` rows, of every bundle. -/
def allCounts (events : List EventRow) : List EventRow := events.filter EventRow.isCount

/-- The durations and one show are added to exactly one `COUNT_DURATION` row of the bundle. -/
inductive BookedOnce (b : String) (durations : DurationMap) (counts : List EventRow) :
    List EventRow → Prop where
  | added (before after : List EventRow) (row row' : EventRow) (rows : counts = before ++ row :: after)
      (bundle : row.bundleName = b) (same : row'.bundleName = b) (id : row'.id = row.id)
      (sum : row'.durations = row.durations + durations) (shows : row'.showCount = row.showCount + 1) :
      BookedOnce b durations counts (before ++ row' :: after)
  | inserted (row : EventRow) (bundle : row.bundleName = b) (sum : row.durations = durations)
      (shows : row.showCount = 1) : BookedOnce b durations counts (counts ++ [row])

/-- The raw rows are gone and the session is booked once. -/
structure Settled (b : String) (startIndex : Int) (durations : DurationMap) (s s' : DataHelper) :
    Prop where
  gone : sessionRows b startIndex s'.events = []
  once : BookedOnce b durations (allCounts s.events) (allCounts s'.events)

/-- The raw rows are all there and nothing is booked. -/
structure Untouched (b : String) (startIndex : Int) (s s' : DataHelper) : Prop where
  kept : sessionRows b startIndex s'.events = sessionRows b startIndex s.events
  same : allCounts s'.events = allCounts s.events

/-- Booking changes the rows. -/
theorem BookedOnce.ne {b : String} {durations : DurationMap} {counts counts' : List EventRow}
    (once : BookedOnce b durations counts counts') : counts' ≠ counts := by
  have shows : (counts'.map EventRow.showCount).sum = (counts.map EventRow.showCount).sum + 1 := by
    cases once with
    | added before after row row' rows bundle same id sum shows =>
        simp only [rows, List.map_append, List.map_cons, List.sum_append, List.sum_cons, shows]
        omega
    | inserted row bundle sum shows => simp [shows]
  intro equal
  rw [equal] at shows
  omega

/-- A booking rewrites a row under its id, or there is one row more. -/
theorem BookedOnce.ids {b : String} {durations : DurationMap} {counts counts' : List EventRow}
    (once : BookedOnce b durations counts counts') :
    counts'.map EventRow.id = counts.map EventRow.id ∨ counts'.length = counts.length + 1 := by
  cases once with
  | added before after row row' rows bundle same id sum shows => exact .inl (by simp [rows, id])
  | inserted row bundle sum shows => exact .inr (by simp)

section Upsert

variable {b : String} {dayStartTime : Nat} {count : EventRecord} {durations : DurationMap}
  {s s' : DataHelper}

theorem Upserted.bookedOnce (upserted : Upserted b dayStartTime count durations s s')
    (kind : count.rawid = .countDuration) (bundle : count.bundleName = b) :
    BookedOnce b durations (allCounts s.events) (allCounts s'.events) := by
  cases upserted with
  | existing before after row events rowBundle rowKind ofDay =>
      have isCount : row.isCount = true := by simp [EventRow.isCount, rowKind]
      have isCount' : (row.addSession count durations).isCount = true := isCount
      simp only [allCounts, events, List.filter_append, List.filter_cons, isCount, isCount', if_true]
      exact .added _ _ row _ rfl rowBundle rowBundle rfl rfl rfl
  | new =>
      have isCount : (makeRow s.nextId { count with showCount := 1 } durations).isCount = true := by
        simp [EventRow.isCount, makeRow, kind]
      simp only [allCounts, List.filter_append, List.filter_cons, isCount, if_true, List.filter_nil]
      exact .inserted _ bundle rfl rfl

/-- An upsert rewrites a booking, or adds one under the next id. -/
theorem Upserted.allCounts (upserted : Upserted b dayStartTime count durations s s')
    (kind : count.rawid = .countDuration) :
    (allCounts s'.events).length = (allCounts s.events).length ∨
      ∃ row, row.id = s.nextId ∧ Usage.allCounts s'.events = Usage.allCounts s.events ++ [row] := by
  cases upserted with
  | existing before after row events rowBundle rowKind ofDay =>
      have isCount : row.isCount = true := by simp [EventRow.isCount, rowKind]
      have isCount' : (row.addSession count durations).isCount = true := isCount
      simp [Usage.allCounts, events, isCount, isCount']
  | new =>
      refine .inr ⟨makeRow s.nextId { count with showCount := 1 } durations, rfl, ?_⟩
      simp [Usage.allCounts, EventRow.isCount, makeRow, kind]

/-- An upsert leaves the session's raw rows alone. -/
theorem Upserted.sessionRows (upserted : Upserted b dayStartTime count durations s s')
    (kind : count.rawid = .countDuration) (b' : String) (startIndex : Int) :
    sessionRows b' startIndex s'.events = sessionRows b' startIndex s.events := by
  rw [Usage.sessionRows, upserted.rawRows kind, Usage.sessionRows]

end Upsert

namespace OpenSession

variable {s : DataHelper} {b : String} {startIndex : Int}

theorem sessionRows_ne_nil (isOpen : OpenSession s b startIndex) :
    sessionRows b startIndex s.events ≠ [] := by
  obtain ⟨row, member, isStart, id⟩ := isOpen.start
  simp only [isRow, Bool.and_eq_true, beq_iff_eq] at isStart
  refine List.ne_nil_of_mem (a := row) (List.mem_filter.2 ⟨List.mem_filter.2 ⟨member, ?_⟩, ?_⟩)
  · simp [EventRow.isCount, isStart.2]
  · simp [isFrom, isStart.1, id]

/-- The deletion removes the session's raw rows. -/
theorem eraseFrom_gone (s : DataHelper) (b : String) (startIndex : Int) :
    sessionRows b startIndex (s.eraseFrom b startIndex).events = [] := by
  rw [sessionRows, rawRows_eraseFrom, List.filter_filter]
  simp

/-- The bookings that the deletion leaves. -/
theorem allCounts_eraseFrom (s : DataHelper) (b : String) (startIndex : Int) :
    allCounts (s.eraseFrom b startIndex).events =
      (allCounts s.events).filter fun row => !isFrom b startIndex row := by
  simp only [allCounts, DataHelper.eraseFrom, List.filter_filter, Bool.and_comm]

/-- The deletion removes no booking if there is none from the session on. -/
theorem eraseFrom_same (none : NoneBooked s b startIndex) :
    allCounts (s.eraseFrom b startIndex).events = allCounts s.events := by
  rw [allCounts_eraseFrom]
  refine List.filter_eq_self.2 fun row member => ?_
  obtain ⟨there, isCount⟩ := List.mem_filter.1 member
  by_contra hit
  rw [none row there (by simpa using hit)] at isCount
  cases isCount

/-- Where the deletion removes a booking, the session is not booked beside those that were there. -/
theorem not_bookedOnce (isOpen : OpenSession s b startIndex) (some : ¬ NoneBooked s b startIndex)
    {dayStartTime : Nat} {count : EventRecord} {durations : DurationMap} {s' : DataHelper}
    (upserted : Upserted b dayStartTime count durations (s.eraseFrom b startIndex) s')
    (kind : count.rawid = .countDuration) :
    ¬ BookedOnce b durations (allCounts s.events) (allCounts s'.events) := by
  have fewer : (allCounts (s.eraseFrom b startIndex).events).length < (allCounts s.events).length := by
    rw [allCounts_eraseFrom]
    refine List.length_filter_lt_length_iff_exists.2 ?_
    simp only [NoneBooked, not_forall] at some
    obtain ⟨row, member, hit, isCount⟩ := some
    exact ⟨row, List.mem_filter.2 ⟨member, by simpa using isCount⟩, by simp [hit]⟩
  intro once
  rcases upserted.allCounts kind with length | ⟨row, id, rows⟩
  · rcases once.ids with ids | longer
    · have equal := congrArg List.length ids
      rw [List.length_map, List.length_map] at equal
      omega
    · omega
  · rcases once.ids with ids | longer
    · -- The new row has the next id, which no row had.
      have new : row.id ∈ (allCounts s'.events).map EventRow.id :=
        List.mem_map_of_mem (by rw [rows]; simp)
      rw [ids] at new
      obtain ⟨old, member, same⟩ := List.mem_map.1 new
      have below := isOpen.below old (List.mem_filter.1 member).1
      have next : (s.eraseFrom b startIndex).nextId = s.nextId := rfl
      omega
    · rw [rows, List.length_append, List.length_singleton] at longer
      omega

theorem erases (isOpen : OpenSession s b startIndex) :
    (s.eraseFrom b startIndex).events.length ≠ s.events.length := by
  intro same
  obtain ⟨row, member, isStart, id⟩ := isOpen.start
  simp only [isRow, Bool.and_eq_true, beq_iff_eq] at isStart
  have kept := List.length_filter_eq_length_iff.1 same row member
  simp [isFrom, isStart.1, id] at kept

end OpenSession

/-- **What settlement leaves**, for each outcome of its three writes. -/
theorem settleSession_cases {s : DataHelper} {stop : EventRecord} {startIndex : Int}
    (isOpen : OpenSession s stop.bundleName startIndex) (durations : DurationMap) (now : Tick)
    (written : SettleWrites) :
    let erased := s.eraseFrom stop.bundleName startIndex
    let s' := settleSession s stop durations startIndex now written
    if written.transaction then
      Upserted stop.bundleName now.today0 (countRecord stop now) durations erased s'
    else
      let left := if written.delete then erased else s
      if written.upsert then Upserted stop.bundleName now.today0
        (countRecord stop now) durations left s'
      else s' = left := by
  intro erased s'
  have shape : s' = settleSession s stop durations startIndex now written := rfl
  cases transaction : written.transaction with
  | true =>
      simp only [settleSession, if_pos (ge_iff_le.2 isOpen.nonneg), deleteAndUpsertTransactional,
        isOpen.ready, Bool.true_eq_false, if_false, transaction, if_true] at shape
      rw [if_pos rfl, shape]
      exact upsertCountDurationLocked_spec _ _ _ _ _
  | false =>
      have deleted : (s.deleteEventsByBundleAndStartIndex stop.bundleName startIndex
          written.delete).1 = if written.delete then erased else s := by
        simp only [deleteEventsByBundleAndStartIndex, isOpen.ready, Bool.true_eq_false, if_false,
          if_neg isOpen.erases]
        split <;> rfl
      have ready : (if written.delete then erased else s).ready = true := by
        split <;> exact isOpen.ready
      simp only [settleSession, if_pos (ge_iff_le.2 isOpen.nonneg), deleteAndUpsertTransactional,
        isOpen.ready, Bool.true_eq_false, if_false, transaction, deleted, upsertCountDuration,
        ready] at shape
      rw [if_neg (by decide)]
      cases upsert : written.upsert with
      | true =>
          rw [upsert] at shape
          rw [shape]
          exact upsertCountDurationLocked_spec _ _ _ _ _
      | false =>
          rw [upsert] at shape
          exact shape

/-- A settlement that deletes and books is exactly-once exactly when it deletes no booking. -/
theorem deleted_and_booked_iff {s s' : DataHelper} {b : String} {startIndex : Int}
    (isOpen : OpenSession s b startIndex) {dayStartTime : Nat} {count : EventRecord}
    {durations : DurationMap}
    (upserted : Upserted b dayStartTime count durations (s.eraseFrom b startIndex) s')
    (kind : count.rawid = .countDuration) (bundle : count.bundleName = b) :
    Settled b startIndex durations s s' ∨ Untouched b startIndex s s' ↔ NoneBooked s b startIndex := by
  have gone : sessionRows b startIndex s'.events = [] := by
    rw [upserted.sessionRows kind, OpenSession.eraseFrom_gone]
  constructor
  · rintro (settled | untouched)
    · by_contra some
      exact isOpen.not_bookedOnce some upserted kind settled.once
    · exact absurd (untouched.kept.symm.trans gone) isOpen.sessionRows_ne_nil
  · intro none
    have once := upserted.bookedOnce kind bundle
    rw [OpenSession.eraseFrom_same none] at once
    exact .inl ⟨gone, once⟩

def sampleStart : EventRecord :=
  { rawid := .inputStart, ts := 100, happenTime := 5000, bundleName := "ime", preScreenStatus := 12,
    screenStatus := 12 }

/-- A store that holds an open session of one START row. -/
def openStore : DataHelper := { events := [makeRow 1 sampleStart 0], nextId := 2 }

def sampleStop : EventRecord :=
  { rawid := .inputStop, ts := 700, happenTime := 5600, bundleName := "ime", preScreenStatus := 12,
    screenStatus := 12 }

def sampleNow : Tick := { boot := 700, wall := 5600, today0 := 0 }

theorem openStore_open : OpenSession openStore "ime" 1 :=
  ⟨rfl, by decide +kernel, by decide +kernel, by decide, by decide +kernel⟩

/-- The session is booked and its deletion fails; the START row of the next session is not written,
but a change of status is. -/
def leftoverStore : DataHelper :=
  ((settleSession openStore sampleStop (bucket 12 600) 1 sampleNow ⟨false, false, true⟩).addEvent
    { rawid := .inputStatusChanged, ts := 900, happenTime := 5800, bundleName := "ime",
      preScreenStatus := 12, screenStatus := 11 } true).1

theorem leftoverStore_open : OpenSession leftoverStore "ime" 1 :=
  ⟨by decide +kernel, by decide +kernel, by decide +kernel, by decide, by decide +kernel⟩

end Imf.Usage
