/-
# Imf.Usage.Booking -- what the store has booked for a bundle

The `COUNT_DURATION` rows of a bundle carry its booked durations and shows.  Each
store operation has one lemma that says what it does to the booked sums and one that
says what it does to the other rows: an upsert books once, an insert of a raw row
books nothing, a deletion from a start index loses whatever is booked in rows with
ids from that index on.
-/
import Imf.Usage.EventCacher
import Mathlib.Tactic.Abel

namespace Imf.Usage

set_option autoImplicit false

open DataHelper

/-- The `COUNT_DURATION` rows of a bundle. -/
def countRows (bundleName : String) (events : List EventRow) : List EventRow :=
  events.filter (isRow bundleName .countDuration)

/-- The durations booked for a bundle. -/
def booked (bundleName : String) (events : List EventRow) : DurationMap :=
  ((countRows bundleName events).map EventRow.durations).sum

/-- The shows booked for a bundle. -/
def bookedShows (bundleName : String) (events : List EventRow) : Nat :=
  ((countRows bundleName events).map EventRow.showCount).sum

/-- The rows that are not `COUNT_DURATION` rows. -/
def rawRows (events : List EventRow) : List EventRow := events.filter fun row => !row.isCount

@[simp] theorem booked_append (b : String) (l l' : List EventRow) :
    booked b (l ++ l') = booked b l + booked b l' := by
  simp [booked, countRows]

@[simp] theorem bookedShows_append (b : String) (l l' : List EventRow) :
    bookedShows b (l ++ l') = bookedShows b l + bookedShows b l' := by
  simp [bookedShows, countRows]

theorem booked_cons (b : String) (row : EventRow) (l : List EventRow) :
    booked b (row :: l) =
      (if isRow b .countDuration row then row.durations else 0) + booked b l := by
  by_cases hit : isRow b .countDuration row = true <;> simp [booked, countRows, hit]

theorem bookedShows_cons (b : String) (row : EventRow) (l : List EventRow) :
    bookedShows b (row :: l) =
      (if isRow b .countDuration row then row.showCount else 0) + bookedShows b l := by
  by_cases hit : isRow b .countDuration row = true <;> simp [bookedShows, countRows, hit]

/-! ## Upsert -/

/-- A row rewritten by an upsert. -/
def EventRow.addSession (row : EventRow) (count : EventRecord) (durations : DurationMap) :
    EventRow :=
  { row with
    durations := row.durations + durations
    showCount := row.showCount + 1
    ts := count.ts
    happenTime := count.happenTime }

/-- The session is added to one `COUNT_DURATION` row of the bundle: an existing one of the
day, rewritten in place, or a new one at the end. -/
inductive Upserted (b : String) (dayStartTime : Nat) (count : EventRecord) (durations : DurationMap)
    (s : DataHelper) : DataHelper → Prop where
  | existing (before after : List EventRow) (row : EventRow)
      (events : s.events = before ++ row :: after) (bundle : row.bundleName = b)
      (kind : row.rawid = .countDuration) (ofDay : dayStartTime ≤ row.happenTime) :
      Upserted b dayStartTime count durations s
        { s with events := before ++ row.addSession count durations :: after }
  | new :
      Upserted b dayStartTime count durations s
        { s with
          events := s.events ++ [makeRow s.nextId { count with showCount := 1 } durations]
          nextId := s.nextId + 1 }

theorem upsertCountDurationLocked_spec (s : DataHelper) (b : String) (dayStartTime : Nat)
    (count : EventRecord) (durations : DurationMap) :
    Upserted b dayStartTime count durations s
      (s.upsertCountDurationLocked b dayStartTime count durations) := by
  unfold upsertCountDurationLocked
  dsimp only
  split
  · rename_i events rewritten
    obtain ⟨before, row, after, split, rfl, hit, -⟩ := Lib.modifyLast_split rewritten
    simp only [isCountOfDay, Bool.and_eq_true, beq_iff_eq, decide_eq_true_eq] at hit
    exact .existing before after row split hit.1.1 hit.1.2 hit.2
  · exact .new

section Upsert

variable {b : String} {dayStartTime : Nat} {count : EventRecord} {durations : DurationMap}
  {s s' : DataHelper}

/-- **An upsert books the session once**, for the bundle of its record alone. -/
theorem Upserted.booked (upserted : Upserted b dayStartTime count durations s s')
    (kind : count.rawid = .countDuration) (bundle : count.bundleName = b) (b' : String) :
    booked b' s'.events = booked b' s.events + (if b' = b then durations else 0) ∧
      bookedShows b' s'.events = bookedShows b' s.events + (if b' = b then 1 else 0) := by
  cases upserted with
  | existing before after row events rowBundle rowKind ofDay =>
      have test : isRow b' .countDuration row = (b == b') := by simp [isRow, rowBundle, rowKind]
      have test' : isRow b' .countDuration (row.addSession count durations) = (b == b') := test
      simp only [events, booked_append, bookedShows_append, booked_cons, bookedShows_cons, test, test']
      by_cases same : b' = b
      · subst same
        simp only [beq_self_eq_true, if_true, EventRow.addSession]
        exact ⟨by abel, by omega⟩
      · simp [same, Ne.symm same]
  | new =>
      have test : isRow b' .countDuration
          (makeRow s.nextId { count with showCount := 1 } durations) = (b == b') := by
        simp [isRow, makeRow, kind, bundle]
      simp only [booked_append, bookedShows_append, booked_cons, bookedShows_cons, test]
      by_cases same : b' = b
      · subst same
        simp [makeRow, Usage.booked, bookedShows, countRows]
      · simp [same, Ne.symm same, Usage.booked, bookedShows, countRows]

/-- An upsert leaves the raw rows alone. -/
theorem Upserted.rawRows (upserted : Upserted b dayStartTime count durations s s')
    (kind : count.rawid = .countDuration) : rawRows s'.events = rawRows s.events := by
  cases upserted with
  | existing before after row events rowBundle rowKind ofDay =>
      simp [Usage.rawRows, events, EventRow.isCount, EventRow.addSession, rowKind]
  | new => simp [Usage.rawRows, EventRow.isCount, makeRow, kind]

/-- An upsert keeps every `COUNT_DURATION` row, by its id. -/
theorem Upserted.count_kept (upserted : Upserted b dayStartTime count durations s s') {b' : String}
    {row : EventRow} (member : row ∈ countRows b' s.events) :
    ∃ row' ∈ countRows b' s'.events, row'.id = row.id := by
  cases upserted with
  | existing before after changed events rowBundle rowKind ofDay =>
      rw [events, countRows, List.mem_filter] at member
      obtain ⟨member, test⟩ := member
      rcases List.mem_append.1 member with old | member
      · exact ⟨row, List.mem_filter.2 ⟨List.mem_append_left _ old, test⟩, rfl⟩
      · rcases List.mem_cons.1 member with rfl | old
        · exact ⟨row.addSession count durations,
            List.mem_filter.2 ⟨List.mem_append_right _ List.mem_cons_self, test⟩, rfl⟩
        · refine ⟨row, List.mem_filter.2 ⟨?_, test⟩, rfl⟩
          exact List.mem_append_right _ (List.mem_cons_of_mem _ old)
  | new =>
      refine ⟨row, ?_, rfl⟩
      rw [countRows, List.filter_append]
      exact List.mem_append_left _ member

end Upsert

/-! ## Deletion -/

/-- **A deletion keeps every booking** when the bundle's `COUNT_DURATION` rows are all older
than the start index. -/
theorem eraseFrom_booked {s : DataHelper} {b : String} {startIndex : Int}
    (older : ∀ row ∈ s.events, isRow b .countDuration row = true → row.id < startIndex)
    (b' : String) :
    countRows b' (s.eraseFrom b startIndex).events = countRows b' s.events := by
  simp only [countRows, eraseFrom, List.filter_filter]
  apply List.filter_congr
  intro row member
  by_cases hit : isRow b' .countDuration row = true
  · have kept : isFrom b startIndex row = false := by
      by_cases same : row.bundleName = b
      · have young := older row member (by
          simp only [isRow, Bool.and_eq_true, beq_iff_eq] at hit ⊢
          exact ⟨same, hit.2⟩)
        simp [isFrom, same, young]
      · simp [isFrom, same]
    simp [hit, kept]
  · simp [hit]

theorem rawRows_eraseFrom (s : DataHelper) (b : String) (startIndex : Int) :
    rawRows (s.eraseFrom b startIndex).events =
      (rawRows s.events).filter fun row => !isFrom b startIndex row := by
  simp only [rawRows, eraseFrom, List.filter_filter, Bool.and_comm]

/-! ## Rows of other bundles -/

/-- The rows of one bundle, of any kind. -/
def rowsOf (bundleName : String) (events : List EventRow) : List EventRow :=
  events.filter fun row => row.bundleName == bundleName

theorem eraseFrom_other {b c : String} (other : b ≠ c) (s : DataHelper) (startIndex : Int) :
    rowsOf b (s.eraseFrom c startIndex).events = rowsOf b s.events := by
  simp only [rowsOf, eraseFrom, List.filter_filter]
  apply List.filter_congr
  intro row _
  by_cases same : row.bundleName = b
  · simp [isFrom, same, other]
  · simp [same]

theorem Upserted.other {b c : String} {dayStartTime : Nat} {count : EventRecord}
    {durations : DurationMap} {s s' : DataHelper}
    (upserted : Upserted c dayStartTime count durations s s') (bundle : count.bundleName = c)
    (other : b ≠ c) : rowsOf b s'.events = rowsOf b s.events := by
  cases upserted with
  | existing before after row events rowBundle rowKind ofDay =>
      simp [rowsOf, events, EventRow.addSession, rowBundle, other.symm]
  | new => simp [rowsOf, makeRow, bundle, other.symm]

end Imf.Usage
