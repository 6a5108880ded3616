/-
# Imf.Usage.Representation -- what the event store always looks like

Every operation of the store, with any outcome of its writes, and reloads of what the file
has held.  The store is paired with the sessions that were booked into its
`COUNT_DURATION` rows, by the id that `UpsertCountDurationLocked` returns (`Books`), so
that "settled into this row" can be said of a row.

`store_representation`: ids are increasing and below the next one after any operations;
and when only `SettleSession` books, with a clock that does not go back, and each settlement's
midnight is not after an earlier row of its bundle and local day (`Finds`), a bundle has one
`COUNT_DURATION` row a day, with the number of the sessions settled into it and the sum of
their durations.

`GetToday0ClockMs` goes back to midnight with the offset from UTC of the reading.  On a day
that the clocks are set back that midnight is an hour late after the change, so rows of the
day are not found: `day_of_two_rows`.
-/
import Imf.Usage.Sessions
import Imf.Usage.Windows

namespace Imf.Usage

set_option autoImplicit false

open DataHelper

/-! ## The store and its sessions -/

/-- The id that `UpsertCountDurationLocked` returns. -/
def DataHelper.upsertedId (s : DataHelper) (bundleName : String) (dayStartTime : Nat) : Int :=
  match Lib.findLast? (isCountOfDay bundleName dayStartTime) s.events with
  | some row => row.id
  | none => s.nextId

/-- The store, with the sessions booked into its rows. -/
structure Books where
  store : DataHelper := {}
  sessions : List (Int × DurationMap) := []
  deriving DecidableEq

namespace Books

/-- The sessions booked into the row of an id. -/
def settledInto (k : Books) (id : Int) : List DurationMap :=
  (k.sessions.filter fun session => session.1 == id).map Prod.snd

/-- The books after an operation that books nothing. -/
def after (k : Books) (result : DataHelper × Bool) : Books × Bool :=
  ({ k with store := result.1 }, result.2)

/-- The books after an operation that books a session into a row, if it succeeds. -/
def afterUpsert (k : Books) (result : DataHelper × Bool) (id : Int) (durations : DurationMap) :
    Books × Bool :=
  ({ store := result.1,
     sessions := if result.2 then k.sessions ++ [(id, durations)] else k.sessions }, result.2)

def deleteAndUpsertTransactional (k : Books) (bundleName : String) (startIndex : Int)
    (dayStartTime : Nat) (countRecord : EventRecord) (durations : DurationMap) (written : Bool) :
    Books × Bool :=
  k.afterUpsert
    (k.store.deleteAndUpsertTransactional bundleName startIndex dayStartTime countRecord durations
      written)
    ((k.store.eraseFrom bundleName startIndex).upsertedId bundleName dayStartTime) durations

def upsertCountDuration (k : Books) (bundleName : String) (dayStartTime : Nat)
    (countRecord : EventRecord) (durations : DurationMap) (written : Bool) : Books × Bool :=
  k.afterUpsert
    (k.store.upsertCountDuration bundleName dayStartTime countRecord durations written)
    (k.store.upsertedId bundleName dayStartTime) durations

def deleteEventsByBundleAndStartIndex (k : Books) (bundleName : String) (startIndex : Int)
    (written : Bool) : Books × Bool :=
  k.after (k.store.deleteEventsByBundleAndStartIndex bundleName startIndex written)

/-- `SettleSession` on the books. -/
def settleSession (k : Books) (stop : EventRecord) (durations : DurationMap) (startIndex : Int)
    (now : Tick) (written : SettleWrites) : Books × Bool :=
  let count := countRecord stop now
  let upsert (k : Books) : Books × Bool :=
    k.upsertCountDuration stop.bundleName now.today0 count durations written.upsert
  if startIndex ≥ 0 then
    let transaction := k.deleteAndUpsertTransactional stop.bundleName startIndex now.today0 count
      durations written.transaction
    if transaction.2 then transaction
    else
      let deleted := k.deleteEventsByBundleAndStartIndex stop.bundleName startIndex written.delete
      let upserted := upsert deleted.1
      (upserted.1, deleted.2 || upserted.2)
  else upsert k

theorem settleSession_store (k : Books) (stop : EventRecord) (durations : DurationMap)
    (startIndex : Int) (now : Tick) (written : SettleWrites) :
    (k.settleSession stop durations startIndex now written).1.store =
      Usage.settleSession k.store stop durations startIndex now written := by
  unfold settleSession Usage.settleSession
  dsimp only
  split
  · split
    · rename_i success
      have success' : (k.store.deleteAndUpsertTransactional stop.bundleName startIndex now.today0
        (countRecord stop now) durations written.transaction).2 = true := success
      rw [if_pos success']
      rfl
    · rename_i failure
      have failure' : ¬ (k.store.deleteAndUpsertTransactional stop.bundleName startIndex now.today0
        (countRecord stop now) durations written.transaction).2 = true := failure
      rw [if_neg failure']
      rfl
  · rfl

end Books

/-! ## Operations and reloads -/

/-- An operation of the store with its arguments and the outcome of its writes, or a reload:
of a content that the file has held, or of a file that is missing, empty or damaged. -/
inductive HelperOp where
  | addEvent (record : EventRecord) (written : Bool)
  | deleteEventsByBundleAndStartIndex (bundleName : String) (startIndex : Int) (written : Bool)
  | deleteAndUpsertTransactional (bundleName : String) (startIndex : Int) (dayStartTime : Nat)
      (countRecord : EventRecord) (durations : DurationMap) (written : Bool)
  | upsertCountDuration (bundleName : String) (dayStartTime : Nat) (countRecord : EventRecord)
      (durations : DurationMap) (written : Bool)
  | deleteEventsByTime (clearDataTime : Nat) (written : Bool)
  | saveReportState (value : Nat) (written : Bool)
  | settleSession (stop : EventRecord) (durations : DurationMap) (startIndex : Int) (now : Tick)
      (written : SettleWrites)
  | reload (version : Nat)
  deriving DecidableEq

/-- The books in memory, those that were written to the file, newest first, and the wall
clock of the last settlement. -/
structure Archive where
  books : Books := {}
  written : List Books := []
  clock : Nat := 0
  deriving DecidableEq

namespace Archive

def store (a : Archive) : DataHelper := a.books.store

/-- The archive after an operation: its result goes to the file when it succeeds. -/
def commit (a : Archive) (result : Books × Bool) : Archive :=
  { a with
    books := result.1
    written := if result.2 then result.1 :: a.written else a.written }

def step (a : Archive) : HelperOp → Archive
  | .addEvent record written => a.commit (a.books.after (a.store.addEvent record written))
  | .deleteEventsByBundleAndStartIndex bundleName startIndex written =>
      a.commit (a.books.deleteEventsByBundleAndStartIndex bundleName startIndex written)
  | .deleteAndUpsertTransactional bundleName startIndex dayStartTime countRecord durations written =>
      a.commit (a.books.deleteAndUpsertTransactional bundleName startIndex dayStartTime countRecord
        durations written)
  | .upsertCountDuration bundleName dayStartTime countRecord durations written =>
      a.commit (a.books.upsertCountDuration bundleName dayStartTime countRecord durations written)
  | .deleteEventsByTime clearDataTime written =>
      a.commit (a.books.after (a.store.deleteEventsByTime clearDataTime written))
  | .saveReportState value written =>
      a.commit (a.books.after (a.store.saveReportState value written))
  | .settleSession stop durations startIndex now written =>
      { a.commit (a.books.settleSession stop durations startIndex now written) with
        clock := now.wall }
  | .reload version => { a with books := (a.written[version]?).getD {} }

end Archive

/-! ## Changes that a property of the books survives -/

/-- The books with a session added to its row. -/
def Books.upserted (k : Books) (bundleName : String) (dayStartTime : Nat) (count : EventRecord)
    (durations : DurationMap) : Books :=
  { store := k.store.upsertCountDurationLocked bundleName dayStartTime count durations
    sessions := k.sessions ++ [(k.store.upsertedId bundleName dayStartTime, durations)] }

/-- A property that neither the report time nor a deletion can break. -/
structure Closed (P : Books → Prop) : Prop where
  report : ∀ (k : Books) (value : Nat), P k →
    P { k with store := { k.store with lastReportTime := value } }
  drop : ∀ (k : Books) (keep : EventRow → Bool), P k →
    P { k with store := { k.store with events := k.store.events.filter keep } }

namespace Closed

variable {P : Books → Prop} {k : Books}

theorem deleteEventsByTime (closed : Closed P) (holds : P k) (clearDataTime : Nat) (written : Bool) :
    P (k.after (k.store.deleteEventsByTime clearDataTime written)).1 := by
  unfold Books.after DataHelper.deleteEventsByTime
  dsimp only
  split_ifs
  · exact holds
  · exact holds
  · exact closed.drop k _ holds
  · exact holds

theorem saveReportState (closed : Closed P) (holds : P k) (value : Nat) (written : Bool) :
    P (k.after (k.store.saveReportState value written)).1 := by
  unfold Books.after DataHelper.saveReportState
  split
  · exact holds
  · exact closed.report k value holds

theorem deleteEventsByBundleAndStartIndex (closed : Closed P) (holds : P k) (b : String)
    (startIndex : Int) (written : Bool) :
    P (k.deleteEventsByBundleAndStartIndex b startIndex written).1 := by
  unfold Books.deleteEventsByBundleAndStartIndex Books.after
    DataHelper.deleteEventsByBundleAndStartIndex
  dsimp only
  split_ifs
  · exact holds
  · exact holds
  · exact closed.drop k _ holds
  · exact holds

section Upsert

variable {Q : Books → Prop} {b : String} {dayStartTime : Nat} {count : EventRecord}
  {durations : DurationMap}

theorem upsertCountDuration (weaken : ∀ k, P k → Q k)
    (upsert : ∀ k, P k → Q (k.upserted b dayStartTime count durations)) (holds : P k)
    (written : Bool) : Q (k.upsertCountDuration b dayStartTime count durations written).1 := by
  unfold Books.upsertCountDuration DataHelper.upsertCountDuration
  split
  · exact weaken k holds
  · split
    · exact upsert k holds
    · exact weaken k holds

theorem deleteAndUpsertTransactional (closed : Closed P) (weaken : ∀ k, P k → Q k)
    (upsert : ∀ k, P k → Q (k.upserted b dayStartTime count durations)) (holds : P k)
    (startIndex : Int) (written : Bool) :
    Q (k.deleteAndUpsertTransactional b startIndex dayStartTime count durations written).1 := by
  unfold Books.deleteAndUpsertTransactional DataHelper.deleteAndUpsertTransactional
  split
  · exact weaken k holds
  · split
    · exact upsert _ (closed.drop k _ holds)
    · exact weaken k holds

/-- A settlement upserts once at most. -/
theorem settleSession (closed : Closed P) {stop : EventRecord} {now : Tick}
    (weaken : ∀ k, P k → Q k)
    (upsert : ∀ k, P k →
      Q (k.upserted stop.bundleName now.today0 (countRecord stop now) durations))
    (holds : P k) (startIndex : Int) (written : SettleWrites) :
    Q (k.settleSession stop durations startIndex now written).1 := by
  unfold Books.settleSession
  dsimp only
  split
  · split
    · exact closed.deleteAndUpsertTransactional weaken upsert holds _ _
    · exact upsertCountDuration weaken upsert
        (closed.deleteEventsByBundleAndStartIndex holds _ _ _) _
  · exact upsertCountDuration weaken upsert holds _

end Upsert

end Closed

/-- The record that an operation adds. -/
def HelperOp.added? : HelperOp → Option EventRecord
  | .addEvent record _ => some record
  | _ => none

/-- What an operation upserts: the bundle, the day, the record and the durations. -/
def HelperOp.upserted? : HelperOp → Option (String × Nat × EventRecord × DurationMap)
  | .deleteAndUpsertTransactional b _ dayStartTime count durations _ =>
      some (b, dayStartTime, count, durations)
  | .upsertCountDuration b dayStartTime count durations _ => some (b, dayStartTime, count, durations)
  | .settleSession stop durations _ now _ =>
      some (stop.bundleName, now.today0, countRecord stop now, durations)
  | _ => none

/-- A property holds of the books in memory and of all that was ever written. -/
def Archive.All (P : Books → Prop) (a : Archive) : Prop := P a.books ∧ ∀ k ∈ a.written, P k

theorem Archive.All.commit {P : Books → Prop} {a : Archive} (holds : a.All P) {result : Books × Bool}
    (kept : P result.1) : (a.commit result).All P := by
  refine ⟨kept, fun k member => ?_⟩
  unfold Archive.commit at member
  dsimp only at member
  split at member
  · rcases List.mem_cons.1 member with rfl | old
    · exact kept
    · exact holds.2 k old
  · exact holds.2 k member

/-- **What additions and upserts bring about from books with `Q`, every operation keeps**, in
memory and in all that was written. -/
theorem Archive.All.step {Q P : Books → Prop} (closed : Closed Q) (weaken : ∀ k, Q k → P k)
    (empty : P {}) {a : Archive} (holds : a.All P) (here : Q a.books) (op : HelperOp)
    (add : ∀ record ∈ op.added?, ∀ (k : Books) (written : Bool), Q k →
      P (k.after (k.store.addEvent record written)).1)
    (upsert : ∀ u ∈ op.upserted?, ∀ k, Q k → P (k.upserted u.1 u.2.1 u.2.2.1 u.2.2.2)) :
    (a.step op).All P := by
  cases op with
  | addEvent record written => exact holds.commit (add record rfl _ written here)
  | deleteEventsByBundleAndStartIndex b startIndex written =>
      exact holds.commit
        (weaken _ (closed.deleteEventsByBundleAndStartIndex here b startIndex written))
  | deleteAndUpsertTransactional b startIndex today0 count durations written =>
      exact holds.commit
        (closed.deleteAndUpsertTransactional weaken (upsert _ rfl) here startIndex written)
  | upsertCountDuration b today0 count durations written =>
      exact holds.commit (Closed.upsertCountDuration weaken (upsert _ rfl) here written)
  | deleteEventsByTime clearDataTime written =>
      exact holds.commit (weaken _ (closed.deleteEventsByTime here clearDataTime written))
  | saveReportState value written =>
      exact holds.commit (weaken _ (closed.saveReportState here value written))
  | settleSession stop durations startIndex now written =>
      exact holds.commit (closed.settleSession weaken (upsert _ rfl) here startIndex written)
  | reload version =>
      refine ⟨?_, holds.2⟩
      show P ((a.written[version]?).getD {})
      cases found : a.written[version]? with
      | none => exact empty
      | some k => exact holds.2 k (List.mem_of_getElem? found)

/-- What an upsert rewrites or appends. -/
inductive Books.UpsertedAt (k : Books) (b : String) (dayStartTime : Nat) (count : EventRecord)
    (durations : DurationMap) : Books → Prop
  | existing (before after : List EventRow) (row : EventRow)
      (events : k.store.events = before ++ row :: after)
      (hit : isCountOfDay b dayStartTime row = true)
      (misses : ∀ r ∈ after, isCountOfDay b dayStartTime r = false) :
      UpsertedAt k b dayStartTime count durations
        { store := { k.store with events := before ++ row.addSession count durations :: after }
          sessions := k.sessions ++ [(row.id, durations)] }
  | new (none : ∀ row ∈ k.store.events, isCountOfDay b dayStartTime row = false) :
      UpsertedAt k b dayStartTime count durations
        { store :=
            { k.store with
              events := k.store.events ++
                [makeRow k.store.nextId { count with showCount := 1 } durations]
              nextId := k.store.nextId + 1 }
          sessions := k.sessions ++ [(k.store.nextId, durations)] }

theorem Books.upserted_at (k : Books) (b : String) (dayStartTime : Nat) (count : EventRecord)
    (durations : DurationMap) :
    k.UpsertedAt b dayStartTime count durations (k.upserted b dayStartTime count durations) := by
  unfold Books.upserted DataHelper.upsertCountDurationLocked DataHelper.upsertedId
  dsimp only
  split
  · rename_i events rewritten
    obtain ⟨before, row, after, split, rfl, hit, misses⟩ := Lib.modifyLast_split rewritten
    rw [split, Lib.findLast?_split before hit misses]
    exact .existing before after row split hit misses
  · rename_i missing
    have none := Lib.modifyLast_eq_none.1 missing
    rw [Lib.findLast?_eq_none.2 none]
    exact .new none

/-! ## Ids -/

/-- Ids increase and are all below the next one. -/
structure Ordered (s : DataHelper) : Prop where
  increasing : (s.events.map EventRow.id).Pairwise (· < ·)
  below : ∀ row ∈ s.events, row.id < s.nextId

theorem Ordered.append {s : DataHelper} (ordered : Ordered s) {row : EventRow}
    (id : row.id = s.nextId) :
    Ordered { s with events := s.events ++ [row], nextId := s.nextId + 1 } := by
  constructor
  · rw [List.map_append, List.pairwise_append]
    refine ⟨ordered.increasing, List.pairwise_singleton _ _, fun old member new single => ?_⟩
    obtain ⟨r, here, rfl⟩ := List.mem_map.1 member
    rw [List.map_singleton, List.mem_singleton] at single
    have below := ordered.below r here
    omega
  · intro r member
    show r.id < s.nextId + 1
    rcases List.mem_append.1 member with old | new
    · have below := ordered.below r old
      omega
    · rw [List.mem_singleton.1 new, id]
      omega

theorem ordered_closed : Closed fun k => Ordered k.store where
  report _ _ ordered := ⟨ordered.increasing, ordered.below⟩
  drop _ _ ordered :=
    ⟨ordered.increasing.sublist (List.filter_sublist.map _),
      fun row member => ordered.below row (List.mem_filter.1 member).1⟩

theorem Books.UpsertedAt.ordered {k k' : Books} {b : String} {dayStartTime : Nat}
    {count : EventRecord} {durations : DurationMap}
    (upserted : k.UpsertedAt b dayStartTime count durations k') (ordered : Ordered k.store) :
    Ordered k'.store := by
  cases upserted with
  | existing before after row events hit misses =>
      obtain ⟨increasing, below⟩ := ordered
      rw [events] at increasing below
      refine ⟨by simpa [EventRow.addSession] using increasing, fun r member => ?_⟩
      rcases List.mem_append.1 member with old | member
      · exact below r (by simp [old])
      · rcases List.mem_cons.1 member with rfl | old
        · exact below row (by simp)
        · exact below r (by simp [old])
  | new none => exact ordered.append rfl

theorem Ordered.addEvent {k : Books} (ordered : Ordered k.store) (record : EventRecord)
    (written : Bool) :
    Ordered (k.after (k.store.addEvent record written)).1.store := by
  unfold Books.after DataHelper.addEvent
  split_ifs
  · exact ordered
  · exact ordered.append rfl
  · exact ordered

theorem ordered_empty : Ordered {} := ⟨List.Pairwise.nil, by simp⟩

theorem Archive.step_ordered {a : Archive} (ordered : a.All fun k => Ordered k.store) (op : HelperOp) :
    (a.step op).All fun k => Ordered k.store :=
  ordered.step ordered_closed (fun _ => id) ordered_empty ordered.1 op
    (fun record _ _ written good => good.addEvent record written)
    fun u _ k good => (k.upserted_at u.1 u.2.1 u.2.2.1 u.2.2.2).ordered good

/-! ## Bookings of a day -/

section Days

variable {ι : Type}

/-- What tells the `COUNT_DURATION` rows of a bundle and a local day from all others. -/
def countKey (day : Nat → ι) (row : EventRow) : EventId × String × ι :=
  (row.rawid, row.bundleName, day row.happenTime)

/-- Two rows that are not both bookings of one bundle on one day. -/
def Apart (key key' : EventId × String × ι) : Prop := key.1 = .countDuration → key ≠ key'

instance [DecidableEq ι] : DecidableRel (Apart (ι := ι)) := fun key key' =>
  inferInstanceAs (Decidable (key.1 = .countDuration → key ≠ key'))

/-- A bundle has one `COUNT_DURATION` row a day, with the sessions settled into it. -/
structure Exact (day : Nat → ι) (k : Books) : Prop where
  once : (k.store.events.map (countKey day)).Pairwise Apart
  settled : ∀ row ∈ k.store.events, row.rawid = .countDuration →
    row.showCount = (k.settledInto row.id).length ∧ row.durations = (k.settledInto row.id).sum

/-- A booking of the bundle. -/
def CountOf (b : String) (row : EventRow) : Prop := row.rawid = .countDuration ∧ row.bundleName = b

instance (b : String) (row : EventRow) : Decidable (CountOf b row) :=
  inferInstanceAs (Decidable (_ ∧ _))

/-- The midnight that was read is not after any booking of the bundle on the day of the wall
clock, and no later booking of the bundle is of another day. -/
def Finds (day : Nat → ι) (b : String) (now : Tick) (s : DataHelper) : Prop :=
  ∀ row ∈ s.events, CountOf b row → day row.happenTime = day now.wall →
    now.today0 ≤ row.happenTime ∧
      ∀ later ∈ s.events, CountOf b later → row.happenTime ≤ later.happenTime →
        day later.happenTime = day now.wall

instance [DecidableEq ι] (day : Nat → ι) (b : String) (now : Tick) (s : DataHelper) :
    Decidable (Finds day b now s) :=
  inferInstanceAs (Decidable (∀ row ∈ s.events, _ → _ → _))

/-- Bookings of one bundle stand in the order of their times. -/
def InTime (row row' : EventRow) : Prop :=
  CountOf row.bundleName row → CountOf row.bundleName row' → row.happenTime ≤ row'.happenTime

/-- The books while only settlements book, none after the clock. -/
structure Counts (day : Nat → ι) (clock : Nat) (k : Books) : Prop extends Exact day k where
  ordered : Ordered k.store
  inTime : k.store.events.Pairwise InTime
  past : ∀ row ∈ k.store.events, row.rawid = .countDuration → row.happenTime ≤ clock
  booked : ∀ session ∈ k.sessions, session.1 < k.store.nextId

end Days

section Counts

variable {ι : Type} {day : Nat → ι} {clock : Nat}

theorem Counts.later {clock' : Nat} {k : Books} (counts : Counts day clock k)
    (later : clock ≤ clock') : Counts day clock' k :=
  { counts with past := fun row member kind => (counts.past row member kind).trans later }

theorem counts_closed : Closed (Counts day clock) where
  report k value counts :=
    { once := counts.once, settled := counts.settled, past := counts.past, booked := counts.booked
      inTime := counts.inTime, ordered := ordered_closed.report k value counts.ordered }
  drop k keep counts :=
    { once := counts.once.sublist (List.filter_sublist.map _)
      settled := fun row member => counts.settled row (List.mem_filter.1 member).1
      inTime := counts.inTime.sublist List.filter_sublist
      past := fun row member => counts.past row (List.mem_filter.1 member).1
      booked := counts.booked
      ordered := ordered_closed.drop k keep counts.ordered }

/-- The sessions of a row after one more session is booked. -/
theorem settledInto_append (s : DataHelper) (sessions : List (Int × DurationMap)) (id id' : Int)
    (durations : DurationMap) :
    Books.settledInto { store := s, sessions := sessions ++ [(id, durations)] } id' =
      Books.settledInto { store := s, sessions := sessions } id' ++
        if id = id' then [durations] else [] := by
  by_cases same : id = id'
  · simp [Books.settledInto, same]
  · simp [Books.settledInto, same]

theorem settledInto_new {k : Books} (booked : ∀ session ∈ k.sessions, session.1 < k.store.nextId) :
    k.settledInto k.store.nextId = [] := by
  unfold Books.settledInto
  rw [List.map_eq_nil_iff, List.filter_eq_nil_iff]
  intro session member same
  have below := booked session member
  simp only [beq_iff_eq] at same
  omega

theorem Counts.addEvent {k : Books} (counts : Counts day clock k) {record : EventRecord}
    (raw : record.rawid ≠ .countDuration) (written : Bool) :
    Counts day clock (k.after (k.store.addEvent record written)).1 := by
  unfold Books.after DataHelper.addEvent
  split_ifs
  · exact counts
  · have rows : ∀ row ∈ k.store.events ++ [makeRow k.store.nextId record 0],
        row.rawid = .countDuration → row ∈ k.store.events := by
      intro row member kind
      rcases List.mem_append.1 member with old | new
      · exact old
      · rw [List.mem_singleton.1 new] at kind
        exact absurd kind raw
    refine ⟨⟨?_, fun row member kind => counts.settled row (rows row member kind) kind⟩,
      counts.ordered.append rfl, ?_, fun row member kind => counts.past row (rows row member kind) kind,
      fun session member => ?_⟩
    · rw [List.map_append, List.pairwise_append]
      refine ⟨counts.once, List.pairwise_singleton _ _, fun key _ key' new count same => ?_⟩
      rw [List.map_singleton, List.mem_singleton] at new
      rw [same, new] at count
      exact raw count
    · rw [List.pairwise_append]
      refine ⟨counts.inTime, List.pairwise_singleton _ _, fun row _ row' new _ count => ?_⟩
      rw [List.mem_singleton.1 new] at count
      exact absurd count.1 raw
    · exact (counts.booked session member).trans (by simp)
  · exact counts

/-- When one row is rewritten, every other row is an old one with another id. -/
theorem Ordered.others {s : DataHelper} (ordered : Ordered s) {before after : List EventRow}
    {row : EventRow} (events : s.events = before ++ row :: after) (rewritten : EventRow) :
    ∀ r ∈ before ++ rewritten :: after, r = rewritten ∨ r ∈ s.events ∧ row.id ≠ r.id := by
  have increasing := ordered.increasing
  rw [events, List.map_append, List.map_cons, List.pairwise_append, List.pairwise_cons] at increasing
  obtain ⟨-, ⟨afterRow, -⟩, beforeRow⟩ := increasing
  intro r here
  rcases List.mem_append.1 here with old | here
  · have below := beforeRow _ (List.mem_map_of_mem old) _ List.mem_cons_self
    exact .inr ⟨by simp [events, old], below.ne'⟩
  · rcases List.mem_cons.1 here with rfl | old
    · exact .inl rfl
    · have above := afterRow _ (List.mem_map_of_mem old)
      exact .inr ⟨by simp [events, old], above.ne⟩

/-- No booking of the bundle stands behind the one that is found. -/
theorem Counts.last {k : Books} (counts : Counts day clock k) {b : String} {dayStartTime : Nat}
    {before after : List EventRow} {row : EventRow} (events : k.store.events = before ++ row :: after)
    (hit : isCountOfDay b dayStartTime row = true)
    (misses : ∀ r ∈ after, isCountOfDay b dayStartTime r = false) :
    ∀ r ∈ after, ¬ CountOf b r := by
  intro r here count
  have inTime := counts.inTime
  rw [events, List.pairwise_append, List.pairwise_cons] at inTime
  simp only [isCountOfDay, Bool.and_eq_true, beq_iff_eq, decide_eq_true_eq] at hit
  obtain ⟨⟨rfl, kind⟩, ofDay⟩ := hit
  have later := inTime.2.1.1 r here ⟨kind, rfl⟩ count
  have miss := misses r here
  simp [isCountOfDay, count.1, count.2] at miss
  omega

/-- Two bookings of one bundle and day are not both in the books. -/
theorem Exact.apart {k : Books} (exact : Exact day k) {before after : List EventRow}
    {row other : EventRow}
    (events : k.store.events = before ++ row :: after) (earlier : other ∈ before)
    (count : CountOf row.bundleName other) (kind : row.rawid = .countDuration) :
    day other.happenTime ≠ day row.happenTime := by
  intro same
  have once := exact.once
  rw [events, List.map_append, List.map_cons, List.pairwise_append] at once
  refine once.2.2 _ (List.mem_map_of_mem earlier) _ List.mem_cons_self count.1 ?_
  simp only [countKey, count.1, count.2, kind, same]

/-- A row that is a booking of the bundle on the day. -/
theorem countKey_eq_iff {row : EventRow} {b : String} {d : ι} :
    countKey day row = (.countDuration, b, d) ↔ CountOf b row ∧ day row.happenTime = d := by
  simp only [countKey, CountOf, Prod.mk.injEq]
  tauto

/-- A booking for a day without one can stand behind the other rows. -/
theorem once_append {events : List EventRow} {row : EventRow}
    (once : (events.map (countKey day)).Pairwise Apart) (kind : row.rawid = .countDuration)
    (none : ∀ r ∈ events, CountOf row.bundleName r → day r.happenTime ≠ day row.happenTime) :
    ((events ++ [row]).map (countKey day)).Pairwise Apart := by
  rw [List.map_append, List.pairwise_append]
  refine ⟨once, List.pairwise_singleton _ _, fun key old key' new isCount same => ?_⟩
  obtain ⟨r, here, rfl⟩ := List.mem_map.1 old
  rw [List.map_singleton, List.mem_singleton] at new
  have ofDay : countKey day r = (.countDuration, row.bundleName, day row.happenTime) := by
    rw [same, new, countKey, kind]
  obtain ⟨count, sameDay⟩ := countKey_eq_iff.1 ofDay
  exact none r here count sameDay

/-- A new row has the one session that made it. -/
theorem Counts.settledInto_made {k : Books} (counts : Counts day clock k) (events : List EventRow)
    (durations : DurationMap) :
    Books.settledInto
        { store := { k.store with events, nextId := k.store.nextId + 1 }
          sessions := k.sessions ++ [(k.store.nextId, durations)] } k.store.nextId = [durations] := by
  have fresh : Books.settledInto
      { store := { k.store with events, nextId := k.store.nextId + 1 }, sessions := k.sessions }
        k.store.nextId = [] :=
    settledInto_new counts.booked
  rw [settledInto_append, if_pos rfl, fresh, List.nil_append]

section Upserts

variable {k : Books} {count : EventRecord} {durations : DurationMap}

/-- One more session is booked into the last row of the bundle, which no row of the day is before. -/
theorem Counts.addSession (counts : Counts day count.happenTime k) {before after : List EventRow}
    {row : EventRow} (events : k.store.events = before ++ row :: after)
    (kind : row.rawid = .countDuration) (bundle : row.bundleName = count.bundleName)
    (first : ∀ r ∈ before, CountOf count.bundleName r → day r.happenTime ≠ day count.happenTime)
    (last : ∀ r ∈ after, ¬ CountOf count.bundleName r)
    (ordered : Ordered { k.store with events := before ++ row.addSession count durations :: after }) :
    Counts day count.happenTime
      { store := { k.store with events := before ++ row.addSession count durations :: after }
        sessions := k.sessions ++ [(row.id, durations)] } := by
  have member : row ∈ k.store.events := by simp [events]
  have others := counts.ordered.others events (row.addSession count durations)
  have key : countKey day (row.addSession count durations) =
      (.countDuration, count.bundleName, day count.happenTime) :=
    countKey_eq_iff.2 ⟨⟨kind, bundle⟩, rfl⟩
  refine ⟨⟨?_, fun r here isCount => ?_⟩, ordered, ?_, fun r here isCount => ?_, fun session here => ?_⟩
  · have once := counts.once
    rw [events, List.map_append, List.map_cons, List.pairwise_append, List.pairwise_cons] at once
    obtain ⟨early, ⟨-, late⟩, across⟩ := once
    rw [List.map_append, List.map_cons, List.pairwise_append, List.pairwise_cons]
    refine ⟨early, ⟨fun other there _ same => ?_, late⟩, fun other there other' here isCount => ?_⟩
    · obtain ⟨r, here, rfl⟩ := List.mem_map.1 there
      exact last r here (countKey_eq_iff.1 (same.symm.trans key)).1
    · rcases List.mem_cons.1 here with rfl | here
      · obtain ⟨r, inside, rfl⟩ := List.mem_map.1 there
        intro same
        obtain ⟨ofBundle, ofDay⟩ := countKey_eq_iff.1 (same.trans key)
        exact first r inside ofBundle ofDay
      · exact across other there other' (List.mem_cons_of_mem _ here) isCount
  · rw [settledInto_append]
    rcases others r here with rfl | ⟨old, other⟩
    · obtain ⟨shows, times⟩ := counts.settled row member kind
      have id : (row.addSession count durations).id = row.id := rfl
      rw [id, if_pos rfl, List.length_append, List.sum_append]
      constructor
      · show row.showCount + 1 = _
        rw [shows]
        rfl
      · show row.durations + durations = _
        rw [times, List.sum_singleton]
        rfl
    · rw [if_neg other, List.append_nil]
      exact counts.settled r old isCount
  · have inTime := counts.inTime
    rw [events, List.pairwise_append, List.pairwise_cons] at inTime
    obtain ⟨early, ⟨-, late⟩, across⟩ := inTime
    show (before ++ row.addSession count durations :: after).Pairwise InTime
    rw [List.pairwise_append, List.pairwise_cons]
    refine ⟨early, ⟨fun r here _ isCount => ?_, late⟩, fun r there r' here isCount isCount' => ?_⟩
    · exact absurd (show CountOf count.bundleName r from bundle ▸ isCount) (last r here)
    · rcases List.mem_cons.1 here with rfl | here
      · exact counts.past r (by simp [events, there]) isCount.1
      · exact across r there r' (List.mem_cons_of_mem _ here) isCount isCount'
  · rcases others r here with rfl | ⟨old, -⟩
    · exact le_rfl
    · exact counts.past r old isCount
  · rcases List.mem_append.1 here with old | new
    · exact counts.booked session old
    · rw [List.mem_singleton.1 new]
      exact counts.ordered.below row member

/-- A day without a row gets one, with the session. -/
theorem Counts.makeRow (counts : Counts day count.happenTime k) (kind : count.rawid = .countDuration)
    (none : ∀ r ∈ k.store.events, CountOf count.bundleName r →
      day r.happenTime ≠ day count.happenTime) :
    Counts day count.happenTime
      { store :=
          { k.store with
            events := k.store.events ++
              [Usage.makeRow k.store.nextId { count with showCount := 1 } durations]
            nextId := k.store.nextId + 1 }
        sessions := k.sessions ++ [(k.store.nextId, durations)] } := by
  refine ⟨⟨?_, fun r here isCount => ?_⟩, counts.ordered.append rfl, ?_, fun r here isCount => ?_,
    fun session here => ?_⟩
  · exact once_append counts.once kind none
  · rcases List.mem_append.1 here with old | new
    · rw [settledInto_append, if_neg (counts.ordered.below r old).ne', List.append_nil]
      exact counts.settled r old isCount
    · rw [List.mem_singleton.1 new]
      have one := counts.settledInto_made
        (k.store.events ++ [Usage.makeRow k.store.nextId { count with showCount := 1 } durations])
          durations
      have id : (Usage.makeRow k.store.nextId { count with showCount := 1 } durations).id =
        k.store.nextId := rfl
      rw [id, one]
      exact ⟨rfl, (List.sum_singleton).symm⟩
  · rw [List.pairwise_append]
    refine ⟨counts.inTime, List.pairwise_singleton _ _, fun r old row new isCount _ => ?_⟩
    rw [List.mem_singleton.1 new]
    exact counts.past r old isCount.1
  · rcases List.mem_append.1 here with old | new
    · exact counts.past r old isCount
    · rw [List.mem_singleton.1 new]
      exact le_rfl
  · show session.1 < k.store.nextId + 1
    rcases List.mem_append.1 here with old | new
    · have below := counts.booked session old
      omega
    · rw [List.mem_singleton.1 new]
      simp

/-- **A settlement that finds the rows of its day is booked into the one row of its bundle and
day.** -/
theorem Books.UpsertedAt.counts {k' : Books} {stop : EventRecord} {now : Tick}
    (upserted : k.UpsertedAt stop.bundleName now.today0 (countRecord stop now) durations k')
    (finds : Finds day stop.bundleName now k.store) (counts : Counts day now.wall k) :
    Counts day now.wall k' := by
  have ordered := upserted.ordered counts.ordered
  cases upserted with
  | existing before after row events hit misses =>
      have last := counts.last events hit misses
      simp only [isCountOfDay, Bool.and_eq_true, beq_iff_eq, decide_eq_true_eq] at hit
      obtain ⟨⟨bundle, kind⟩, -⟩ := hit
      have counts : Counts day (countRecord stop now).happenTime k := counts
      refine counts.addSession events kind bundle ?_ last ordered
      -- A row of the day before the one that is found would make that one a second row of the day.
      intro r here isCount ofDay
      have there : r ∈ k.store.events := by simp [events, here]
      have inTime := counts.inTime
      rw [events, List.pairwise_append] at inTime
      have both : r.bundleName = row.bundleName := isCount.2.trans bundle.symm
      have later := inTime.2.2 r here row List.mem_cons_self ⟨isCount.1, rfl⟩ ⟨kind, both.symm⟩
      have sameDay := (finds r there isCount ofDay).2 row (by simp [events]) ⟨kind, bundle⟩ later
      exact counts.apart events here ⟨isCount.1, both⟩ kind (ofDay.trans sameDay.symm)
  | new none =>
      have counts : Counts day (countRecord stop now).happenTime k := counts
      refine counts.makeRow rfl fun r here isCount ofDay => ?_
      have isCount : CountOf stop.bundleName r := isCount
      have early := (finds r here isCount ofDay).1
      have miss := none r here
      simp [isCountOfDay, isCount.1, isCount.2] at miss
      omega

end Upserts

theorem counts_empty : Counts day clock {} where
  once := List.Pairwise.nil
  settled := by simp
  inTime := List.Pairwise.nil
  ordered := ordered_empty
  past := by simp
  booked := by simp

end Counts

/-- Only `SettleSession` books, with a clock that does not go back. -/
def HelperOp.BySettlement (a : Archive) : HelperOp → Prop
  | .addEvent record _ => record.rawid ≠ .countDuration
  | .deleteAndUpsertTransactional _ _ _ _ _ _ => False
  | .upsertCountDuration _ _ _ _ _ => False
  | .settleSession _ _ _ now _ => a.clock ≤ now.wall
  | _ => True

/-- A settlement finds what is booked for its bundle on its day. -/
def HelperOp.Finds {ι : Type} (day : Nat → ι) (op : HelperOp) (s : DataHelper) : Prop :=
  match op with
  | .settleSession stop _ _ now _ => Usage.Finds day stop.bundleName now s
  | _ => True

/-! ## Local time -/

/-- `ZeroClockMsFromTimeT`, in a zone whose offset from UTC is a function of the second.  `mktime`
takes the midnight with the `tm_isdst` of the reading, that is, with its offset. -/
def zeroClockMsFromTimeT (utcOffset : Nat → Int) (t : Nat) : Nat :=
  let midnight : Int := (t + utcOffset t) / 86400 * 86400 - utcOffset t
  if midnight < 0 then 0 else midnight.toNat * 1000

/-- `GetToday0ClockMs` at a reading of the wall clock. -/
def getToday0ClockMs (utcOffset : Nat → Int) (wall : Nat) : Nat :=
  zeroClockMsFromTimeT utcOffset (wall / 1000)

/-- The local day of a time. -/
def localDay (utcOffset : Nat → Int) (wall : Nat) : Int :=
  ((wall / 1000 : Nat) + utcOffset (wall / 1000)) / 86400

/-- The midnight of a settlement is that of a reading on the local day of its wall clock. -/
def HelperOp.OnOneDay (utcOffset : Nat → Int) : HelperOp → Prop
  | .settleSession _ _ _ now _ =>
      ∃ wall, localDay utcOffset wall = localDay utcOffset now.wall ∧
        now.today0 = getToday0ClockMs utcOffset wall
  | _ => True

/-- Where the clocks are never changed a midnight is not after a time of its day. -/
theorem getToday0ClockMs_le {offset : Int} {wall t : Nat}
    (same : localDay (fun _ => offset) t = localDay (fun _ => offset) wall) :
    getToday0ClockMs (fun _ => offset) wall ≤ t := by
  unfold localDay at same
  unfold getToday0ClockMs zeroClockMsFromTimeT
  dsimp only at same ⊢
  split <;> omega

theorem localDay_between {offset : Int} {t u v : Nat} (low : t ≤ u) (high : u ≤ v)
    (same : localDay (fun _ => offset) t = localDay (fun _ => offset) v) :
    localDay (fun _ => offset) u = localDay (fun _ => offset) v := by
  unfold localDay at same ⊢
  dsimp only at same ⊢
  omega

section Runs

variable {ι : Type} {day : Nat → ι}

theorem finds_closed (op : HelperOp) : Closed fun k => op.Finds day k.store where
  report k value finds := by
    cases op with
    | settleSession stop durations startIndex now written => exact finds
    | _ => trivial
  drop k keep finds := by
    cases op with
    | settleSession stop durations startIndex now written =>
        intro row member isCount ofDay
        obtain ⟨early, same⟩ := finds row (List.mem_filter.1 member).1 isCount ofDay
        exact ⟨early, fun later there => same later (List.mem_filter.1 there).1⟩
    | _ => trivial

theorem Closed.and {P Q : Books → Prop} (first : Closed P) (second : Closed Q) :
    Closed fun k => P k ∧ Q k where
  report k value both := ⟨first.report k value both.1, second.report k value both.2⟩
  drop k keep both := ⟨first.drop k keep both.1, second.drop k keep both.2⟩

theorem Archive.step_counts {a : Archive} (counts : a.All (Counts day a.clock)) {op : HelperOp}
    (settles : op.BySettlement a) (finds : op.Finds day a.store) :
    (a.step op).All (Counts day (a.step op).clock) := by
  have clock : a.clock ≤ (a.step op).clock := by
    cases op with
    | settleSession stop durations startIndex now written => exact settles
    | _ => exact le_rfl
  have later : a.All (Counts day (a.step op).clock) :=
    ⟨counts.1.later clock, fun k member => (counts.2 k member).later clock⟩
  refine later.step (Q := fun k => Counts day (a.step op).clock k ∧ op.Finds day k.store)
    (counts_closed.and (finds_closed op)) (fun _ => And.left) counts_empty ⟨later.1, finds⟩ op ?_ ?_
  · intro record added k written good
    cases op with
    | addEvent record' written' =>
        obtain rfl : record' = record := Option.some.inj added
        exact good.1.addEvent settles written
    | _ => cases added
  · intro u upserts k good
    cases op with
    | settleSession stop durations startIndex now written =>
        obtain rfl : (stop.bundleName, now.today0, countRecord stop now, durations) = u :=
          Option.some.inj upserts
        exact (k.upserted_at _ _ _ durations).counts good.2 good.1
    | deleteAndUpsertTransactional _ _ _ _ _ _ => exact absurd settles id
    | upsertCountDuration _ _ _ _ _ => exact absurd settles id
    | _ => cases upserts

/-- Where the clocks are never changed a settlement on one day finds what is booked on it. -/
theorem HelperOp.OnOneDay.finds {offset : Int} {op : HelperOp} {a : Archive}
    (onOneDay : op.OnOneDay fun _ => offset) (settles : op.BySettlement a)
    (counts : Counts (localDay fun _ => offset) a.clock a.books) :
    op.Finds (localDay fun _ => offset) a.store := by
  cases op with
  | settleSession stop durations startIndex now written =>
      obtain ⟨wall, oneDay, midnight⟩ := onOneDay
      intro row member isCount ofDay
      rw [midnight]
      refine ⟨getToday0ClockMs_le (ofDay.trans oneDay.symm), fun later there isCount' after => ?_⟩
      exact localDay_between after ((counts.past later there isCount'.1).trans settles) ofDay
  | _ => trivial

/-- **The representation of the store.**  After any operations and reloads, with any
outcome of the writes, ids increase below the next one; and where only settlements book, with a
midnight that is not after what is booked on their day, each bundle has one row a day, exactly
with the sessions settled into it.  Where the clocks are never changed every midnight read on the
day is such a one. -/
theorem store_representation (ops : List HelperOp) :
    let a := Lib.run Archive.step {} ops
    Ordered a.store ∧
      (∀ {ι : Type} (day : Nat → ι),
        Lib.Meets Archive.step (fun a op => op.BySettlement a ∧ op.Finds day a.store) {} ops →
          Exact day a.books) ∧
      ∀ offset : Int,
        Lib.Meets Archive.step (fun a op => op.BySettlement a ∧ op.OnOneDay fun _ => offset) {} ops →
          Exact (localDay fun _ => offset) a.books := by
  intro a
  refine ⟨?_, ?_, ?_⟩
  · have start : Archive.All (fun k => Ordered k.store) {} := ⟨ordered_empty, by simp⟩
    have final := Lib.run_always (P := fun a : Archive => a.All fun k => Ordered k.store)
      (fun a op ordered => Archive.step_ordered ordered op) start ops
    exact final.1
  · intro ι day settles
    have start : Archive.All (Counts day (Archive.clock {})) {} := ⟨counts_empty, by simp⟩
    have final := Lib.run_keeps (P := fun a : Archive => a.All (Counts day a.clock))
      (fun a op good ok => Archive.step_counts good ok.1 ok.2) start settles
    exact final.1.toExact
  · intro offset settles
    have start : Archive.All (Counts (localDay fun _ => offset) (Archive.clock {})) {} :=
      ⟨counts_empty, by simp⟩
    have final := Lib.run_keeps
      (P := fun a : Archive => a.All (Counts (localDay fun _ => offset) a.clock))
      (fun a op good ok => Archive.step_counts good ok.1 (ok.2.finds ok.1 good.1)) start settles
    exact final.1.toExact

end Runs

/-! ## Poles -/

instance (a : Archive) : (op : HelperOp) → Decidable (op.BySettlement a)
  | .addEvent _ _ => inferInstanceAs (Decidable (_ ≠ _))
  | .deleteAndUpsertTransactional _ _ _ _ _ _ => .isFalse id
  | .upsertCountDuration _ _ _ _ _ => .isFalse id
  | .settleSession _ _ _ _ _ => inferInstanceAs (Decidable (_ ≤ _))
  | .deleteEventsByBundleAndStartIndex _ _ _ => .isTrue trivial
  | .deleteEventsByTime _ _ => .isTrue trivial
  | .saveReportState _ _ => .isTrue trivial
  | .reload _ => .isTrue trivial

instance {ι : Type} [DecidableEq ι] (day : Nat → ι) (s : DataHelper) :
    (op : HelperOp) → Decidable (op.Finds day s)
  | .settleSession stop _ _ now _ => inferInstanceAs (Decidable (Usage.Finds day stop.bundleName now s))
  | .addEvent _ _ => .isTrue trivial
  | .deleteAndUpsertTransactional _ _ _ _ _ _ => .isTrue trivial
  | .upsertCountDuration _ _ _ _ _ => .isTrue trivial
  | .deleteEventsByBundleAndStartIndex _ _ _ => .isTrue trivial
  | .deleteEventsByTime _ _ => .isTrue trivial
  | .saveReportState _ _ => .isTrue trivial
  | .reload _ => .isTrue trivial

/-- Two sessions of one day around a failed transaction and a reload: one row, with both. -/
theorem two_sessions_one_row :
    let session : DurationMap := bucket unfoldedPortrait 1000
    let stop : EventRecord := { rawid := .inputStop, bundleName := "a" }
    let ops : List HelperOp :=
      [.addEvent { rawid := .inputStart, bundleName := "a" } true,
       .settleSession stop session 1 { boot := 5, wall := 90000000, today0 := millisecsPerDay } {},
       .reload 0, .addEvent { rawid := .inputStart, bundleName := "a" } true,
       .settleSession stop session 3 { boot := 9, wall := 90000000, today0 := millisecsPerDay }
         { transaction := false, delete := false }]
    let a := Lib.run Archive.step {} ops
    (a.store.events.map fun row => (row.id, row.rawid, row.showCount)) =
        [(2, .countDuration, 2), (3, .inputStart, 0)] ∧
      Ordered a.store ∧ Exact utcDayStart a.books := by
  intro session stop ops a
  obtain ⟨ordered, exact, -⟩ := store_representation ops
  exact ⟨by decide +kernel, ordered, exact utcDayStart (by decide +kernel)⟩

/-- Four hours behind UTC, and five from 2026-11-01 06:00 UTC on. -/
def clocksSetBack (t : Nat) : Int := if t < 1793512800 then -14400 else -18000

/-- Sessions are settled at 00:30 and at 12:00 local time of the day the clocks are set back.  The
midnight of the second one is 01:00 of the first one's clock: each gets a row of its own. -/
theorem day_of_two_rows :
    ¬ ∀ ops : List HelperOp,
      Lib.Meets Archive.step (fun a op => op.BySettlement a ∧ op.OnOneDay clocksSetBack) {} ops →
        Exact (localDay clocksSetBack) (Lib.run Archive.step {} ops).books := by
  intro all
  let settle (boot wall today0 : Nat) : HelperOp :=
    .settleSession { rawid := .inputStop, bundleName := "a" } (bucket unfoldedPortrait 1000) (-1)
      { boot, wall, today0 } {}
  have exact := all [settle 5 1793507400000 1793505600000, settle 9 1793552400000 1793509200000] (by
    refine ⟨⟨by decide, 1793507400000, rfl, by decide⟩,
      ⟨by decide +kernel, 1793552400000, rfl, by decide⟩, trivial⟩)
  exact absurd exact.once (by decide +kernel)

end Imf.Usage
