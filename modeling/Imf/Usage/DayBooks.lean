/-
# Imf.Usage.DayBooks -- one day in the store, by screen status

The account of a day is the `Ledger` of its sessions with the history of statuses told: `shownWith`
is how long a bundle was shown with a status.  `Journal` is what the store holds of it: the closed
sessions as `COUNT_DURATION` rows, and behind them the rows of the session that is open, from which
its segments can be read back.  Every call keeps it when the START row of a session that it closes has
an id below 2^31 (`Call.StartFits`): the id is found again through an `int32_t`.
-/
import Imf.Usage.Recovery
import Imf.Usage.Partition

namespace Imf.Usage

set_option autoImplicit false

open DataHelper
open Lib (latest latest_append timeWith)

/-! ## The account of a day -/

namespace Ledger

section Account

variable (w : Ledger) (p : Int → Prop) [DecidablePred p] (initial : Int)
  (changes : List (Nat × Int)) (b : String)

/-- How long `b` was shown with a status in `p`, in the sessions that have ended. -/
def closedWith : Nat :=
  ((w.closed.filter fun s => s.bundleName == b).map fun s =>
    timeWith p initial changes s.start.boot s.hide.boot).sum

/-- The same for the session that is open, by `now`. -/
def openWith (now : Nat) : Nat :=
  match w.current with
  | some (c, start) => if c = b then timeWith p initial changes start.boot now else 0
  | none => 0

def shownWith (now : Nat) : Nat := w.closedWith p initial changes b + w.openWith p initial changes b now

end Account

def openSessions (w : Ledger) (b : String) : Nat :=
  match w.current with
  | some (c, _) => if c = b then 1 else 0
  | none => 0

/-- In how many sessions `b` was shown. -/
def sessions (w : Ledger) (b : String) : Nat :=
  (w.closed.filter fun s => s.bundleName == b).length + w.openSessions b

/-- The bundles that were shown. -/
def bundles (w : Ledger) : List String :=
  (w.closed.map Session.bundleName ++ w.current.toList.map Prod.fst).dedup

end Ledger

/-- The statuses that a call tells. -/
def Call.told : Call → List (Nat × Int)
  | .bind .. => []
  | .unbind .. => []
  | .screen _ new now _ => [(now.boot, new)]

namespace Ledger

variable {w : Ledger} {p : Int → Prop} [DecidablePred p] {initial : Int} {changes : List (Nat × Int)}

/-- What has ended stays as it is when a status is told later. -/
theorem closedWith_append {t : Nat} (later : ∀ s ∈ w.closed, s.hide.boot ≤ t) (new : Int) (b : String) :
    w.closedWith p initial (changes ++ [(t, new)]) b = w.closedWith p initial changes b := by
  unfold closedWith
  refine congrArg List.sum (List.map_congr_left fun s member => ?_)
  exact Lib.timeWith_append_before (later s (List.mem_filter.1 member).1) new

/-- One more session. -/
theorem closedWith_close (w : Ledger) (s : Session) (current : Option (String × Tick)) (b : String) :
    closedWith { current, closed := w.closed ++ [s] } p initial changes b =
      w.closedWith p initial changes b +
        if b = s.bundleName then timeWith p initial changes s.start.boot s.hide.boot else 0 := by
  by_cases same : b = s.bundleName
  · subst same
    simp [closedWith]
  · simp [closedWith, same, Ne.symm same]

/-- No bundle was shown for longer than all sessions together. -/
theorem closedWith_le (w : Ledger) (b : String) :
    w.closedWith p initial changes b ≤ (w.closed.map Session.time).sum := by
  have shorter : ∀ s : Session, timeWith p initial changes s.start.boot s.hide.boot ≤ s.time :=
    fun s => Lib.timeWith_le p initial changes s.start.boot s.hide.boot
  unfold closedWith
  induction w.closed with
  | nil => simp
  | cons s closed ih =>
      have first := shorter s
      rw [List.map_cons, List.sum_cons]
      by_cases same : s.bundleName = b
      · rw [List.filter_cons_of_pos (by simpa using same), List.map_cons, List.sum_cons]
        omega
      · rw [List.filter_cons_of_neg (by simpa using same)]
        omega

end Ledger

/-! ## The rows of an open session -/

/-- The segments between the rows of the open session are those that the cacher has added up, and the
segment it is in began with the newest. -/
structure Segmented (c : EventCacher) (offset : Nat) (rows : List EventRow) : Prop where
  nothing : ∀ row ∈ rows, row.durations = 0
  segments : foregroundPairs (rows.reverse.map toForeground) { package := c.currentImeBundle } =
    { package := c.currentImeBundle, durations := c.sessionDurations }
  newest : ∃ newest older, rows.reverse = newest :: older ∧ newest.ts = c.segmentStartBootTime ∧
    newest.happenTime = c.segmentStartBootTime + offset ∧ newest.screenStatus = c.segmentScreenStatus

/-- Time that fits is added as it is. -/
theorem addDuration_bucket {info : UsageInfo} {status : Int} {duration : Nat}
    (small : ∀ i, info.durations i + bucket status duration i < 2 ^ 32) :
    info.addDuration status duration =
      { info with durations := info.durations + bucket status duration } := by
  unfold UsageInfo.addDuration
  cases index : screenStatusToIndex status with
  | none => simp [bucket, index]
  | some j =>
      have fits := small j
      simp only [bucket, index, Pi.single_eq_same] at fits ⊢
      refine congrArg (fun durations => { info with durations }) (funext fun i => ?_)
      by_cases same : i = j
      · subst same
        simp [toUInt32_eq fits]
      · simp [same]

/-- A guarded difference that fits. -/
theorem narrowed_sub {a b : Nat} (short : a - b < 2 ^ 32) :
    (if a > b then toUInt32 (a - b) else 0) = a - b := by
  split
  · exact toUInt32_eq short
  · omega

/-- A ready session that is closed now. -/
theorem EventCacher.closeSegment_bucket {c : EventCacher}
    (ready : c.isSessionDurationsReady = true) (now : Nat) :
    c.closeSegment now = c.sessionDurations + bucket c.segmentScreenStatus
      (now - c.segmentStartBootTime) := by
  funext i
  rw [closeSegment_apply ready, Pi.add_apply, bucket_apply]

namespace Segmented

variable {c : EventCacher} {offset : Nat} {rows : List EventRow}

/-- The segment that ends now, added to those that the rows hold. -/
theorem segment (segmented : Segmented c offset rows)
    (ready : c.isSessionDurationsReady = true) {now : Nat}
    (small : ∀ i, c.closeSegment now i < 2 ^ 32) :
    (foregroundPairs (rows.reverse.map toForeground) { package := c.currentImeBundle }).addDuration
        c.segmentScreenStatus (now - c.segmentStartBootTime) =
      { package := c.currentImeBundle, durations := c.closeSegment now } := by
  rw [EventCacher.closeSegment_bucket ready] at small ⊢
  rw [segmented.segments]
  exact addDuration_bucket small

/-- A session that begins, with its START row. -/
theorem opened (c : EventCacher) (b : String) {now : Tick}
    (wall : now.wall = now.boot + offset) (id : Int) :
    Segmented (c.opened b now) offset [makeRow id (c.startRecord b now) 0] where
  nothing := by simp [makeRow]
  segments := rfl
  newest := ⟨_, [], rfl, rfl, wall, rfl⟩

/-- A status changes: a new row, and the segment before it is one that the rows hold. -/
theorem turned (segmented : Segmented c offset rows)
    (ready : c.isSessionDurationsReady = true) (pre new : Int)
    {now : Tick} (wall : now.wall = now.boot + offset)
    (short : now.boot - c.segmentStartBootTime < 2 ^ 32)
    (small : ∀ i, c.closeSegment now.boot i < 2 ^ 32) (id : Int) :
    Segmented ((c.decoded new).turned new now) offset
      (rows ++ [makeRow id (c.statusRecord pre new now) 0]) where
  nothing := by
    intro row member
    rcases List.mem_append.1 member with old | added
    · exact segmented.nothing row old
    · rw [List.mem_singleton.1 added]
      rfl
  segments := by
    obtain ⟨newest, older, reversed, ts, -, status⟩ := segmented.newest
    have before := segmented.segment ready small
    rw [List.reverse_append, List.map_append]
    rw [reversed, List.map_cons] at before ⊢
    show (foregroundPairs (toForeground newest :: older.map toForeground) _).addDuration
      newest.screenStatus
      (if now.boot > newest.ts then toUInt32 (now.boot - newest.ts) else 0) = _
    rw [status, ts, narrowed_sub short]
    exact before
  newest := by
    refine ⟨makeRow id (c.statusRecord pre new now) 0, rows.reverse, ?_, rfl, wall, rfl⟩
    rw [List.reverse_append]
    rfl

/-- The status of the segment is told again. -/
theorem repeated (segmented : Segmented c offset rows) (new : Int) :
    Segmented (c.decoded new) offset rows :=
  ⟨segmented.nothing, segmented.segments, segmented.newest⟩

end Segmented

/-! ## The invariant -/

/-- The session that is open: since when, and its rows. -/
structure OpenEntry (from_ offset : Nat) (initial : Int) (changes : List (Nat × Int))
    (u : Recorder) (w : Ledger)
    (seen : Nat) (since : Tick) (start : EventRow) (statuses : List EventRow) : Prop where
  current : w.current = some (u.cacher.currentImeBundle, since)
  tracks : u.cacher.Tracks initial changes since.boot seen
  raw : rawRows u.store.events = start :: statuses
  session : OpenRows u.cacher u.store start statuses
  segmented : Segmented u.cacher offset (start :: statuses)
  began : from_ ≤ since.boot + offset
  span : (w.closed.map Session.time).sum ≤ since.boot + offset - from_
  spent : (w.closed.length : Int) ≤ start.id

/-- The store agrees with the account of a day that began at `from_`.  `seen` is when the last session
or status began or ended, `clock` the last reading. -/
structure Journal (from_ offset : Nat) (initial : Int) (changes : List (Nat × Int))
    (u : Recorder) (w : Ledger) (seen clock : Nat) : Prop where
  store : WellFormed u.store
  status : ∀ x, seen ≤ x → latest initial changes x = u.cacher.getScreenStatus
  order : seen ≤ clock
  window : ∀ row ∈ u.store.events, from_ ≤ row.happenTime ∧ row.happenTime ≤ clock + offset
  past : ∀ s ∈ w.closed, s.hide.boot ≤ seen
  durations : ∀ b i, booked b u.store.events i =
    w.closedWith (fun status => screenStatusToIndex status = some i) initial changes b
  shows : ∀ b, bookedShows b u.store.events = (w.closed.filter fun s => s.bundleName == b).length
  few : w.closed.length ≤ 2 ^ 31
  spent : (w.closed.length : Int) ≤ u.store.nextId
  span : (w.closed.map Session.time).sum ≤ seen + offset - from_
  idle : u.cacher.isKeyboardShowing = false → w.current = none ∧ rawRows u.store.events = []
  showing : u.cacher.isKeyboardShowing = true →
    ∃ since start statuses, OpenEntry from_ offset initial changes u w seen since start statuses

/-- The START row of the session that is open is found again: its id fits in an `int32_t`. -/
def Recorder.StartFits (u : Recorder) : Prop :=
  ∀ start ∈ Lib.findLast? (isRow u.cacher.currentImeBundle .inputStart) u.store.events,
    start.id < 2 ^ 31

instance (u : Recorder) : Decidable u.StartFits :=
  inferInstanceAs (Decidable
    (∀ start ∈ Lib.findLast? (isRow u.cacher.currentImeBundle .inputStart) u.store.events, _))

/-- The condition on a call: the START row of a session that it closes is found again. -/
def Call.StartFits (u : Recorder) : Call → Prop
  | .bind b _ _ _ => u.cacher.isKeyboardShowing = true → u.cacher.currentImeBundle ≠ b → u.StartFits
  | .unbind .. => u.cacher.isKeyboardShowing = true → u.StartFits
  | .screen .. => True

instance (u : Recorder) : (call : Call) → Decidable (call.StartFits u)
  | .bind .. => inferInstanceAs (Decidable (_ → _ → _))
  | .unbind .. => inferInstanceAs (Decidable (_ → _))
  | .screen .. => .isTrue trivial

theorem countRows_counts (b : String) (events : List EventRow) :
    countRows b (events.filter EventRow.isCount) = countRows b events := by
  rw [countRows, List.filter_filter]
  refine List.filter_congr fun row _ => ?_
  by_cases hit : isRow b .countDuration row = true
  · simp only [isRow, Bool.and_eq_true, beq_iff_eq] at hit
    simp [isRow, hit, EventRow.isCount]
  · simp [hit]

/-- What an open session lasts in a day fits in 32 bits. -/
theorem OpenEntry.small {from_ offset : Nat} {initial : Int} {changes : List (Nat × Int)}
    {u : Recorder} {w : Ledger}
    {seen : Nat} {since : Tick} {start : EventRow} {statuses : List EventRow}
    (entry : OpenEntry from_ offset initial changes u w seen since start statuses) {till : Nat}
    (later : seen ≤ till) (short : till + offset < from_ + 2 ^ 32) (i : Fin durationCount) :
    u.cacher.closeSegment till i < 2 ^ 32 := by
  have began := entry.began
  have most := Lib.timeWith_le
    (fun status => screenStatusToIndex status = some i) initial changes since.boot till
  rw [entry.tracks.closed till later i]
  omega

theorem Upserted.nextId_le {b : String} {dayStartTime : Nat} {count : EventRecord}
    {durations : DurationMap}
    {s s' : DataHelper} (upserted : Upserted b dayStartTime count durations s s') :
    s.nextId ≤ s'.nextId := by
  cases upserted with
  | existing => exact le_rfl
  | new => exact Int.le_add_of_nonneg_right Int.one_nonneg

namespace Journal

variable {from_ offset : Nat} {initial : Int} {changes : List (Nat × Int)} {u : Recorder}
  {w : Ledger} {seen clock : Nat}

/-- Time passes. -/
theorem advance (journal : Journal from_ offset initial changes u w seen clock) {later : Nat}
    (after : clock ≤ later) :
    Journal from_ offset initial changes u w seen later :=
  { journal with
    order := journal.order.trans after
    window := fun row member =>
      ⟨(journal.window row member).1,
        (journal.window row member).2.trans (Nat.add_le_add_right after offset)⟩ }

/-- The session that is open ends. -/
theorem close (journal : Journal from_ offset initial changes u w seen clock)
    (showing : u.cacher.isKeyboardShowing = true) (fits : u.StartFits) {hide settle : Tick}
    (first : seen ≤ hide.boot) (second : hide.boot ≤ settle.boot) (later : clock ≤ settle.boot)
    (wall : settle.wall = settle.boot + offset) (inside : from_ ≤ settle.wall) :
    Journal from_ offset initial changes
      { cacher := u.cacher.hidden hide, store := u.settled u.cacher.currentImeBundle hide settle {} }
      (w.close hide settle) hide.boot settle.boot := by
  obtain ⟨since, start, statuses, entry⟩ := journal.showing showing
  have small := fits start (entry.session.findLast? entry.raw)
  have below := journal.store.below start (mem_of_raw entry.raw)
  have upserted := entry.session.settled journal.store small entry.raw hide settle
  rw [EventCacher.closing_ready entry.tracks.ready] at upserted
  have idle := upserted.idle journal.store (fun row member => (journal.window row member).2) rfl
    (show clock + offset ≤ settle.wall by omega)
  have hidden : w.close hide settle =
      { current := none, closed := w.closed ++
        [⟨u.cacher.currentImeBundle, since, hide, settle⟩] } := by
    rw [Ledger.close, entry.current]
  have books := upserted.booked rfl rfl
  simp only [booked, bookedShows, countRows_counts] at books
  have span := entry.span
  have began := entry.began
  have spent := entry.spent
  have next := upserted.nextId_le
  rw [hidden]
  refine ⟨idle.wf, fun x after => journal.status x (first.trans after), second,
    fun row member => ?_, fun s member => ?_,
    fun b i => ?_, fun b => ?_, ?_, ?_, ?_, fun _ => ⟨rfl, idle.raw⟩, ?_⟩
  · rcases upserted.times row member with old | new
    · have window := journal.window row (List.mem_filter.1 old).1
      show _ ∧ row.happenTime ≤ settle.boot + offset
      omega
    · have time : row.happenTime = settle.wall := new
      show _ ∧ row.happenTime ≤ settle.boot + offset
      omega
  · rcases List.mem_append.1 member with old | new
    · exact (journal.past s old).trans first
    · rw [List.mem_singleton.1 new]
  · rw [Ledger.closedWith_close, ← journal.durations b i, booked, (books b).1, Pi.add_apply]
    congr 1
    split
    · exact entry.tracks.closed hide.boot first i
    · rfl
  · rw [bookedShows, (books b).2, List.filter_append, List.length_append, ← journal.shows b]
    by_cases same : b = u.cacher.currentImeBundle
    · simp [bookedShows, same]
    · simp [bookedShows, same, Ne.symm same]
  · rw [List.length_append, List.length_singleton]
    omega
  · rw [List.length_append, List.length_singleton]
    have kept : u.store.nextId ≤ (u.settled u.cacher.currentImeBundle hide settle {}).nextId := next
    show ((w.closed.length + 1 : Nat) : Int) ≤
      (u.settled u.cacher.currentImeBundle hide settle {}).nextId
    omega
  · have inside := entry.tracks.since_le
    simp only [List.map_append, List.map_singleton, List.sum_append, List.sum_singleton, Session.time]
    omega
  · rintro ⟨⟩

/-- A session begins. -/
theorem opened (journal : Journal from_ offset initial changes u w seen clock)
    (idle : u.cacher.isKeyboardShowing = false) (b : String) {start : Tick} (first : seen ≤ start.boot)
    (second : start.boot ≤ clock) (wall : start.wall = start.boot + offset)
    (inside : from_ ≤ start.wall) :
    Journal from_ offset initial changes
      { cacher := u.cacher.opened b start,
        store := (u.store.addEvent (u.cacher.startRecord b start) true).1 }
      { w with current := some (b, start) } start.boot clock := by
  have ready := journal.store.ready
  have raw : (u.cacher.startRecord b start).rawid ≠ .countDuration := by rintro ⟨⟩
  have empty : Idle u.store (clock + offset) :=
    ⟨journal.store, fun row member => (journal.window row member).2, (journal.idle idle).2⟩
  obtain ⟨-, rows, session⟩ := empty.opens u.cacher b start
  have status : ∀ x, start.boot ≤ x → latest initial changes x = u.cacher.getScreenStatus :=
    fun x after => journal.status x (first.trans after)
  have span : (w.closed.map Session.time).sum ≤ start.boot + offset - from_ :=
    journal.span.trans (Nat.sub_le_sub_right (Nat.add_le_add_right first offset) from_)
  refine ⟨journal.store.addEvent _ _, status, second, fun row member => ?_,
    fun s member => (journal.past s member).trans first,
      fun b' i => ?_, fun b' => ?_, journal.few, ?_, span, ?_,
    fun _ => ⟨start, _, [], rfl, .opened u.cacher b start status, rows, session,
      .opened u.cacher b wall _, ?_, span,
      journal.spent⟩⟩
  · rw [addEvent_written journal.store] at member
    rcases List.mem_append.1 member with old | new
    · exact journal.window row old
    · rw [List.mem_singleton.1 new]
      show from_ ≤ start.wall ∧ start.wall ≤ clock + offset
      omega
  · rw [booked, addEvent_countRows ready _ raw]
    exact journal.durations b' i
  · rw [bookedShows, addEvent_countRows ready _ raw]
    exact journal.shows b'
  · rw [addEvent_written journal.store]
    exact journal.spent.trans (Int.le_add_of_nonneg_right Int.one_nonneg)
  · rintro ⟨⟩
  · show from_ ≤ start.boot + offset
    omega

section Told

variable {now : Tick} (later : clock ≤ now.boot)

include later

theorem told_window (journal : Journal from_ offset initial changes u w seen clock) :
    ∀ row ∈ u.store.events, from_ ≤ row.happenTime ∧ row.happenTime ≤ now.boot + offset :=
  (journal.advance later).window

/-- What has ended is not touched by what is told now. -/
theorem told_durations (journal : Journal from_ offset initial changes u w seen clock)
    (new : Int) (b : String) (i : Fin durationCount) :
    booked b u.store.events i =
      w.closedWith (fun status => screenStatusToIndex status = some i) initial
        (changes ++ [(now.boot, new)]) b := by
  rw [Ledger.closedWith_append fun s member =>
    (journal.past s member).trans (journal.order.trans later)]
  exact journal.durations b i

theorem told_span (journal : Journal from_ offset initial changes u w seen clock) :
    (w.closed.map Session.time).sum ≤ now.boot + offset - from_ :=
  journal.span.trans (Nat.sub_le_sub_right
    (Nat.add_le_add_right (journal.order.trans later) offset) from_)

variable {new : Int}

/-- The status is the one of the segment, or nothing is shown. -/
theorem screen_skip (journal : Journal from_ offset initial changes u w seen clock) (pre : Int)
    (told : ∀ x, now.boot ≤ x → latest initial (changes ++ [(now.boot, new)]) x =
      (u.cacher.decoded new).getScreenStatus)
    (skip : u.cacher.isKeyboardShowing = false ∨ new = u.cacher.lastScreenStatus) :
    Journal from_ offset initial (changes ++ [(now.boot, new)])
      (u.onScreenStatusChanged pre new now true) w now.boot
      now.boot := by
  have first := journal.order.trans later
  have window := journal.told_window later
  have durations := journal.told_durations later new
  rw [Recorder.onScreenStatusChanged_skip skip]
  refine ⟨journal.store, told, le_rfl, window,
    fun s member => (journal.past s member).trans first, durations,
    journal.shows, journal.few, journal.spent, journal.told_span later, journal.idle, fun showing => ?_⟩
  obtain ⟨since, start, statuses, entry⟩ := journal.showing showing
  have same := skip.resolve_left fun idle => absurd (showing.symm.trans idle) (by decide)
  exact ⟨since, start, statuses, entry.current, entry.tracks.repeated same first, entry.raw,
    entry.session.congr rfl rfl rfl, entry.segmented.repeated new, entry.began, entry.span, entry.spent⟩

/-- The session goes on with another status, and a row is written. -/
theorem screen_change (journal : Journal from_ offset initial changes u w seen clock) (pre : Int)
    (told : ∀ x, now.boot ≤ x → latest initial (changes ++ [(now.boot, new)]) x =
      (u.cacher.decoded new).getScreenStatus)
    (showing : ¬ u.cacher.isKeyboardShowing = false) (changed : ¬ new = u.cacher.lastScreenStatus)
    (wall : now.wall = now.boot + offset) (inside : from_ ≤ now.wall)
    (short : now.wall < from_ + 2 ^ 32) :
    Journal from_ offset initial (changes ++ [(now.boot, new)])
      (u.onScreenStatusChanged pre new now true) w now.boot
      now.boot := by
  have first := journal.order.trans later
  have showing : u.cacher.isKeyboardShowing = true := by simpa using showing
  have ready := journal.store.ready
  have raw : (u.cacher.statusRecord pre new now).rawid ≠ .countDuration := by rintro ⟨⟩
  rw [Recorder.onScreenStatusChanged_change showing changed]
  obtain ⟨since, start, statuses, entry⟩ := journal.showing showing
  obtain ⟨-, rows, session⟩ := entry.session.turns journal.store entry.raw pre new now
  have began := entry.began
  have within := entry.tracks.began
  have small := entry.small first (show now.boot + offset < from_ + 2 ^ 32 by omega)
  refine ⟨journal.store.addEvent _ _, told, le_rfl, fun row member => ?_,
    fun s member => (journal.past s member).trans first, fun b i => ?_, fun b => ?_, journal.few, ?_,
    journal.told_span later, fun idle => ?_,
    fun _ => ⟨since, start, _, entry.current, entry.tracks.turned new first, rows, session, ?_,
      entry.began, entry.span,
      entry.spent⟩⟩
  · rw [addEvent_written journal.store] at member
    rcases List.mem_append.1 member with old | added
    · exact journal.told_window later row old
    · rw [List.mem_singleton.1 added]
      show from_ ≤ now.wall ∧ now.wall ≤ now.boot + offset
      omega
  · rw [booked, addEvent_countRows ready _ raw]
    exact journal.told_durations later new b i
  · rw [bookedShows, addEvent_countRows ready _ raw]
    exact journal.shows b
  · rw [addEvent_written journal.store]
    exact journal.spent.trans (Int.le_add_of_nonneg_right Int.one_nonneg)
  · exact absurd (showing.symm.trans idle) (by decide)
  · exact entry.segmented.turned entry.tracks.ready pre new wall (by omega) small _

/-- A status is told. -/
theorem screen (journal : Journal from_ offset initial changes u w seen clock) (pre : Int)
    (valid : ValidStatus new) (wall : now.wall = now.boot + offset) (inside : from_ ≤ now.wall)
    (short : now.wall < from_ + 2 ^ 32) :
    Journal from_ offset initial (changes ++ [(now.boot, new)])
      (u.onScreenStatusChanged pre new now true) w now.boot
      now.boot := by
  have told : ∀ x, now.boot ≤ x →
      latest initial (changes ++ [(now.boot, new)]) x = (u.cacher.decoded new).getScreenStatus := by
    intro x after
    rw [latest_append, if_pos after, u.cacher.getScreenStatus_decoded valid]
  by_cases skip : u.cacher.isKeyboardShowing = false ∨ new = u.cacher.lastScreenStatus
  · exact journal.screen_skip later pre told skip
  · obtain ⟨showing, changed⟩ := not_or.1 skip
    exact journal.screen_change later pre told showing changed wall inside short

end Told

/-- Who is current. -/
theorem is_current (journal : Journal from_ offset initial changes u w seen clock) (b : String) :
    w.current.map Prod.fst = some b ↔ u.cacher.isKeyboardShowing = true ∧
      u.cacher.currentImeBundle = b := by
  cases showing : u.cacher.isKeyboardShowing with
  | false => simp [journal.idle showing]
  | true =>
      obtain ⟨since, start, statuses, entry⟩ := journal.showing showing
      simp [entry.current]

end Journal

/-- A reading on the day from `from_` on, where the wall clock is `offset` ahead of the boot clock. -/
def Tick.OfDay (from_ offset : Nat) (t : Tick) : Prop := t.wall = t.boot + offset ∧ from_ ≤ t.wall

instance (from_ offset : Nat) (t : Tick) : Decidable (t.OfDay from_ offset) :=
  inferInstanceAs (Decidable (_ ∧ _))

/-- The calls that the log of a day is made of: all writes succeed, an unbind names the IME that is
showing, and a status that is told has a bucket. -/
def Call.Logged (u : Recorder) (call : Call) : Prop :=
  call.Written ∧ call.Current u ∧
    match call with
    | .bind .. => True
    | .unbind .. => True
    | .screen _ new _ _ => ValidStatus new

instance (u : Recorder) (call : Call) : Decidable (call.Logged u) :=
  match call with
  | .bind .. => inferInstanceAs (Decidable (_ ∧ _ ∧ True))
  | .unbind .. => inferInstanceAs (Decidable (_ ∧ _ ∧ True))
  | .screen _ new _ _ => inferInstanceAs (Decidable (_ ∧ _ ∧ ValidStatus new))

namespace Journal

variable {from_ offset : Nat} {initial : Int} {changes : List (Nat × Int)} {u : Recorder}
  {w : Ledger} {seen clock : Nat}

theorem bind (journal : Journal from_ offset initial changes u w seen clock) {b : String}
    {ticks : BindTicks} (fits : Call.StartFits u (.bind b ticks {} true))
    (clocks : ∀ t ∈ Call.ticks (.bind b ticks {} true), t.OfDay from_ offset) {rest : List Nat}
    (ticking : (clock :: ([ticks.hide.boot, ticks.start.boot, ticks.settle.boot] ++ rest)).Pairwise
      (· ≤ ·)) :
    ∃ seen' clock', Journal from_ offset initial changes (u.onImeBind b ticks {} true)
      (w.call (.bind b ticks {} true)) seen'
        clock' ∧ (clock' :: rest).Pairwise (· ≤ ·) := by
  have skip := Lib.pairwise_skip ticking
  simp only [List.cons_append, List.nil_append, List.pairwise_cons] at ticking
  have hide := ticking.1 ticks.hide.boot (by simp)
  have settle := ticking.1 ticks.settle.boot (by simp)
  have hidden := ticking.2.1 ticks.start.boot (by simp)
  have hidden' := ticking.2.1 ticks.settle.boot (by simp)
  have started := ticking.2.2.1 ticks.settle.boot (by simp)
  obtain ⟨startWall, startInside⟩ := clocks ticks.start (by simp [Call.ticks])
  obtain ⟨settleWall, settleInside⟩ := clocks ticks.settle (by simp [Call.ticks])
  have order := journal.order
  by_cases showing : u.cacher.isKeyboardShowing = true
  · by_cases same : u.cacher.currentImeBundle = b
    · rw [Recorder.onImeBind_same showing same, Ledger.call,
        if_pos ((journal.is_current b).2 ⟨showing, same⟩)]
      exact ⟨seen, clock, journal, skip⟩
    · rw [Recorder.onImeBind_switch showing same, Ledger.call,
        if_neg fun current => same ((journal.is_current b).1 current).2]
      have closed := journal.close showing (fits showing same)
        (order.trans hide) hidden' settle settleWall settleInside
      exact ⟨ticks.start.boot, ticks.settle.boot,
        closed.opened rfl b hidden started startWall startInside,
        List.pairwise_cons.2 ticking.2.2.2⟩
  · have idle : u.cacher.isKeyboardShowing = false := by simpa using showing
    have left : w.close ticks.hide ticks.settle = w := by simp [Ledger.close, journal.idle idle]
    rw [Recorder.onImeBind_idle idle, Ledger.call,
      if_neg fun current => showing ((journal.is_current b).1 current).1, left]
    exact ⟨ticks.start.boot, ticks.settle.boot,
      (journal.advance settle).opened idle b
        (order.trans (hide.trans hidden)) started startWall startInside,
      List.pairwise_cons.2 ticking.2.2.2⟩

theorem unbind (journal : Journal from_ offset initial changes u w seen clock) {b : String}
    {ticks : UnbindTicks}
    (current : Call.Current u (.unbind b ticks {})) (fits : Call.StartFits u (.unbind b ticks {}))
    (clocks : ∀ t ∈ Call.ticks (.unbind b ticks {}), t.OfDay from_ offset) {rest : List Nat}
    (ticking : (clock :: ([ticks.hide.boot, ticks.settle.boot] ++ rest)).Pairwise (· ≤ ·)) :
    ∃ seen' clock', Journal from_ offset initial changes (u.onImeUnbind b ticks {})
      (w.call (.unbind b ticks {})) seen'
        clock' ∧ (clock' :: rest).Pairwise (· ≤ ·) := by
  have skip := Lib.pairwise_skip ticking
  simp only [List.cons_append, List.nil_append, List.pairwise_cons] at ticking
  have hide := ticking.1 ticks.hide.boot (by simp)
  have settle := ticking.1 ticks.settle.boot (by simp)
  have hidden := ticking.2.1 ticks.settle.boot (by simp)
  obtain ⟨settleWall, settleInside⟩ := clocks ticks.settle (by simp [Call.ticks])
  by_cases showing : u.cacher.isKeyboardShowing = true
  · obtain rfl := current showing
    rw [Recorder.onImeUnbind_showing showing, Ledger.call,
      if_pos ((journal.is_current _).2 ⟨showing, rfl⟩)]
    exact ⟨ticks.hide.boot, ticks.settle.boot,
      journal.close showing (fits showing)
        (journal.order.trans hide) hidden settle settleWall settleInside,
      List.pairwise_cons.2 ticking.2.2⟩
  · rw [Recorder.onImeUnbind_idle (by simpa using showing), Ledger.call,
      if_neg fun current => showing ((journal.is_current b).1 current).1]
    exact ⟨seen, clock, journal, skip⟩

/-- One call, in a day that is shorter than 2^32 ms. -/
theorem step (journal : Journal from_ offset initial changes u w seen clock) {call : Call}
    (logged : call.Logged u)
    (fits : call.StartFits u) (clocks : ∀ t ∈ call.ticks, t.OfDay from_ offset)
    {rest : List Nat} {till : Nat}
    (ticking : (clock :: (call.boots ++ (rest ++ [till]))).Pairwise (· ≤ ·))
    (short : till + offset < from_ + 2 ^ 32) :
    ∃ seen' clock', Journal from_ offset initial (changes ++ call.told) (u.step call)
      (w.call call) seen' clock' ∧
      (clock' :: (rest ++ [till])).Pairwise (· ≤ ·) := by
  obtain ⟨written, current, valid⟩ := logged
  cases call with
  | bind b ticks settled started =>
      obtain ⟨rfl, rfl⟩ := written
      rw [Call.told, List.append_nil]
      exact journal.bind fits clocks ticking
  | unbind b ticks settled =>
      obtain rfl := written
      rw [Call.told, List.append_nil]
      exact journal.unbind current fits clocks ticking
  | screen pre new now written' =>
      obtain rfl : written' = true := written
      obtain ⟨wall, inside⟩ := clocks now (by simp [Call.ticks])
      obtain ⟨later, ticking'⟩ := List.pairwise_cons.1 ticking
      have before : now.boot ≤ till := (List.pairwise_cons.1 ticking').1 till (by simp)
      exact ⟨now.boot, now.boot,
        journal.screen (later now.boot (by simp [Call.boots])) pre valid wall inside (by omega),
        ticking'⟩

/-- A run of calls. -/
theorem run (journal : Journal from_ offset initial changes u w seen clock) {calls : List Call}
    (logged : Lib.Meets Recorder.step (fun u call => call.Logged u) u calls)
    (fits : Lib.Meets Recorder.step (fun u call => call.StartFits u) u calls)
    (clocks : ∀ call ∈ calls, ∀ t ∈ call.ticks, t.OfDay from_ offset) {till : Nat}
    (ticking : (clock :: (calls.flatMap Call.boots ++ [till])).Pairwise (· ≤ ·))
    (short : till + offset < from_ + 2 ^ 32) :
    ∃ seen' clock', Journal from_ offset initial (changes ++ calls.flatMap Call.told)
      (Lib.run Recorder.step u calls)
        (Lib.run Ledger.call w calls) seen' clock' ∧ clock' ≤ till := by
  induction calls generalizing u w changes seen clock with
  | nil =>
      refine ⟨seen, clock, ?_, (List.pairwise_cons.1 ticking).1 till (by simp)⟩
      rw [List.flatMap_nil, List.append_nil]
      exact journal
  | cons call calls ih =>
      rw [List.flatMap_cons, List.append_assoc] at ticking
      obtain ⟨seen₁, clock₁, next, ticking'⟩ :=
        journal.step logged.1 fits.1 (clocks call (by simp)) ticking short
      obtain ⟨seen₂, clock₂, reached, before⟩ := ih next logged.2 fits.2
        (fun call member => clocks call (by simp [member])) ticking'
      refine ⟨seen₂, clock₂, ?_, before⟩
      rw [List.append_assoc] at reached
      exact reached

/-- A day begins with an empty store. -/
theorem empty {u : Recorder} (ready : u.store.ready = true) (none : u.store.events = [])
    (next : 0 ≤ u.store.nextId) (idle : u.cacher.isKeyboardShowing = false) (from_ offset : Nat) :
    Journal from_ offset u.cacher.getScreenStatus [] u {} 0 0 := by
  refine ⟨⟨ready, ?_, ?_, next⟩,
    fun _ _ => rfl, le_rfl, ?_, ?_, fun b i => ?_, fun b => ?_, ?_, next, Nat.zero_le _,
    fun _ => ⟨rfl, ?_⟩, fun showing => absurd (showing.symm.trans idle) (by decide)⟩
  all_goals simp [none, booked, bookedShows, countRows, rawRows, Ledger.closedWith]

end Journal

end Imf.Usage
