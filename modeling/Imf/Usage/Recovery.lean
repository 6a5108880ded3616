/-
# Imf.Usage.Recovery -- the open session, found again after a restart

`RecoverActiveSession` looks at the last row of the store alone.  That this row determines
the session rests on what sequential calls leave in the store (`Tracked.Recoverable`): the
raw rows are those of the open session, they come after everything that is booked, and the
last of them carries the recorded status and the start of the running segment.

`recovery_finds_session`: over calls, cleanups that spare the open session, and earlier
restarts, a recovered cacher agrees with the one it replaces, and the next unbind settles
exactly the rows of the session.

The store is reloaded from what was written; all writes succeed here, so that it is the
store in memory.
-/
import Imf.Usage.Daily

namespace Imf.Usage

set_option autoImplicit false

open DataHelper

/-! ## Recovery -/

/-- `RecoverActiveSession`, at the wall clock `wall`. -/
def EventCacher.recoverActiveSession (c : EventCacher) (s : DataHelper) (wall : Nat) : EventCacher :=
  let lastEvent := s.queryFinalEventInfo wall
  if lastEvent.rawId = .inputStart ∨ lastEvent.rawId = .inputStatusChanged then
    { c.decoded lastEvent.screenStatusAfter with
      isKeyboardShowing := true
      currentImeBundle := lastEvent.package
      lastScreenStatus := lastEvent.screenStatusAfter
      segmentStartBootTime := lastEvent.ts
      segmentScreenStatus := lastEvent.screenStatusAfter
      sessionDurations := 0
      isSessionDurationsReady := false }
  else
    { c with
      isKeyboardShowing := false
      currentImeBundle := ""
      sessionDurations := 0
      isSessionDurationsReady := false }

/-! ## The system -/

/-- A call, a cleanup of old rows, or a restart: a new cacher, in whatever state it is made,
recovers the session. -/
inductive ServiceStep where
  | call (made : Call)
  | cleanup (clearDataTime : Nat) (written : Bool)
  | restart (cacher : EventCacher) (wall : Nat)
  deriving DecidableEq

/-- The recorder, the rows that were written for the open session, and the wall clock. -/
structure Tracked where
  recorder : Recorder := {}
  rows : List EventRow := []
  clock : Nat := 0
  deriving DecidableEq

namespace Tracked

abbrev cacher (t : Tracked) : EventCacher := t.recorder.cacher
abbrev store (t : Tracked) : DataHelper := t.recorder.store

/-- The rows of the open session after a call: a session that opens has the row that the
call writes last, a status change adds one, and a session that ends has none. -/
def rowsAfter (t : Tracked) : Call → List EventRow
  | .bind b ticks settled started =>
      if t.cacher.isKeyboardShowing = true ∧ t.cacher.currentImeBundle = b then t.rows
      else (t.recorder.step (.bind b ticks settled started)).store.events.getLast?.toList
  | .unbind _ _ _ => []
  | .screen pre new now written =>
      if t.cacher.isKeyboardShowing = false ∨ new = t.cacher.lastScreenStatus then t.rows
      else t.rows ++ (t.recorder.step (.screen pre new now written)).store.events.getLast?.toList

def step (t : Tracked) : ServiceStep → Tracked
  | .call made =>
      { recorder := t.recorder.step made
        rows := t.rowsAfter made
        clock := (made.ticks.map Tick.wall).getLastD t.clock }
  | .cleanup clearDataTime written =>
      { t with
        recorder := { t.recorder with
          store := (t.store.deleteEventsByTime clearDataTime written).1 } }
  | .restart cacher wall =>
      { t with
        recorder := { t.recorder with cacher := cacher.recoverActiveSession t.store wall }
        clock := wall }

end Tracked

/-- The calls are complete and name the current IME, the wall clock does not go back, ids
stay below 2^31 and the cleanup spares the open session. -/
def ServiceStep.Allowed (t : Tracked) (e : ServiceStep) : Prop :=
  (∀ row ∈ (t.step e).store.events, row.id < 2 ^ 31) ∧
    match e with
    | .call made => made.Written ∧ made.Current t.recorder ∧
        (t.clock :: made.ticks.map Tick.wall).Pairwise (· ≤ ·)
    | .cleanup clearDataTime _ => ∀ row ∈ t.rows, clearDataTime ≤ row.happenTime
    | .restart _ wall => t.clock ≤ wall

/-! ## The open session in the store -/

/-- What the store holds for the open session of a cacher. -/
structure OpenRows (c : EventCacher) (s : DataHelper) (start : EventRow) (changes : List EventRow) :
    Prop where
  started : start.rawid = .inputStart
  changed : ∀ row ∈ changes, row.rawid = .inputStatusChanged ∧ start.id ≤ row.id
  bundle : ∀ row ∈ start :: changes, row.bundleName = c.currentImeBundle
  older : ∀ row ∈ s.events, row.isCount = true → row.id < start.id
  last : ∃ before last, s.events = before ++ [last] ∧ last ∈ start :: changes ∧
    last.screenStatus = c.lastScreenStatus ∧ last.ts = c.segmentStartBootTime

/-- A store without an open session. -/
structure Idle (s : DataHelper) (clock : Nat) : Prop where
  wf : WellFormed s
  past : ∀ row ∈ s.events, row.happenTime ≤ clock
  raw : rawRows s.events = []

/-- **The raw rows are those of the open session.** -/
structure Tracked.Recoverable (t : Tracked) : Prop where
  wf : WellFormed t.store
  past : ∀ row ∈ t.store.events, row.happenTime ≤ t.clock
  small : ∀ row ∈ t.store.events, row.id < 2 ^ 31
  raw : rawRows t.store.events = t.rows
  idle : t.cacher.isKeyboardShowing = false → t.rows = []
  showing : t.cacher.isKeyboardShowing = true →
    ∃ start changes, t.rows = start :: changes ∧ OpenRows t.cacher t.store start changes

section Settle

variable {c : EventCacher} {s : DataHelper} {start : EventRow} {changes : List EventRow}

theorem mem_of_raw (raw : rawRows s.events = start :: changes) : start ∈ s.events := by
  have here : start ∈ rawRows s.events := by simp [raw]
  exact (List.mem_filter.1 here).1

/-- The START row of the session is the last one of its bundle. -/
theorem OpenRows.findLast? (session : OpenRows c s start changes)
    (raw : rawRows s.events = start :: changes) :
    Lib.findLast? (isRow c.currentImeBundle .inputStart) s.events = some start := by
  have wanted : ∀ row : EventRow, isRow c.currentImeBundle .inputStart row = true →
      (!row.isCount) = true := by
    intro row hit
    simp only [isRow, Bool.and_eq_true, beq_iff_eq] at hit
    simp [EventRow.isCount, hit.2]
  have hit : isRow c.currentImeBundle .inputStart start = true := by
    simp [isRow, session.started, session.bundle start (by simp)]
  have misses : ∀ row ∈ changes, isRow c.currentImeBundle .inputStart row = false := by
    intro row member
    simp [isRow, (session.changed row member).1]
  rw [← Lib.findLast?_filter wanted]
  show Lib.findLast? _ (rawRows s.events) = _
  rw [raw]
  exact Lib.findLast?_split [] hit misses

theorem OpenRows.getStartIndex (session : OpenRows c s start changes) (wf : WellFormed s)
    (small : start.id < 2 ^ 31) (raw : rawRows s.events = start :: changes) :
    getStartIndex s c.currentImeBundle = start.id := by
  have low := wf.nonneg start (mem_of_raw raw)
  simp only [Usage.getStartIndex, queryRawEventIndex, wf.ready, Bool.true_eq_false, if_false,
    session.findLast? raw]
  exact toInt32_eq (by omega) small

/-- Deleting from the START row on deletes the session. -/
theorem OpenRows.eraseFrom (session : OpenRows c s start changes)
    (raw : rawRows s.events = start :: changes) :
    s.eraseFrom c.currentImeBundle start.id =
      { s with events := s.events.filter EventRow.isCount } := by
  unfold DataHelper.eraseFrom
  congr 1
  apply List.filter_congr
  intro row member
  by_cases count : row.isCount = true
  · have older := session.older row member count
    simp [isFrom, count, older]
  · have mine : row ∈ start :: changes := by
      rw [← raw]
      exact List.mem_filter.2 ⟨member, by simpa using count⟩
    have late : start.id ≤ row.id := by
      rcases List.mem_cons.1 mine with rfl | later
      · exact le_rfl
      · exact (session.changed row later).2
    simp [isFrom, count, session.bundle row mine, late]

/-- **Closing the session settles its rows and no others.** -/
theorem OpenRows.settled {u : Recorder} (session : OpenRows u.cacher u.store start changes)
    (wf : WellFormed u.store) (small : start.id < 2 ^ 31)
    (raw : rawRows u.store.events = start :: changes) (hide settle : Tick) :
    Upserted u.cacher.currentImeBundle settle.today0
      (countRecord (u.cacher.stopRecord u.cacher.currentImeBundle hide) settle)
      ((u.cacher.hidden hide).closingDurations u.store
        (u.cacher.stopRecord u.cacher.currentImeBundle hide) hide).1
      { u.store with events := u.store.events.filter EventRow.isCount }
      (u.settled u.cacher.currentImeBundle hide settle {}) := by
  have index := session.getStartIndex wf small raw
  have nonneg := wf.nonneg start (mem_of_raw raw)
  have settled := settleSession_written wf.ready
    (u.cacher.stopRecord u.cacher.currentImeBundle hide)
    ((u.cacher.hidden hide).closingDurations u.store
      (u.cacher.stopRecord u.cacher.currentImeBundle hide) hide).1 start.id settle
  rw [if_pos nonneg] at settled
  rw [← session.eraseFrom raw, Recorder.settled, index]
  exact settled

/-- What is left of the session is its booking. -/
theorem Upserted.idle {b : String} {today0 clock : Nat} {count : EventRecord} {durations : DurationMap}
    {s' : DataHelper} (wf : WellFormed s) (past : ∀ row ∈ s.events, row.happenTime ≤ clock)
    (upserted : Upserted b today0 count durations
      { s with events := s.events.filter EventRow.isCount } s')
    (kind : count.rawid = .countDuration) (later : clock ≤ count.happenTime) :
    Idle s' count.happenTime := by
  have wfCounts : WellFormed { s with events := s.events.filter EventRow.isCount } :=
    ⟨wf.ready, fun row member => wf.nonneg row (List.mem_filter.1 member).1,
      fun row member => wf.below row (List.mem_filter.1 member).1, wf.next⟩
  refine ⟨upserted.wellFormed wfCounts, fun row member => ?_, ?_⟩
  · rcases upserted.times row member with old | new
    · exact (past row (List.mem_filter.1 old).1).trans later
    · exact new.le
  · rw [upserted.rawRows kind, Usage.rawRows, List.filter_filter]
    simp

theorem addEvent_written (wf : WellFormed s) (record : EventRecord) :
    (s.addEvent record true).1 =
      { s with events := s.events ++ [makeRow s.nextId record 0], nextId := s.nextId + 1 } := by
  simp [addEvent, wf.ready]

/-- A session that opens in an idle store. -/
theorem Idle.opens {clock : Nat} (idle : Idle s clock) (c : EventCacher) (b : String) (now : Tick) :
    let s' := (s.addEvent (c.startRecord b now) true).1
    let row := makeRow s.nextId (c.startRecord b now) 0
    s'.events.getLast? = some row ∧ rawRows s'.events = [row] ∧
      OpenRows (c.opened b now) s' row [] := by
  intro s' row
  have counts : ∀ r ∈ s.events, r.isCount = true := by
    intro r member
    by_contra raw
    have here : r ∈ rawRows s.events := List.mem_filter.2 ⟨member, by simpa using raw⟩
    rw [idle.raw] at here
    cases here
  have events : s'.events = s.events ++ [row] := by
    simp only [s', addEvent_written idle.wf]
    rfl
  refine ⟨by simp [events], ?_, ?_⟩
  · have old : rawRows s.events = [] := idle.raw
    rw [events, rawRows, List.filter_append]
    show rawRows s.events ++ _ = _
    rw [old]
    simp [row, makeRow, EventCacher.startRecord, EventRow.isCount]
  · refine ⟨rfl, by simp, ?_, fun r member count => ?_, s.events, row, events, by simp, rfl, rfl⟩
    · intro r member
      rw [List.mem_singleton.1 member]
      rfl
    · rw [events] at member
      rcases List.mem_append.1 member with old | new
      · exact idle.wf.below r old
      · rw [List.mem_singleton.1 new] at count
        cases count

/-- A status change of an open session. -/
theorem OpenRows.turns (session : OpenRows c s start changes) (wf : WellFormed s)
    (raw : rawRows s.events = start :: changes) (pre new : Int) (now : Tick) :
    let s' := (s.addEvent (c.statusRecord pre new now) true).1
    let row := makeRow s.nextId (c.statusRecord pre new now) 0
    s'.events.getLast? = some row ∧ rawRows s'.events = start :: (changes ++ [row]) ∧
      OpenRows ((c.decoded new).turned new now) s' start (changes ++ [row]) := by
  intro s' row
  have events : s'.events = s.events ++ [row] := by
    simp only [s', addEvent_written wf]
    rfl
  have member := mem_of_raw raw
  refine ⟨by simp [events], ?_, session.started, fun r member => ?_, fun r member => ?_,
    fun r here count => ?_, s.events, row, events, by simp, rfl, rfl⟩
  · rw [events, rawRows, List.filter_append]
    show rawRows s.events ++ _ = _
    rw [raw]
    simp [row, makeRow, EventCacher.statusRecord, EventRow.isCount]
  · rcases List.mem_append.1 member with old | new
    · exact session.changed r old
    · rw [List.mem_singleton.1 new]
      exact ⟨rfl, (wf.below start ‹_›).le⟩
  · rcases List.mem_cons.1 member with rfl | later
    · exact session.bundle r (by simp)
    · rcases List.mem_append.1 later with old | new
      · exact session.bundle r (by simp [old])
      · rw [List.mem_singleton.1 new]
        rfl
  · rw [events] at here
    rcases List.mem_append.1 here with old | new
    · exact session.older r old count
    · rw [List.mem_singleton.1 new] at count
      cases count

theorem OpenRows.congr (session : OpenRows c s start changes) {c' : EventCacher}
    (bundle : c'.currentImeBundle = c.currentImeBundle)
    (status : c'.lastScreenStatus = c.lastScreenStatus)
    (segment : c'.segmentStartBootTime = c.segmentStartBootTime) :
    OpenRows c' s start changes := by
  refine ⟨session.started, session.changed, ?_, session.older, ?_⟩
  · rw [bundle]
    exact session.bundle
  · rw [status, segment]
    exact session.last

end Settle

/-! ## What recovery finds -/

section Recover

variable {t : Tracked}

/-- **A recovered cacher agrees with the one it replaces.** -/
theorem Tracked.Recoverable.recovers (good : t.Recoverable) (c : EventCacher) {wall : Nat}
    (later : t.clock ≤ wall) :
    let c' := c.recoverActiveSession t.store wall
    c'.isKeyboardShowing = t.cacher.isKeyboardShowing ∧
      (t.cacher.isKeyboardShowing = true →
        c'.currentImeBundle = t.cacher.currentImeBundle ∧
          c'.lastScreenStatus = t.cacher.lastScreenStatus ∧
          c'.segmentStartBootTime = t.cacher.segmentStartBootTime) := by
  intro c'
  have ready := good.wf.ready
  by_cases showing : t.cacher.isKeyboardShowing = true
  · obtain ⟨start, changes, -, session⟩ := good.showing showing
    obtain ⟨before, last, events, mine, status, segment⟩ := session.last
    have early : last.happenTime ≤ wall := (good.past last (by simp [events])).trans later
    have found : Lib.findLast? (fun row => decide (row.happenTime ≤ wall)) t.store.events =
      some last := by
      rw [events]
      exact Lib.findLast?_append_of_match before (by simpa using early)
    have kind : last.rawid = .inputStart ∨ last.rawid = .inputStatusChanged := by
      rcases List.mem_cons.1 mine with rfl | later
      · exact .inl session.started
      · exact .inr (session.changed last later).1
    have recovered : c' = { c.decoded last.screenStatus with
        isKeyboardShowing := true
        currentImeBundle := last.bundleName
        lastScreenStatus := last.screenStatus
        segmentStartBootTime := last.ts
        segmentScreenStatus := last.screenStatus
        sessionDurations := 0
        isSessionDurationsReady := false } := by
      simp only [c', EventCacher.recoverActiveSession, queryFinalEventInfo, ready, Bool.true_eq_false,
        if_false, found, kind, if_true]
    rw [recovered]
    exact ⟨showing.symm, fun _ => ⟨session.bundle last mine, status, segment⟩⟩
  · have idle : t.cacher.isKeyboardShowing = false := by simpa using showing
    have counts : ∀ row ∈ t.store.events, row.rawid = .countDuration := by
      intro row member
      by_contra raw
      have here : row ∈ rawRows t.store.events :=
        List.mem_filter.2 ⟨member, by simpa [EventRow.isCount] using raw⟩
      rw [good.raw, good.idle idle] at here
      cases here
    have kind : ¬ ((t.store.queryFinalEventInfo wall).rawId = .inputStart ∨
        (t.store.queryFinalEventInfo wall).rawId = .inputStatusChanged) := by
      simp only [queryFinalEventInfo, ready, Bool.true_eq_false, if_false]
      split
      · decide
      · rename_i row found
        have count := counts row (Lib.findLast?_eq_some found).1
        simp [count]
    refine ⟨?_, fun up => absurd up showing⟩
    simp only [c', EventCacher.recoverActiveSession, if_neg kind]
    exact idle.symm

/-! ## Steps -/

/-- A session that opens in an idle store is recoverable. -/
theorem Idle.recoverable {s : DataHelper} {clock : Nat} (idle : Idle s clock) (c : EventCacher)
    (b : String) {now : Tick} {clock' : Nat} (bound : clock ≤ clock') (early : now.wall ≤ clock')
    (small : ∀ row ∈ (s.addEvent (c.startRecord b now) true).1.events, row.id < 2 ^ 31) :
    Tracked.Recoverable
      { recorder := { cacher := c.opened b now, store := (s.addEvent (c.startRecord b now) true).1 }
        rows := (s.addEvent (c.startRecord b now) true).1.events.getLast?.toList
        clock := clock' } := by
  obtain ⟨last, raw, session⟩ := idle.opens c b now
  refine ⟨idle.wf.addEvent _ _, fun row member => ?_, small, ?_, ?_, fun _ => ?_⟩
  · simp only [addEvent_written idle.wf] at member
    rcases List.mem_append.1 member with old | new
    · exact (idle.past row old).trans bound
    · rw [List.mem_singleton.1 new]
      exact early
  · rw [last]
    exact raw
  · rintro ⟨⟩
  · refine ⟨_, [], ?_, session⟩
    rw [last]
    rfl

theorem Tracked.Recoverable.toIdle (good : t.Recoverable)
    (idle : t.cacher.isKeyboardShowing = false) : Idle t.store t.clock :=
  ⟨good.wf, good.past, good.raw.trans (good.idle idle)⟩

/-- Closing the open session leaves an idle store. -/
theorem Tracked.Recoverable.settled (good : t.Recoverable)
    (showing : t.cacher.isKeyboardShowing = true) (hide : Tick) {settle : Tick}
    (later : t.clock ≤ settle.wall) :
    Idle (t.recorder.settled t.cacher.currentImeBundle hide settle {}) settle.wall := by
  obtain ⟨start, changes, rows, session⟩ := good.showing showing
  have raw := good.raw.trans rows
  have upserted := session.settled good.wf (good.small start (mem_of_raw raw)) raw hide settle
  exact upserted.idle good.wf good.past rfl later

theorem Tracked.Recoverable.bind (good : t.Recoverable) {b : String} {ticks : BindTicks}
    (allowed : ServiceStep.Allowed t (.call (.bind b ticks {} true))) :
    (t.step (.call (.bind b ticks {} true))).Recoverable := by
  obtain ⟨small, -, -, clock⟩ := allowed
  have settleWall : t.clock ≤ ticks.settle.wall :=
    (List.pairwise_cons.1 clock).1 _ (by simp [Call.ticks])
  have startWall : ticks.start.wall ≤ ticks.settle.wall := by
    have ordered := (List.pairwise_cons.1 clock).2
    simp only [Call.ticks, List.map_cons, List.map_nil, List.pairwise_cons] at ordered
    exact ordered.2.1 _ (by simp)
  by_cases showing : t.cacher.isKeyboardShowing = true
  · by_cases same : t.cacher.currentImeBundle = b
    · have unchanged : t.step (.call (.bind b ticks {} true)) =
        { t with clock := ticks.settle.wall } := by
        simp only [Tracked.step, Recorder.step, Recorder.onImeBind_same showing same, Tracked.rowsAfter,
          showing, same, and_self, if_true]
        rfl
      rw [unchanged]
      exact ⟨good.wf, fun row member => (good.past row member).trans settleWall, good.small, good.raw,
        good.idle, good.showing⟩
    · have switched := Recorder.onImeBind_switch showing same ticks {} true
      have idle := good.settled showing ticks.hide settleWall
      have stepped : t.step (.call (.bind b ticks {} true)) =
          { recorder := t.recorder.onImeBind b ticks {} true
            rows := (t.recorder.onImeBind b ticks {} true).store.events.getLast?.toList
            clock := ticks.settle.wall } := by
        simp only [Tracked.step, Tracked.rowsAfter, same, and_false, if_false]
        rfl
      rw [stepped, switched] at small ⊢
      exact idle.recoverable _ b le_rfl startWall small
  · have hidden : t.cacher.isKeyboardShowing = false := by simpa using showing
    have opened := Recorder.onImeBind_idle hidden b ticks {} true
    have stepped : t.step (.call (.bind b ticks {} true)) =
        { recorder := t.recorder.onImeBind b ticks {} true
          rows := (t.recorder.onImeBind b ticks {} true).store.events.getLast?.toList
          clock := ticks.settle.wall } := by
      simp only [Tracked.step, Tracked.rowsAfter, hidden, Bool.false_eq_true, false_and, if_false]
      rfl
    rw [stepped, opened] at small ⊢
    exact (good.toIdle hidden).recoverable _ b settleWall startWall small

theorem Tracked.Recoverable.unbind (good : t.Recoverable) {b : String} {ticks : UnbindTicks}
    (allowed : ServiceStep.Allowed t (.call (.unbind b ticks {}))) :
    (t.step (.call (.unbind b ticks {}))).Recoverable := by
  obtain ⟨small, -, current, clock⟩ := allowed
  have settleWall : t.clock ≤ ticks.settle.wall :=
    (List.pairwise_cons.1 clock).1 _ (by simp [Call.ticks])
  by_cases showing : t.cacher.isKeyboardShowing = true
  · obtain rfl := current showing
    have closed := Recorder.onImeUnbind_showing showing t.cacher.currentImeBundle ticks {}
    have idle := good.settled showing ticks.hide settleWall
    have stepped : t.step (.call (.unbind t.cacher.currentImeBundle ticks {})) =
        { recorder := t.recorder.onImeUnbind t.cacher.currentImeBundle ticks {}
          rows := []
          clock := ticks.settle.wall } := rfl
    rw [stepped, closed] at small ⊢
    refine ⟨idle.wf, idle.past, small, idle.raw, fun _ => rfl, ?_⟩
    rintro ⟨⟩
  · have hidden : t.cacher.isKeyboardShowing = false := by simpa using showing
    have none := good.idle hidden
    have unchanged : t.step (.call (.unbind b ticks {})) = { t with clock := ticks.settle.wall } := by
      simp only [Tracked.step, Recorder.step, Recorder.onImeUnbind_idle hidden, Tracked.rowsAfter,
        none]
      rfl
    rw [unchanged]
    exact ⟨good.wf, fun row member => (good.past row member).trans settleWall, good.small, good.raw,
      good.idle, good.showing⟩

theorem Tracked.Recoverable.screen (good : t.Recoverable) {pre new : Int} {now : Tick}
    (allowed : ServiceStep.Allowed t (.call (.screen pre new now true))) :
    (t.step (.call (.screen pre new now true))).Recoverable := by
  obtain ⟨small, -, -, clock⟩ := allowed
  have wall : t.clock ≤ now.wall := (List.pairwise_cons.1 clock).1 _ (by simp [Call.ticks])
  by_cases skip : t.cacher.isKeyboardShowing = false ∨ new = t.cacher.lastScreenStatus
  · have unchanged : t.step (.call (.screen pre new now true)) =
        { t with
          recorder := { t.recorder with cacher := t.cacher.decoded new }
          clock := now.wall } := by
      simp only [Tracked.step, Recorder.step, Recorder.onScreenStatusChanged_skip skip,
        Tracked.rowsAfter, skip, if_true]
      rfl
    rw [unchanged]
    refine ⟨good.wf, fun row member => (good.past row member).trans wall, good.small, good.raw,
      good.idle, fun showing => ?_⟩
    obtain ⟨start, changes, rows, session⟩ := good.showing showing
    exact ⟨start, changes, rows, session.congr rfl rfl rfl⟩
  · obtain ⟨notIdle, changed⟩ := not_or.1 skip
    have showing : t.cacher.isKeyboardShowing = true := by simpa using notIdle
    obtain ⟨start, changes, rows, session⟩ := good.showing showing
    have turned := Recorder.onScreenStatusChanged_change showing changed pre now true
    obtain ⟨last, raw, session'⟩ := session.turns good.wf (good.raw.trans rows) pre new now
    have stepped : t.step (.call (.screen pre new now true)) =
        { recorder := t.recorder.onScreenStatusChanged pre new now true
          rows := t.rows ++ (t.recorder.onScreenStatusChanged pre new now
            true).store.events.getLast?.toList
          clock := now.wall } := by
      simp only [Tracked.step, Tracked.rowsAfter, if_neg skip]
      rfl
    rw [stepped, turned] at small ⊢
    refine ⟨good.wf.addEvent _ _, fun row member => ?_, small, ?_, ?_, fun _ => ?_⟩
    · simp only [addEvent_written good.wf] at member
      rcases List.mem_append.1 member with old | new
      · exact (good.past row old).trans wall
      · rw [List.mem_singleton.1 new]
        exact le_rfl
    · rw [last, rows]
      exact raw
    · intro idle
      exact absurd idle notIdle
    · refine ⟨start, _, ?_, session'⟩
      rw [last, rows]
      rfl

/-- A cleanup that spares the rows of the open session. -/
theorem Tracked.Recoverable.cleanup (good : t.Recoverable) {clearDataTime : Nat} {written : Bool}
    (allowed : ServiceStep.Allowed t (.cleanup clearDataTime written)) :
    (t.step (.cleanup clearDataTime written)).Recoverable := by
  obtain ⟨small, spared⟩ := allowed
  have same : (t.store.deleteEventsByTime clearDataTime written).1 = t.store ∨
      (t.store.deleteEventsByTime clearDataTime written).1 =
        { t.store with
          events := t.store.events.filter fun row => !decide (row.happenTime < clearDataTime) } := by
    unfold deleteEventsByTime
    dsimp only
    split_ifs
    · exact .inl rfl
    · exact .inl rfl
    · exact .inr rfl
    · exact .inl rfl
  rcases same with same | same
  · have unchanged : t.step (.cleanup clearDataTime written) = t := by
      simp only [Tracked.step, same]
    rw [unchanged]
    exact good
  · have stepped : t.step (.cleanup clearDataTime written) =
        { t with
          recorder := { t.recorder with
            store := { t.store with
              events := t.store.events.filter fun row =>
                !decide (row.happenTime < clearDataTime) } } } := by
      simp only [Tracked.step, same]
    rw [stepped] at small ⊢
    have kept : ∀ row ∈ t.store.events.filter fun row => !decide (row.happenTime < clearDataTime),
        row ∈ t.store.events := fun row member => (List.mem_filter.1 member).1
    refine ⟨⟨good.wf.ready, fun row member => good.wf.nonneg row (kept row member),
      fun row member => good.wf.below row (kept row member), good.wf.next⟩,
      fun row member => good.past row (kept row member), small, ?_, good.idle, fun showing => ?_⟩
    · rw [← good.raw, rawRows, rawRows, List.filter_filter]
      apply List.filter_congr
      intro row member
      by_cases raw : (!row.isCount) = true
      · have mine : row ∈ t.rows := by
          rw [← good.raw]
          exact List.mem_filter.2 ⟨member, raw⟩
        have late := spared row mine
        simp [raw, late]
      · simp [raw]
    · obtain ⟨start, changes, rows, session⟩ := good.showing showing
      obtain ⟨before, last, events, mine, status, segment⟩ := session.last
      refine ⟨start, changes, rows, session.started, session.changed, session.bundle,
        fun row member => session.older row (kept row member), ?_⟩
      have late := spared last (by simpa [rows] using mine)
      refine ⟨before.filter fun row => !decide (row.happenTime < clearDataTime), last, ?_, mine,
        status, segment⟩
      simp [events, late]

theorem Tracked.Recoverable.restart (good : t.Recoverable) {c : EventCacher} {wall : Nat}
    (later : t.clock ≤ wall) : (t.step (.restart c wall)).Recoverable := by
  obtain ⟨showing, same⟩ := good.recovers c later
  refine ⟨good.wf, fun row member => (good.past row member).trans later, good.small, good.raw,
    fun idle => good.idle (showing.symm.trans idle), fun up => ?_⟩
  have up' := showing.symm.trans up
  obtain ⟨bundle, status, segment⟩ := same up'
  obtain ⟨start, changes, rows, session⟩ := good.showing up'
  exact ⟨start, changes, rows, session.congr bundle status segment⟩

theorem Tracked.Recoverable.step (good : t.Recoverable) {e : ServiceStep}
    (allowed : ServiceStep.Allowed t e) : (t.step e).Recoverable := by
  cases e with
  | call made =>
      have written := allowed.2.1
      cases made with
      | bind b ticks settled started =>
          obtain ⟨rfl, rfl⟩ := written
          exact good.bind allowed
      | unbind b ticks settled =>
          obtain rfl := written
          exact good.unbind allowed
      | screen pre new now stored =>
          obtain rfl := written
          exact good.screen allowed
  | cleanup clearDataTime written => exact good.cleanup allowed
  | restart c wall => exact good.restart allowed.2

theorem wellFormed_empty : WellFormed {} := ⟨rfl, by simp, by simp, by decide⟩

end Recover

/-- **A restart finds the open session.**  Whatever calls, cleanups and restarts came
before, a new cacher that recovers from the store shows what the old one showed, with its
bundle, its status and the start of its segment; unbinding it removes the rows of the
session, books it once, and touches nothing else. -/
theorem recovery_finds_session (foldStatus vhMode : Int) (steps : List ServiceStep)
    (allowed : Lib.Meets Tracked.step (fun t e => e.Allowed t)
      { recorder := { cacher := .init foldStatus vhMode } } steps)
    (c : EventCacher) (wall : Nat) :
    let t := Lib.run Tracked.step { recorder := { cacher := .init foldStatus vhMode } } steps
    let c' := c.recoverActiveSession t.store wall
    t.clock ≤ wall →
      c'.isKeyboardShowing = t.cacher.isKeyboardShowing ∧
        (t.cacher.isKeyboardShowing = true →
          (c'.currentImeBundle = t.cacher.currentImeBundle ∧
            c'.lastScreenStatus = t.cacher.lastScreenStatus ∧
            c'.segmentStartBootTime = t.cacher.segmentStartBootTime) ∧
          ∀ ticks : UnbindTicks, ∃ durations,
            Upserted t.cacher.currentImeBundle ticks.settle.today0
              (countRecord (c'.stopRecord t.cacher.currentImeBundle ticks.hide) ticks.settle) durations
              { t.store with events := t.store.events.filter fun row => !decide (row ∈ t.rows) }
              (Recorder.onImeUnbind { cacher := c', store := t.store } t.cacher.currentImeBundle ticks
                {}).store) := by
  intro t c' later
  have start : Tracked.Recoverable { recorder := { cacher := .init foldStatus vhMode } } :=
    ⟨wellFormed_empty, by simp, by simp, rfl, fun _ => rfl, by rintro ⟨⟩⟩
  have good : t.Recoverable := Lib.run_keeps (fun t e good ok => good.step ok) start allowed
  obtain ⟨showing, same⟩ := good.recovers c later
  refine ⟨showing, fun up => ⟨same up, fun ticks => ?_⟩⟩
  obtain ⟨bundle, status, segment⟩ := same up
  obtain ⟨first, changes, rows, session⟩ := good.showing up
  have session' : OpenRows c' t.store first changes := session.congr bundle status segment
  have raw := good.raw.trans rows
  have settled := OpenRows.settled (u := { cacher := c', store := t.store }) session' good.wf
    (good.small first (mem_of_raw raw)) raw ticks.hide ticks.settle
  have counts : (t.store.events.filter fun row => !decide (row ∈ t.rows)) =
      t.store.events.filter EventRow.isCount := by
    apply List.filter_congr
    intro row member
    rw [← good.raw]
    by_cases count : row.isCount = true
    · simp [rawRows, count]
    · simp [rawRows, member, count]
  have showing' : c'.isKeyboardShowing = true := showing.trans up
  rw [counts, ← bundle, Recorder.onImeUnbind_showing showing']
  exact ⟨_, settled⟩

/-! ## Poles -/

instance (t : Tracked) : (e : ServiceStep) → Decidable (e.Allowed t)
  | .call _ => inferInstanceAs (Decidable ((∀ row ∈ _, _) ∧ _ ∧ _ ∧ _))
  | .cleanup _ _ => inferInstanceAs (Decidable ((∀ row ∈ _, _) ∧ ∀ row ∈ _, _))
  | .restart _ _ => inferInstanceAs (Decidable ((∀ row ∈ _, _) ∧ _ ≤ _))

/-- A session of "a" is settled, one of "b" is open and turned once; a restart finds "b". -/
theorem second_session_recovered :
    let steps : List ServiceStep :=
      [.call (.bind "a" (.at 0) {} true), .call (.bind "b" (.at 100) {} true),
       .call (.screen 12 11 (.at 150) true)]
    let t := Lib.run Tracked.step { recorder := { cacher := .init 1 2 } } steps
    let c' := EventCacher.recoverActiveSession {} t.store 200
    c'.isKeyboardShowing = t.cacher.isKeyboardShowing ∧ t.cacher.isKeyboardShowing = true ∧
      c'.currentImeBundle = "b" ∧ c'.lastScreenStatus = 11 ∧ c'.segmentStartBootTime = 150 := by
  intro steps t c'
  have up : t.cacher.isKeyboardShowing = true := by decide +kernel
  obtain ⟨showing, found⟩ :=
    recovery_finds_session 1 2 steps (by decide +kernel) {} 200 (by decide +kernel)
  obtain ⟨⟨bundle, status, segment⟩, -⟩ := found up
  exact ⟨showing, up, bundle.trans (by decide +kernel), status.trans (by decide +kernel),
    segment.trans (by decide +kernel)⟩

end Imf.Usage
