/-
# Imf.Usage.EventCacher -- sessions of an IME

`services/ime_usage/src/ime_usage_event_cacher.cpp`, after `Init` with a data helper.
A callback is a prepare function, which runs under `mutex_` and may query the
store, followed by store operations outside the lock.  The prepare functions are
definitions of their own, so that the interleavings of `Imf.Usage.Interleaving` and the
sequential calls here run the same code.

Every function takes the clock readings it makes as arguments (`Tick`), and the
outcomes of its `WriteEvents` calls.
-/
import Imf.Usage.DataHelper

namespace Imf.Usage

set_option autoImplicit false

/-- The readings of one block of code: boot clock, wall clock, the midnight that
`GetToday0ClockMs` returns there, and what an array that it does not initialize holds. -/
structure Tick where
  boot : Nat
  wall : Nat
  today0 : Nat
  uninitialized : DurationMap := 0
  deriving DecidableEq

/-- `ImeUsageEventCacher`. -/
structure EventCacher where
  currentImeBundle : String := ""
  isKeyboardShowing : Bool := false
  foldStatus : Int := 0
  vhMode : Int := 0
  lastScreenStatus : Int := 0
  segmentStartBootTime : Nat := 0
  segmentScreenStatus : Int := screenStatusUninitialized
  sessionDurations : DurationMap := 0
  isSessionDurationsReady : Bool := false
  deriving DecidableEq

/-- `ShowPrepareResult`. -/
structure ShowPrepareResult where
  hideRecord : EventRecord := {}
  showRecord : EventRecord := {}
  hideDurations : DurationMap := 0
  hideStartIndex : Int := indexNotFound
  deriving DecidableEq

/-- Outcomes of the `WriteEvents` calls that `SettleSession` can reach. -/
structure SettleWrites where
  transaction : Bool := true
  delete : Bool := true
  upsert : Bool := true
  deriving DecidableEq

/-! ## Durations from the database -/

def canCalcDuration (preRawId rawId : EventId) : Bool :=
  !(preRawId == .inputStart && rawId == .inputStart) &&
    !(preRawId == .inputStop && rawId == .inputStop)

/-- A status of 0 was never initialized and counts as unfolded portrait. -/
def orUnfoldedPortrait (status : Int) : Int :=
  if status = screenStatusUninitialized then unfoldedPortrait else status

/-- The loop of `CalculateDuration` over neighbouring records. -/
def calculatePairs : EventRecord → List EventRecord → DurationMap → DurationMap
  | _, [], durations => durations
  | pre, record :: records, durations =>
      let added :=
        if canCalcDuration pre.rawid record.rawid then
          accumulate (orUnfoldedPortrait pre.screenStatus)
            (if record.ts > pre.ts then record.ts - pre.ts else 0) durations
        else durations
      calculatePairs record records added

/-- `CalculateDuration`. -/
def calculateDuration (dayStartTime : Nat) (records : List EventRecord) (durations : DurationMap) :
    DurationMap :=
  match records with
  | [] => durations
  | first :: rest =>
      let sinceMidnight :=
        if first.rawid ≠ .inputStart then
          let status := if first.rawid = .inputStop then first.screenStatus else first.preScreenStatus
          accumulate (orUnfoldedPortrait status) (subUInt64 first.happenTime dayStartTime) durations
        else durations
      calculatePairs first rest sinceMidnight

def getStartIndex (s : DataHelper) (bundleName : String) : Int :=
  s.queryRawEventIndex bundleName .inputStart

/-- `CalculateDurationForRecord`: the durations and the start index it also returns.  It declares
`durations` without initializing it: what the array holds is added to, or returned as it is. -/
def calculateDurationForRecord (s : DataHelper) (record : EventRecord) (today0 : Nat)
    (durations : DurationMap) : DurationMap × Int :=
  let startIndex := getStartIndex s record.bundleName
  if startIndex < 0 then (durations, startIndex)
  else
    let records := s.queryEventRecords startIndex today0 record.bundleName
    (calculateDuration today0 (records ++ [record]) durations, startIndex)

namespace EventCacher

/-! ## Prepare functions -/

def getScreenStatus (c : EventCacher) : Int :=
  let status := encodeScreenStatus c.foldStatus c.vhMode
  if status = screenStatusUninitialized then unfoldedPortrait else status

/-- The cacher after `Init`. -/
def init (foldStatus vhMode : Int) : EventCacher :=
  { foldStatus := foldStatus, vhMode := vhMode,
    lastScreenStatus := getScreenStatus { foldStatus := foldStatus, vhMode := vhMode } }

/-- The durations with the segment that ends at `nowBoot`. -/
def closeSegment (c : EventCacher) (nowBoot : Nat) : DurationMap :=
  if c.isSessionDurationsReady ∧ nowBoot > c.segmentStartBootTime then
    accumulate c.segmentScreenStatus (nowBoot - c.segmentStartBootTime) c.sessionDurations
  else c.sessionDurations

/-- The STOP record of a session closed now. -/
def stopRecord (c : EventCacher) (bundleName : String) (now : Tick) : EventRecord :=
  { rawid := .inputStop, ts := now.boot, happenTime := now.wall, bundleName := bundleName,
    preScreenStatus := c.getScreenStatus, screenStatus := c.getScreenStatus }

/-- The cacher after closing its session now. -/
def hidden (c : EventCacher) (now : Tick) : EventCacher :=
  { c with
    sessionDurations := c.closeSegment now.boot
    isKeyboardShowing := false
    currentImeBundle := "" }

/-- `PrepareHideRecord`. -/
def prepareHideRecord (c : EventCacher) (bundleName : String) (now : Tick) :
    EventRecord × EventCacher :=
  if c.isKeyboardShowing = false then ({}, c)
  else (c.stopRecord bundleName now, c.hidden now)

/-- The durations and start index a session is closed with: the incremental ones, or those
of the database when the session was recovered from it. -/
def closingDurations (c : EventCacher) (s : DataHelper) (record : EventRecord) (now : Tick) :
    DurationMap × Int :=
  if c.isSessionDurationsReady then (c.sessionDurations, getStartIndex s record.bundleName)
  else calculateDurationForRecord s record now.today0 now.uninitialized

/-- The START record of a session opened now. -/
def startRecord (c : EventCacher) (bundleName : String) (now : Tick) : EventRecord :=
  { rawid := .inputStart, ts := now.boot, happenTime := now.wall, bundleName := bundleName,
    preScreenStatus := c.getScreenStatus, screenStatus := c.getScreenStatus }

/-- The cacher after opening a session now. -/
def opened (c : EventCacher) (bundleName : String) (now : Tick) : EventCacher :=
  { c with
    currentImeBundle := bundleName
    isKeyboardShowing := true
    lastScreenStatus := c.getScreenStatus
    sessionDurations := 0
    segmentStartBootTime := now.boot
    segmentScreenStatus := c.getScreenStatus
    isSessionDurationsReady := true }

/-- `PrepareShowEvent`. -/
def prepareShowEvent (c : EventCacher) (s : DataHelper) (bundleName : String) (hide start : Tick) :
    ShowPrepareResult × EventCacher :=
  if c.isKeyboardShowing ∧ c.currentImeBundle = bundleName then ({}, c)
  else
    let closed := c.prepareHideRecord c.currentImeBundle hide
    let closing :=
      if c.isKeyboardShowing then closed.2.closingDurations s closed.1 hide
      else (0, indexNotFound)
    ({ hideRecord := closed.1, showRecord := closed.2.startRecord bundleName start,
       hideDurations := closing.1, hideStartIndex := closing.2 },
     closed.2.opened bundleName start)

/-- The STATUS_CHANGED record of a status that changes now. -/
def statusRecord (c : EventCacher) (preScreenStatus newScreenStatus : Int) (now : Tick) :
    EventRecord :=
  { rawid := .inputStatusChanged, ts := now.boot, happenTime := now.wall,
    bundleName := c.currentImeBundle, preScreenStatus := preScreenStatus,
    screenStatus := newScreenStatus }

/-- The cacher after a status change now: a new segment begins. -/
def turned (c : EventCacher) (newScreenStatus : Int) (now : Tick) : EventCacher :=
  { c with
    sessionDurations := c.closeSegment now.boot
    segmentStartBootTime := now.boot
    segmentScreenStatus := newScreenStatus
    lastScreenStatus := newScreenStatus }

/-- `ProcessScreenChangedEvent`. -/
def processScreenChangedEvent (c : EventCacher) (preScreenStatus newScreenStatus : Int) (now : Tick) :
    EventRecord × EventCacher :=
  if c.isKeyboardShowing = false then ({}, c)
  else if newScreenStatus = c.lastScreenStatus then ({}, c)
  else (c.statusRecord preScreenStatus newScreenStatus now, c.turned newScreenStatus now)

@[simp] theorem stopRecord_bundleName (c : EventCacher) (b : String) (now : Tick) :
    (c.stopRecord b now).bundleName = b := rfl

@[simp] theorem startRecord_bundleName (c : EventCacher) (b : String) (now : Tick) :
    (c.startRecord b now).bundleName = b := rfl

@[simp] theorem statusRecord_bundleName (c : EventCacher) (pre new : Int) (now : Tick) :
    (c.statusRecord pre new now).bundleName = c.currentImeBundle := rfl

/-- The prepare step of `OnImeUnbind`: the record to settle, with its durations and index. -/
def prepareUnbind (c : EventCacher) (s : DataHelper) (bundleName : String) (now : Tick) :
    (EventRecord × DurationMap × Int) × EventCacher :=
  let closed := c.prepareHideRecord bundleName now
  if closed.1.rawid ≠ .none then
    let closing := closed.2.closingDurations s closed.1 now
    ((closed.1, closing.1, closing.2), closed.2)
  else ((closed.1, 0, indexNotFound), closed.2)

/-- `DecodeScreenStatus` into the cacher's own fields. -/
def decoded (c : EventCacher) (newScreenStatus : Int) : EventCacher :=
  { c with
    foldStatus := (decodeScreenStatus newScreenStatus).1
    vhMode := (decodeScreenStatus newScreenStatus).2 }

/-- The prepare step of `OnScreenStatusChanged`. -/
def prepareScreen (c : EventCacher) (preScreenStatus newScreenStatus : Int) (now : Tick) :
    EventRecord × EventCacher :=
  (c.decoded newScreenStatus).processScreenChangedEvent preScreenStatus newScreenStatus now

end EventCacher

/-! ## Settlement -/

/-- The row that `SettleSession` writes. -/
def countRecord (stop : EventRecord) (now : Tick) : EventRecord :=
  { rawid := .countDuration, ts := now.boot, happenTime := now.wall, bundleName := stop.bundleName,
    preScreenStatus := stop.preScreenStatus, screenStatus := stop.screenStatus }

/-- `SettleSession`. -/
def settleSession (s : DataHelper) (stop : EventRecord) (durations : DurationMap)
    (startIndex : Int) (now : Tick) (written : SettleWrites) : DataHelper :=
  let count := countRecord stop now
  let upsert (s : DataHelper) : DataHelper :=
    (s.upsertCountDuration stop.bundleName now.today0 count durations written.upsert).1
  if startIndex ≥ 0 then
    let transaction := s.deleteAndUpsertTransactional stop.bundleName startIndex now.today0 count
      durations written.transaction
    if transaction.2 then transaction.1
    else upsert (s.deleteEventsByBundleAndStartIndex stop.bundleName startIndex written.delete).1
  else upsert s

/-! ## Sequential calls -/

/-- The readings of `OnImeBind`: closing the old session, opening the new one, settling. -/
structure BindTicks where
  hide : Tick
  start : Tick
  settle : Tick
  deriving DecidableEq

/-- The readings of `OnImeUnbind`. -/
structure UnbindTicks where
  hide : Tick
  settle : Tick
  deriving DecidableEq

/-- A cacher with the store it writes to. -/
structure Recorder where
  cacher : EventCacher := {}
  store : DataHelper := {}
  deriving DecidableEq

namespace Recorder

def onImeBind (u : Recorder) (bundleName : String) (ticks : BindTicks) (settled : SettleWrites)
    (started : Bool) : Recorder :=
  let prepared := u.cacher.prepareShowEvent u.store bundleName ticks.hide ticks.start
  let result := prepared.1
  let closed :=
    if result.hideRecord.rawid ≠ .none then
      settleSession u.store result.hideRecord result.hideDurations result.hideStartIndex ticks.settle
        settled
    else u.store
  let opened :=
    if result.showRecord.rawid ≠ .none then (closed.addEvent result.showRecord started).1 else closed
  { cacher := prepared.2, store := opened }

def onImeUnbind (u : Recorder) (bundleName : String) (ticks : UnbindTicks) (settled : SettleWrites) :
    Recorder :=
  let prepared := u.cacher.prepareUnbind u.store bundleName ticks.hide
  let record := prepared.1.1
  let closed :=
    if record.rawid ≠ .none then
      settleSession u.store record prepared.1.2.1 prepared.1.2.2 ticks.settle settled
    else u.store
  { cacher := prepared.2, store := closed }

def onScreenStatusChanged (u : Recorder) (preScreenStatus newScreenStatus : Int) (now : Tick)
    (written : Bool) : Recorder :=
  let prepared := u.cacher.prepareScreen preScreenStatus newScreenStatus now
  let added :=
    if prepared.1.rawid ≠ .none then (u.store.addEvent prepared.1 written).1 else u.store
  { cacher := prepared.2, store := added }

end Recorder

/-- One call, with its clock readings and the outcomes of its writes. -/
inductive Call where
  | bind (bundleName : String) (ticks : BindTicks) (settled : SettleWrites) (started : Bool)
  | unbind (bundleName : String) (ticks : UnbindTicks) (settled : SettleWrites)
  | screen (preScreenStatus newScreenStatus : Int) (now : Tick) (written : Bool)
  deriving DecidableEq

def Recorder.step (u : Recorder) : Call → Recorder
  | .bind bundleName ticks settled started => u.onImeBind bundleName ticks settled started
  | .unbind bundleName ticks settled => u.onImeUnbind bundleName ticks settled
  | .screen pre new now written => u.onScreenStatusChanged pre new now written

/-- All the writes of the call succeed. -/
def Call.Written : Call → Prop
  | .bind _ _ settled started => settled = {} ∧ started = true
  | .unbind _ _ settled => settled = {}
  | .screen _ _ _ written => written = true

instance : (call : Call) → Decidable call.Written
  | .bind .. => inferInstanceAs (Decidable (_ ∧ _))
  | .unbind .. => inferInstanceAs (Decidable (_ = _))
  | .screen .. => inferInstanceAs (Decidable (_ = _))

/-! ## What a call does -/

theorem closingDurations_index (c : EventCacher) (s : DataHelper) (record : EventRecord)
    (now : Tick) : (c.closingDurations s record now).2 = getStartIndex s record.bundleName := by
  unfold EventCacher.closingDurations
  split
  · rfl
  · unfold calculateDurationForRecord
    dsimp only
    split <;> rfl

namespace Recorder

variable {u : Recorder}

/-- Closing the open session: what is settled, and the store afterwards. -/
def settled (u : Recorder) (bundleName : String) (hide settle : Tick) (written : SettleWrites) :
    DataHelper :=
  settleSession u.store (u.cacher.stopRecord bundleName hide)
    ((u.cacher.hidden hide).closingDurations u.store (u.cacher.stopRecord bundleName hide) hide).1
    (getStartIndex u.store bundleName) settle written

/-- Binding the IME that is showing does nothing. -/
theorem onImeBind_same {b : String} (showing : u.cacher.isKeyboardShowing = true)
    (same : u.cacher.currentImeBundle = b) (ticks : BindTicks) (written : SettleWrites)
    (started : Bool) : u.onImeBind b ticks written started = u := by
  simp [onImeBind, EventCacher.prepareShowEvent, showing, same]

/-- Binding another IME settles the open session and opens a new one. -/
theorem onImeBind_switch {b : String} (showing : u.cacher.isKeyboardShowing = true)
    (other : u.cacher.currentImeBundle ≠ b) (ticks : BindTicks) (written : SettleWrites)
    (started : Bool) :
    u.onImeBind b ticks written started =
      { cacher := (u.cacher.hidden ticks.hide).opened b ticks.start
        store := ((u.settled u.cacher.currentImeBundle ticks.hide ticks.settle written).addEvent
          ((u.cacher.hidden ticks.hide).startRecord b ticks.start) started).1 } := by
  simp [onImeBind, EventCacher.prepareShowEvent, EventCacher.prepareHideRecord, showing, other,
    closingDurations_index, settled, EventCacher.stopRecord, EventCacher.startRecord]

/-- Binding while nothing is showing opens a session. -/
theorem onImeBind_idle (idle : u.cacher.isKeyboardShowing = false) (b : String) (ticks : BindTicks)
    (written : SettleWrites) (started : Bool) :
    u.onImeBind b ticks written started =
      { cacher := u.cacher.opened b ticks.start
        store := (u.store.addEvent (u.cacher.startRecord b ticks.start) started).1 } := by
  simp [onImeBind, EventCacher.prepareShowEvent, EventCacher.prepareHideRecord, idle,
    EventCacher.startRecord]

theorem onImeUnbind_idle (idle : u.cacher.isKeyboardShowing = false) (b : String)
    (ticks : UnbindTicks) (written : SettleWrites) : u.onImeUnbind b ticks written = u := by
  simp [onImeUnbind, EventCacher.prepareUnbind, EventCacher.prepareHideRecord, idle]

/-- Unbinding settles the open session, under whatever name the caller gives. -/
theorem onImeUnbind_showing (showing : u.cacher.isKeyboardShowing = true) (b : String)
    (ticks : UnbindTicks) (written : SettleWrites) :
    u.onImeUnbind b ticks written =
      { cacher := u.cacher.hidden ticks.hide
        store := u.settled b ticks.hide ticks.settle written } := by
  simp [onImeUnbind, EventCacher.prepareUnbind, EventCacher.prepareHideRecord, showing, settled,
    closingDurations_index, EventCacher.stopRecord]

/-- A status change while nothing is showing, or to the status already recorded. -/
theorem onScreenStatusChanged_skip {new : Int}
    (skip : u.cacher.isKeyboardShowing = false ∨ new = u.cacher.lastScreenStatus) (pre : Int)
    (now : Tick) (written : Bool) :
    u.onScreenStatusChanged pre new now written = { u with cacher := u.cacher.decoded new } := by
  by_cases idle : u.cacher.isKeyboardShowing = false
  · simp [onScreenStatusChanged, EventCacher.prepareScreen, EventCacher.processScreenChangedEvent,
      EventCacher.decoded, idle]
  · have same := skip.resolve_left idle
    simp [onScreenStatusChanged, EventCacher.prepareScreen, EventCacher.processScreenChangedEvent,
      EventCacher.decoded, idle, same]

/-- Any other status change ends a segment and inserts a STATUS_CHANGED row. -/
theorem onScreenStatusChanged_change {new : Int} (showing : u.cacher.isKeyboardShowing = true)
    (changed : new ≠ u.cacher.lastScreenStatus) (pre : Int) (now : Tick) (written : Bool) :
    u.onScreenStatusChanged pre new now written =
      { cacher := (u.cacher.decoded new).turned new now
        store := (u.store.addEvent (u.cacher.statusRecord pre new now) written).1 } := by
  simp [onScreenStatusChanged, EventCacher.prepareScreen, EventCacher.processScreenChangedEvent,
    EventCacher.decoded, EventCacher.statusRecord, showing, changed]

end Recorder

end Imf.Usage
