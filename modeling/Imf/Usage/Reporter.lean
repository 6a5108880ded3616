/-
# Imf.Usage.Reporter -- the daily report

`services/ime_usage/src/ime_usage_event_factory.cpp` and `ime_usage_reporter.cpp`, with
the queries of `ime_usage_data_helper.cpp` that they make.  A report of a day adds up the
rows of the day for every bundle and, when the last row up to its end belongs to an open
session, the part of that session that lies in the day (the foreground channel).

`DayStartFromMs` goes through `localtime_r` and `mktime`; it is the parameter `dayStart`.
`uint32_t` sums of a report wrap (`toUInt32`).  An `unordered_map` keyed by the bundle is
a list with one entry for each bundle; its order of iteration is not specified and
nothing here depends on it.
-/
import Imf.Usage.EventCacher
import Mathlib.Data.List.Dedup
import Mathlib.Data.List.Sort

namespace Imf.Usage

set_option autoImplicit false

def millisecsPerDay : Nat := 24 * 60 * 60 * 1000
def maxImeUsageSize : Nat := 100
def dataKeepDay : Nat := 3
def reportTimeNever : Nat := 0

def toUInt32 (n : Nat) : Nat := n % 2 ^ 32

/-- `ImeUsageInfo`. -/
structure UsageInfo where
  package : String := ""
  durations : DurationMap := 0
  showCount : Nat := 0
  usage : Nat := 0
  deriving DecidableEq

namespace UsageInfo

def getAppUsage (info : UsageInfo) : Nat := DurationMap.total info.durations

/-- `operator+=`. -/
def add (info other : UsageInfo) : UsageInfo :=
  let durations : DurationMap := fun i => toUInt32 (info.durations i + other.durations i)
  { info with
    durations := durations
    showCount := toUInt32 (info.showCount + other.showCount)
    usage := DurationMap.total durations }

/-- A row is counted. -/
def addRow (info : UsageInfo) (row : EventRow) : UsageInfo :=
  { info with
    durations := fun i => toUInt32 (info.durations i + row.durations i)
    showCount :=
      if row.rawid = .inputStart then toUInt32 (info.showCount + 1)
      else if row.rawid = .countDuration then toUInt32 (info.showCount + row.showCount)
      else info.showCount }

/-- Time in the bucket of a status, if it has one. -/
def addDuration (info : UsageInfo) (screenStatus : Int) (duration : Nat) : UsageInfo :=
  match screenStatusToIndex screenStatus with
  | some i =>
      { info with durations := Function.update info.durations i (toUInt32 (info.durations i + duration)) }
  | none => info

end UsageInfo

/-- `ImeUsageRawEvent`. -/
structure RawEvent where
  id : Int := 0
  rawId : EventId := .none
  package : String := ""
  ts : Nat := 0
  happenTime : Nat := 0
  screenStatusBefore : Int := screenStatusUninitialized
  screenStatusAfter : Int := screenStatusUninitialized
  deriving DecidableEq

/-! ## The foreground channel -/

/-- `ForegroundRawEvt`. -/
structure ForegroundRawEvt where
  rawId : EventId
  bundle : String
  screenAfter : Int
  screenBefore : Int
  happenTime : Nat
  ts : Nat
  deriving DecidableEq

def toForeground (row : EventRow) : ForegroundRawEvt :=
  { rawId := row.rawid, bundle := row.bundleName, screenAfter := row.screenStatus,
    screenBefore := row.preScreenStatus, happenTime := row.happenTime, ts := row.ts }

/-- `CollectForegroundEvents`, newest first, up to the START row. -/
def collectForegroundEvents (targetBundle : String) : List EventRow → List ForegroundRawEvt
  | [] => []
  | row :: rows =>
      if row.bundleName ≠ targetBundle then collectForegroundEvents targetBundle rows
      else if row.rawid = .inputStart then [toForeground row]
      else if row.rawid = .inputStatusChanged then
        toForeground row :: collectForegroundEvents targetBundle rows
      else collectForegroundEvents targetBundle rows

/-- The loop of `CalculateForegroundDuration` over neighbouring events, oldest pair first. -/
def foregroundPairs : List ForegroundRawEvt → UsageInfo → UsageInfo
  | newer :: older :: events, info =>
      (foregroundPairs (older :: events) info).addDuration older.screenAfter
        (if newer.ts > older.ts then toUInt32 (newer.ts - older.ts) else 0)
  | _, info => info

/-- `CalculateForegroundDuration`. -/
def calculateForegroundDuration (events : List ForegroundRawEvt) (startTime endTime : Nat)
    (screenStatus : Int) (info : UsageInfo) : UsageInfo :=
  match events, events.getLast? with
  | newest :: _, some oldest =>
      let sinceStart :=
        if oldest.rawId = .inputStatusChanged then
          info.addDuration oldest.screenBefore (toUInt32 (subUInt64 oldest.happenTime startTime))
        else info
      (foregroundPairs events sinceStart).addDuration newest.screenAfter
        (if newest.happenTime < endTime then toUInt32 (endTime - newest.happenTime) else 0)
  | _, _ => info.addDuration screenStatus (toUInt32 (subUInt64 endTime startTime))

/-! ## Queries and updates of the store -/

def inPeriod (startTime endTime : Nat) (row : EventRow) : Bool :=
  decide (startTime ≤ row.happenTime ∧ row.happenTime ≤ endTime)

namespace DataHelper

def queryStatisticEventsInPeriod (s : DataHelper) (startTime endTime : Nat) : List UsageInfo :=
  if s.ready = false then []
  else
    let rows := s.events.filter (inPeriod startTime endTime)
    (rows.map EventRow.bundleName).dedup.map fun bundle =>
      let info := (rows.filter fun row => row.bundleName == bundle).foldl UsageInfo.addRow
        { package := bundle }
      { info with usage := info.getAppUsage }

def queryFinalEventInfo (s : DataHelper) (endTime : Nat) : RawEvent :=
  if s.ready = false then {}
  else
    match Lib.findLast? (fun row => decide (row.happenTime ≤ endTime)) s.events with
    | none => {}
    | some row =>
        { id := row.id, rawId := row.rawid, package := row.bundleName, ts := row.ts,
          happenTime := row.happenTime, screenStatusBefore := row.preScreenStatus,
          screenStatusAfter := row.screenStatus }

def queryForegroundImeInfo (s : DataHelper) (startTime endTime : Nat) (screenStatus : Int)
    (info : UsageInfo) : UsageInfo :=
  if s.ready = false then info
  else
    let matching := s.events.reverse.filter fun row =>
      row.bundleName == info.package && inPeriod startTime endTime row
    calculateForegroundDuration (collectForegroundEvents info.package matching) startTime endTime
      screenStatus info

def queryEarliestEventTime (s : DataHelper) : Int :=
  if s.ready = false then indexNotFound
  else s.events.foldl
    (fun earliest row =>
      if earliest = indexNotFound ∨ (row.happenTime : Int) < earliest then row.happenTime
      else earliest) indexNotFound

def queryActiveDays (dayStart : Nat → Nat) (s : DataHelper) (startTime endTime : Nat) : List Nat :=
  if s.ready = false then []
  else
    ((s.events.filter (inPeriod startTime endTime)).map fun row =>
      dayStart row.happenTime).dedup.insertionSort (· ≤ ·)

def deleteEventsByTime (s : DataHelper) (clearDataTime : Nat) (written : Bool) : DataHelper × Bool :=
  if s.ready = false then (s, false)
  else
    let kept := s.events.filter fun row => !decide (row.happenTime < clearDataTime)
    if kept.length = s.events.length then (s, true)
    else if written then ({ s with events := kept }, true)
    else (s, false)

/-- `SaveReportState`: the value stays in memory when the write fails. -/
def saveReportState (s : DataHelper) (value : Nat) (written : Bool) : DataHelper × Bool :=
  if s.ready = false then (s, false)
  else ({ s with lastReportTime := value }, written)

/-! ## The report of a period -/

/-- `MergeForegroundInfo`. -/
def mergeForegroundInfo (s : DataHelper) (infos : List UsageInfo) (startTime endTime : Nat) :
    List UsageInfo :=
  let last := s.queryFinalEventInfo endTime
  if last.rawId ≠ .inputStart ∧ last.rawId ≠ .inputStatusChanged then infos
  else
    let queried := s.queryForegroundImeInfo startTime endTime last.screenStatusAfter
      { package := last.package }
    let foreground := { queried with usage := queried.getAppUsage }
    if infos.any fun info => info.package == foreground.package then
      infos.map fun info => if info.package = foreground.package then info.add foreground else info
    else infos ++ [foreground]

/-- `CollectAndSortResults`. -/
def collectAndSortResults (infos : List UsageInfo) : List UsageInfo :=
  ((infos.filter fun info => decide (info.usage > 0)).insertionSort
    fun a b => a.usage ≥ b.usage).take maxImeUsageSize

/-- `GetUsageInfo`. -/
def getUsageInfo (s : DataHelper) (startTime endTime : Nat) : List UsageInfo :=
  collectAndSortResults (s.mergeForegroundInfo (s.queryStatisticEventsInPeriod startTime endTime)
    startTime endTime)

end DataHelper

/-! ## The reporter -/

/-- Outcomes of the writes of a report: of each event sent for a day, of the saved report
time, of the cleanup. -/
structure ReportWrites where
  sent : Nat → UsageInfo → Bool := fun _ _ => true
  saved : Bool := true
  deleted : Bool := true

/-- `ImeUsageReporter`, with the events it has sent, each with the start of its day. -/
structure Reporter where
  recorder : Recorder := {}
  lastReportTime : Nat := reportTimeNever
  reported : List (Nat × UsageInfo) := []
  deriving DecidableEq

section Report

variable (dayStart : Nat → Nat)

/-- `ReportSingleDay`: what is sent, and whether all of it was. -/
def reportSingleDay (s : DataHelper) (sent : UsageInfo → Bool) (dayStartTime : Nat) :
    List UsageInfo × Bool :=
  let infos := s.getUsageInfo dayStartTime (dayStartTime + millisecsPerDay - 1)
  (infos.filter sent, infos.all sent)

/-- The loop over days that `ReportUnreportedDays` and `ReportAndCleanupOldData` share. -/
def reportDays (s : DataHelper) (sent : Nat → UsageInfo → Bool) (days : List Nat) :
    List (Nat × UsageInfo) × Bool :=
  (days.flatMap fun day => (reportSingleDay s (sent day) day).1.map fun info => (day, info),
   days.all fun day => (reportSingleDay s (sent day) day).2)

namespace Reporter

/-- `CalcReportDayStart`; `none` is its `false`. -/
def calcReportDayStart (r : Reporter) : Option Nat :=
  if r.lastReportTime = reportTimeNever then
    let earliest := r.recorder.store.queryEarliestEventTime
    if earliest ≤ 0 then none else some (dayStart earliest.toNat)
  else some (dayStart (r.lastReportTime + 1))

/-- `ReportUnreportedDays`. -/
def reportUnreportedDays (r : Reporter) (reportDayStart yesterdayEnd : Nat)
    (sent : Nat → UsageInfo → Bool) : Reporter :=
  if reportDayStart > yesterdayEnd then r
  else
    let days := r.recorder.store.queryActiveDays dayStart reportDayStart yesterdayEnd
    { r with reported := r.reported ++ (reportDays r.recorder.store sent days).1 }

/-- `UpdateAndPersistReportTime`. -/
def updateAndPersistReportTime (r : Reporter) (reportEndTime : Nat) (saved : Bool) : Reporter :=
  { r with
    lastReportTime := reportEndTime
    recorder := { r.recorder with store := (r.recorder.store.saveReportState reportEndTime saved).1 } }

/-- `ReportAndCleanupOldData`. -/
def reportAndCleanupOldData (r : Reporter) (clearDataTime : Nat) (sent : Nat → UsageInfo → Bool)
    (deleted : Bool) : Reporter :=
  let reportEnd := if clearDataTime > 0 then clearDataTime - 1 else 0
  let unreportedStart :=
    if r.lastReportTime = reportTimeNever then 0
    else if r.lastReportTime + 1 > reportEnd then reportEnd + 1
    else r.lastReportTime + 1
  let days := r.recorder.store.queryActiveDays dayStart unreportedStart reportEnd
  let result := reportDays r.recorder.store sent days
  let sentAll := { r with reported := r.reported ++ result.1 }
  if result.2 then
    { sentAll with
      recorder := { sentAll.recorder with
        store := (sentAll.recorder.store.deleteEventsByTime clearDataTime deleted).1 } }
  else sentAll

/-- `InnerReportDailyEvent`. -/
def innerReportDailyEvent (r : Reporter) (today0Time : Nat) (writes : ReportWrites) : Reporter :=
  match r.calcReportDayStart dayStart with
  | none => r
  | some reportDayStart =>
      let yesterdayEnd := if today0Time > 0 then today0Time - 1 else 0
      let sent := r.reportUnreportedDays dayStart reportDayStart yesterdayEnd writes.sent
      let clearDataTime :=
        if today0Time > millisecsPerDay * dataKeepDay then today0Time - millisecsPerDay * dataKeepDay
        else 0
      let saved := sent.updateAndPersistReportTime yesterdayEnd writes.saved
      if clearDataTime > 0 then
        saved.reportAndCleanupOldData dayStart clearDataTime writes.sent writes.deleted
      else saved

end Reporter

end Report

end Imf.Usage
