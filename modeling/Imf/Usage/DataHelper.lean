/-
# Imf.Usage.DataHelper -- the event store

`services/ime_usage/src/ime_usage_data_helper.cpp`: the rows in memory, which every
operation writes to the file before it returns.  The file store is behind
`WriteEvents`; whether a call of it succeeds is an argument of each operation
(`written`), and every operation that fails rolls its own change back.
-/
import Imf.Usage.Common
import Imf.Lib.Last

namespace Imf.Usage

set_option autoImplicit false

/-- `ImeUsageDataHelper`.  `nextId` is the id of the next row. -/
structure DataHelper where
  ready : Bool := true
  events : List EventRow := []
  lastReportTime : Nat := 0
  nextId : Int := 1
  deriving DecidableEq

/-- `IME_INDEX_NOT_FOUND`. -/
def indexNotFound : Int := -1

namespace DataHelper

/-! ## Row tests -/

/-- The test of `FindLastRowLocked`. -/
def isRow (bundleName : String) (rawId : EventId) (row : EventRow) : Bool :=
  row.bundleName == bundleName && row.rawid == rawId

/-- The test of `FindLastCountDurationLocked`. -/
def isCountOfDay (bundleName : String) (dayStartTime : Nat) (row : EventRow) : Bool :=
  row.bundleName == bundleName && row.rawid == .countDuration &&
    decide (row.happenTime ≥ dayStartTime)

/-- The rows a deletion from `startIndex` removes: every row of the bundle from that
id on, whatever its kind. -/
def isFrom (bundleName : String) (startIndex : Int) (row : EventRow) : Bool :=
  row.bundleName == bundleName && decide (row.id ≥ startIndex)

/-! ## Updates -/

/-- `UpsertCountDurationLocked`. -/
def upsertCountDurationLocked (s : DataHelper) (bundleName : String) (dayStartTime : Nat)
    (countRecord : EventRecord) (durations : DurationMap) : DataHelper :=
  let update (existing : EventRow) : EventRow :=
    { existing with
      durations := existing.durations + durations
      showCount := existing.showCount + 1
      ts := countRecord.ts
      happenTime := countRecord.happenTime }
  match Lib.modifyLast (isCountOfDay bundleName dayStartTime) update s.events with
  | some events => { s with events := events }
  | none =>
      { s with
        events := s.events ++ [makeRow s.nextId { countRecord with showCount := 1 } durations]
        nextId := s.nextId + 1 }

def eraseFrom (s : DataHelper) (bundleName : String) (startIndex : Int) : DataHelper :=
  { s with events := s.events.filter fun row => !isFrom bundleName startIndex row }

/-- `AddEvent`, with the durations it defaults to. -/
def addEvent (s : DataHelper) (record : EventRecord) (written : Bool) : DataHelper × Bool :=
  if s.ready = false then (s, false)
  else if written then
    ({ s with events := s.events ++ [makeRow s.nextId record 0], nextId := s.nextId + 1 }, true)
  else (s, false)

def deleteEventsByBundleAndStartIndex (s : DataHelper) (bundleName : String) (startIndex : Int)
    (written : Bool) : DataHelper × Bool :=
  if s.ready = false then (s, false)
  else
    let erased := s.eraseFrom bundleName startIndex
    if erased.events.length = s.events.length then (s, true)
    else if written then (erased, true)
    else (s, false)

def deleteAndUpsertTransactional (s : DataHelper) (bundleName : String) (startIndex : Int)
    (dayStartTime : Nat) (countRecord : EventRecord) (durations : DurationMap) (written : Bool) :
    DataHelper × Bool :=
  if s.ready = false then (s, false)
  else if written then
    ((s.eraseFrom bundleName startIndex).upsertCountDurationLocked bundleName dayStartTime
      countRecord durations, true)
  else (s, false)

def upsertCountDuration (s : DataHelper) (bundleName : String) (dayStartTime : Nat)
    (countRecord : EventRecord) (durations : DurationMap) (written : Bool) : DataHelper × Bool :=
  if s.ready = false then (s, false)
  else if written then
    (s.upsertCountDurationLocked bundleName dayStartTime countRecord durations, true)
  else (s, false)

/-! ## Queries -/

/-- `QueryRawEventIndex`: the id is narrowed to `int32_t`. -/
def queryRawEventIndex (s : DataHelper) (bundleName : String) (rawId : EventId) : Int :=
  if s.ready = false then indexNotFound
  else
    match Lib.findLast? (isRow bundleName rawId) s.events with
    | none => indexNotFound
    | some row => toInt32 row.id

def toRecord (row : EventRow) : EventRecord :=
  { rawid := row.rawid, ts := row.ts, happenTime := row.happenTime, bundleName := row.bundleName,
    preScreenStatus := row.preScreenStatus, screenStatus := row.screenStatus }

/-- `QueryEventRecords`: a `COUNT_DURATION` row discards what was collected before it. -/
def queryEventRecords (s : DataHelper) (startIndex : Int) (dayStartTime : Nat)
    (bundleName : String) : List EventRecord :=
  if s.ready = false then []
  else s.events.foldl
    (fun records row =>
      if row.bundleName ≠ bundleName ∨ row.id < startIndex ∨ row.happenTime < dayStartTime then records
      else if row.rawid = .countDuration then []
      else records ++ [toRecord row]) []

end DataHelper

end Imf.Usage
