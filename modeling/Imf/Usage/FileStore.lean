/-
# Imf.Usage.FileStore -- the events file

`services/ime_usage/src/ime_usage_file_store.cpp`: the rows as JSON, with the integer types
of the source.  A row without shows or durations leaves these fields out; the report time,
unsigned, is stored through a signed proxy; every number goes through a double.
`load_after_write` is the round trip.

The file is the text that was written last, if there is one; reading drops line breaks.  A
write that succeeds has put the whole text there (that `fclose` succeeds is part of it).
-/
import Imf.Usage.Common
import Imf.Json.Serializable

namespace Imf.Usage

set_option autoImplicit false

open Lib (Json)
open Imf.Json

/-- `ImeUsageEventRow`, with its integer types. -/
structure StoredRow where
  id : Int64 := 0
  rawid : Int32 := 0
  ts : Int64 := 0
  happenTime : Int64 := 0
  bundleName : String := ""
  preScreenStatus : Int32 := 0
  screenStatus : Int32 := 0
  durations : Fin durationCount → UInt64 := fun _ => 0
  showCount : UInt32 := 0
  deriving DecidableEq

/-- `IsDurationMapEmpty`. -/
def isDurationMapEmpty (durations : Fin durationCount → UInt64) : Bool := decide (∀ i, durations i = 0)

/-! ## EventRowJson -/

/-- `EventRowJson::Marshal`. -/
def StoredRow.marshal (row : StoredRow) : List (String × Json) :=
  [("id", ofInt64 row.id), ("rawid", ofInt32 row.rawid), ("ts", ofInt64 row.ts),
   ("happenTime", ofInt64 row.happenTime), ("bundleName", ofString row.bundleName),
   ("preScreenStatus", ofInt32 row.preScreenStatus), ("screenStatus", ofInt32 row.screenStatus)] ++
  ((if row.showCount ≠ 0 then [("showCount", ofUInt32 row.showCount)] else []) ++
  (if isDurationMapEmpty row.durations then []
   else [("durations", ofUInt64s (List.ofFn row.durations))]))

/-- The durations of a row node: absent means zero, present but not twelve numbers is an
error. -/
def unmarshalDurations (node : Json) : Option (Fin durationCount → UInt64) :=
  match getUInt64s node "durations" with
  | some values =>
      if same : values.length = durationCount then some fun i => values.get (i.cast same.symm) else none
  | none => if (getSubNode node "durations").isSome then none else some fun _ => 0

/-- `EventRowJson::Unmarshal`. -/
def unmarshalRow (node : Json) : Option StoredRow := do
  let id ← getInt64 node "id"
  let rawid ← getInt32 node "rawid"
  let ts ← getInt64 node "ts"
  let happenTime ← getInt64 node "happenTime"
  let bundleName ← getString node "bundleName"
  let preScreenStatus ← getInt32 node "preScreenStatus"
  let screenStatus ← getInt32 node "screenStatus"
  let durations ← unmarshalDurations node
  some { id := id, rawid := rawid, ts := ts, happenTime := happenTime, bundleName := bundleName,
         preScreenStatus := preScreenStatus, screenStatus := screenStatus, durations := durations,
         showCount := (getUInt32 node "showCount").getD 0 }

/-! ## EventsFileJson -/

/-- What the file holds. -/
structure EventsFile where
  events : List StoredRow := []
  nextId : Int64 := 1
  lastReportTime : UInt64 := 0
  deriving DecidableEq

/-- `EventsFileJson::Marshal`. -/
def EventsFile.marshal (file : EventsFile) : List (String × Json) :=
  [("nextId", ofInt64 file.nextId), ("lastReportTime", ofInt64 file.lastReportTime.toInt64),
   ("events", .arr (file.events.map fun row => .obj row.marshal))]

/-- The items of the vector template: every one has to be an object that unmarshals. -/
def rowItems : List Json → Option (List StoredRow)
  | [] => some []
  | .obj fields :: items => do
      let row ← unmarshalRow (.obj fields)
      let rows ← rowItems items
      some (row :: rows)
  | _ :: _ => none

def getRows (node : Json) (name : String) : Option (List StoredRow) :=
  match getSubNode node name with
  | some (.arr items) => rowItems items
  | _ => none

/-- `EventsFileJson::Unmarshal`; the report time is optional. -/
def unmarshalFile (node : Json) : Option EventsFile := do
  let nextId ← getInt64 node "nextId"
  let events ← getRows node "events"
  some { events := events, nextId := nextId,
         lastReportTime := ((getInt64 node "lastReportTime").getD 0).toUInt64 }

/-! ## The file -/

section File

variable (cjson : CJson)

/-- `WriteEvents`, when it succeeds: the text of the file. -/
def writeEvents (file : EventsFile) : String := cjson.print (.obj file.marshal)

/-- `LoadEvents` of a file that can be read.  A text that does not unmarshal is set aside and
the store starts fresh. -/
def loadEvents : Option String → EventsFile
  | none => {}
  | some text =>
      let content := readFile text
      if content = "" then {}
      else
        match (cjson.parse (cStr content)).bind unmarshalFile with
        | some file => file
        | none => {}

end File

/-! ## Round trip -/

/-- The integers of a row are exact doubles, its name is a C string. -/
structure StoredRow.Fits (row : StoredRow) : Prop where
  id : row.id.toInt.natAbs ≤ 2 ^ 53
  ts : row.ts.toInt.natAbs ≤ 2 ^ 53
  happenTime : row.happenTime.toInt.natAbs ≤ 2 ^ 53
  durations : ∀ i, (row.durations i).toNat ≤ 2 ^ 53
  showCount : row.showCount.toNat < 2 ^ 31
  bundleName : NulFree row.bundleName

structure EventsFile.Fits (file : EventsFile) : Prop where
  events : ∀ row ∈ file.events, row.Fits
  nextId : file.nextId.toInt.natAbs ≤ 2 ^ 53
  lastReportTime : file.lastReportTime.toNat ≤ 2 ^ 53

section Row

variable {row : StoredRow}

theorem StoredRow.Fits.small_durations (fits : row.Fits) :
    ∀ n ∈ List.ofFn row.durations, n.toNat ≤ 2 ^ 53 := by
  intro n member
  obtain ⟨i, rfl⟩ := List.mem_ofFn.1 member
  exact fits.durations i

theorem showCount_marshal (fits : row.Fits) :
    (getUInt32 (.obj row.marshal) "showCount").getD 0 = row.showCount := by
  by_cases none : row.showCount = 0
  · have missing : getSubNode (.obj row.marshal) "showCount" = .none :=
      getSubNode_of_missing (by decide) (by simp [StoredRow.marshal, sameKey, none])
    rw [getUInt32, missing, none]
    rfl
  · have found : getSubNode (.obj row.marshal) "showCount" = some (ofUInt32 row.showCount) :=
      getSubNode_of_find (by decide) (by simp [StoredRow.marshal, sameKey, none])
    rw [getUInt32_of found fits.showCount]
    rfl

theorem durations_marshal (fits : row.Fits) :
    unmarshalDurations (.obj row.marshal) = some row.durations := by
  by_cases empty : isDurationMapEmpty row.durations = true
  · have missing : getSubNode (.obj row.marshal) "durations" = none :=
      getSubNode_of_missing (by decide) (by
        by_cases none : row.showCount = 0 <;> simp [StoredRow.marshal, sameKey, empty, none])
    have zero : row.durations = fun _ => 0 := funext (of_decide_eq_true empty)
    rw [unmarshalDurations, getUInt64s, missing, zero]
    rfl
  · have found : getSubNode (.obj row.marshal) "durations" =
        some (ofUInt64s (List.ofFn row.durations)) :=
      getSubNode_of_find (by decide) (by
        by_cases none : row.showCount = 0 <;> simp [StoredRow.marshal, sameKey, empty, none])
    have twelve : (List.ofFn row.durations).length = durationCount := List.length_ofFn
    rw [unmarshalDurations, getUInt64s_of found fits.small_durations]
    show (if same : _ then some _ else none) = _
    rw [dif_pos twelve]
    exact congrArg some (funext fun i => List.get_ofFn row.durations _)

/-- A row comes back, with and without its optional fields. -/
theorem unmarshalRow_marshal (fits : row.Fits) : unmarshalRow (.obj row.marshal) = some row := by
  have id : getInt64 (.obj row.marshal) "id" = some row.id :=
    getInt64_of (getSubNode_of_find (by decide) (by simp [StoredRow.marshal, sameKey])) fits.id
  have rawid : getInt32 (.obj row.marshal) "rawid" = some row.rawid :=
    getInt32_of (getSubNode_of_find (by decide) (by simp [StoredRow.marshal, sameKey]))
  have ts : getInt64 (.obj row.marshal) "ts" = some row.ts :=
    getInt64_of (getSubNode_of_find (by decide) (by simp [StoredRow.marshal, sameKey])) fits.ts
  have happenTime : getInt64 (.obj row.marshal) "happenTime" = some row.happenTime :=
    getInt64_of (getSubNode_of_find (by decide) (by simp [StoredRow.marshal, sameKey]))
      fits.happenTime
  have bundleName : getString (.obj row.marshal) "bundleName" = some row.bundleName :=
    getString_of (getSubNode_of_find (by decide) (by simp [StoredRow.marshal, sameKey]))
      fits.bundleName
  have preScreenStatus : getInt32 (.obj row.marshal) "preScreenStatus" = some row.preScreenStatus :=
    getInt32_of (getSubNode_of_find (by decide) (by simp [StoredRow.marshal, sameKey]))
  have screenStatus : getInt32 (.obj row.marshal) "screenStatus" = some row.screenStatus :=
    getInt32_of (getSubNode_of_find (by decide) (by simp [StoredRow.marshal, sameKey]))
  simp only [unmarshalRow, id, rawid, ts, happenTime, bundleName, preScreenStatus, screenStatus,
    durations_marshal fits, showCount_marshal fits, Option.bind_eq_bind, Option.bind_some]

/-- What a row is written as is a tree that cJSON holds. -/
theorem plain_marshal (fits : row.Fits) : Plain (.obj row.marshal) := by
  show PlainFields row.marshal
  rw [plainFields_iff]
  intro field member
  simp only [StoredRow.marshal, List.mem_append, List.mem_cons, List.not_mem_nil, or_false] at member
  obtain (rfl | rfl | rfl | rfl | rfl | rfl | rfl) | shows | durations := member
  · exact ⟨(by decide : NulFree "id"), plain_ofInt64 fits.id⟩
  · exact ⟨(by decide : NulFree "rawid"), plain_ofInt32 _⟩
  · exact ⟨(by decide : NulFree "ts"), plain_ofInt64 fits.ts⟩
  · exact ⟨(by decide : NulFree "happenTime"), plain_ofInt64 fits.happenTime⟩
  · exact ⟨(by decide : NulFree "bundleName"), plain_ofString _⟩
  · exact ⟨(by decide : NulFree "preScreenStatus"), plain_ofInt32 _⟩
  · exact ⟨(by decide : NulFree "screenStatus"), plain_ofInt32 _⟩
  · split at shows
    · obtain rfl := List.mem_singleton.1 shows
      exact ⟨(by decide : NulFree "showCount"), plain_ofUInt32 _⟩
    · cases shows
  · split at durations
    · cases durations
    · obtain rfl := List.mem_singleton.1 durations
      exact ⟨(by decide : NulFree "durations"), plain_ofUInt64s fits.small_durations⟩

theorem rowItems_marshal {rows : List StoredRow} (fits : ∀ row ∈ rows, row.Fits) :
    rowItems (rows.map fun row => .obj row.marshal) = some rows := by
  induction rows with
  | nil => rfl
  | cons row rows ih =>
      rw [List.forall_mem_cons] at fits
      simp only [List.map_cons, rowItems, unmarshalRow_marshal fits.1, ih fits.2,
        Option.bind_eq_bind, Option.bind_some]

end Row

section LoadWrite

variable {cjson : CJson} {file : EventsFile}

theorem toInt_toInt64 {n : UInt64} (small : n.toNat ≤ 2 ^ 53) : n.toInt64.toInt = n.toNat := by
  have same : n.toInt64.toInt = n.toBitVec.toInt := rfl
  rw [same, BitVec.toInt_eq_toNat_of_lt (by show 2 * n.toNat < 2 ^ 64; omega)]
  rfl

theorem EventsFile.Fits.reportTime (fits : file.Fits) :
    file.lastReportTime.toInt64.toInt.natAbs ≤ 2 ^ 53 := by
  rw [toInt_toInt64 fits.lastReportTime]
  exact fits.lastReportTime

theorem unmarshalFile_marshal (fits : file.Fits) : unmarshalFile (.obj file.marshal) = some file := by
  have nextId : getInt64 (.obj file.marshal) "nextId" = some file.nextId :=
    getInt64_of (getSubNode_of_find (by decide) (by simp [EventsFile.marshal, sameKey])) fits.nextId
  have report : getInt64 (.obj file.marshal) "lastReportTime" = some file.lastReportTime.toInt64 :=
    getInt64_of (getSubNode_of_find (by decide) (by simp [EventsFile.marshal, sameKey]))
      fits.reportTime
  have found : getSubNode (.obj file.marshal) "events" =
      some (.arr (file.events.map fun row => .obj row.marshal)) :=
    getSubNode_of_find (by decide) (by simp [EventsFile.marshal, sameKey])
  have rows : getRows (.obj file.marshal) "events" = some file.events := by
    rw [getRows, found]
    exact rowItems_marshal fits.events
  simp only [unmarshalFile, nextId, rows, report, Option.bind_eq_bind, Option.bind_some,
    Option.getD_some, UInt64.toUInt64_toInt64]

theorem plain_file (fits : file.Fits) : Plain (.obj file.marshal) := by
  show PlainFields file.marshal
  rw [plainFields_iff]
  intro field member
  simp only [EventsFile.marshal, List.mem_cons, List.not_mem_nil, or_false] at member
  obtain rfl | rfl | rfl := member
  · exact ⟨(by decide : NulFree "nextId"), plain_ofInt64 fits.nextId⟩
  · exact ⟨(by decide : NulFree "lastReportTime"), plain_ofInt64 fits.reportTime⟩
  · refine ⟨(by decide : NulFree "events"), ?_⟩
    show PlainItems (file.events.map fun row => .obj row.marshal)
    rw [plainItems_iff]
    intro item inside
    obtain ⟨row, isRow, rfl⟩ := List.mem_map.1 inside
    exact plain_marshal (fits.events row isRow)

/-- **Loading what was written.**  For every list of rows, `nextId` and report time whose
integers are exact doubles, whose show counts fit `int32` and whose names are C strings,
loading after a write that succeeded returns all three as they were. -/
theorem load_after_write (lawful : cjson.Lawful) (fits : file.Fits) :
    loadEvents cjson (some (writeEvents cjson file)) = file := by
  have text : readFile (writeEvents cjson file) = writeEvents cjson file := lawful.readFile_print _
  have whole : cStr (writeEvents cjson file) = writeEvents cjson file := lawful.cStr_print _
  have parsed : cjson.parse (writeEvents cjson file) = some (.obj file.marshal) :=
    lawful.parse_print _ (plain_file fits)
  have nonempty : writeEvents cjson file ≠ "" := lawful.nonempty _
  simp only [loadEvents, text, if_neg nonempty, whole, parsed, Option.bind_some,
    unmarshalFile_marshal fits]

end LoadWrite

/-! ## Poles -/

/-- A start row without shows and durations, and a count row at the bounds. -/
def twoRows : EventsFile where
  events :=
    [{ id := 1, rawid := 1001, ts := 1000, happenTime := -1, bundleName := "com.example.ime" },
     { id := 9007199254740992, rawid := 1004, ts := 2000, happenTime := 2000,
       bundleName := "\"\n", preScreenStatus := -2147483648, screenStatus := 2147483647,
       durations := fun i => if i.val = 3 then 9007199254740992 else 0, showCount := 2147483647 }]
  nextId := 9007199254740992
  lastReportTime := 9007199254740992

theorem twoRows_fits : twoRows.Fits where
  events := by
    intro row member
    simp only [twoRows, List.mem_cons, List.not_mem_nil, or_false] at member
    obtain rfl | rfl := member
    · exact ⟨by decide, by decide, by decide, by decide, by decide, by decide⟩
    · exact ⟨by decide, by decide, by decide, by decide, by decide, by decide⟩
  nextId := by decide
  lastReportTime := by decide

theorem two_rows_loaded : loadEvents compact (some (writeEvents compact twoRows)) = twoRows :=
  load_after_write compact_lawful twoRows_fits

end Imf.Usage
