/-
# Imf.HiSysEvent.Statistics -- attachments and shows, counted in rows

The service counts how its clients were attached and shown, in six intervals of half an hour, in rows
whose keys name the input method by its place in a list that grows as it is met.  Every three hours
the timer takes the rows and the list, and reports them.

A `Row` says what a row counts; the rows of two outcomes are one exactly when their keys are
(`Row.tells`), which is a field, and the places in the list do not move (`addIfAbsent_place`).
`statistics_exact` puts it together: over any run, every outcome is counted once, in the row of
its input method, in one report or in what is still there.
-/
import Mathlib.Data.List.Nodup
import Imf.HiSysEvent.Faults

namespace Imf.HiSysEvent

set_option autoImplicit false

open Lib HiSysEvent.ErrorCode

/-! ## The rows -/

def countStatisticsIntervalNum : Nat := 6

def maxCountDistributionsInterval : Nat := 10

structure CountDistributionInfo where
  count : Int32 := 0
  countDistributions : List (List (String × UInt32))
  deriving DecidableEq, Repr

def CountDistributionInfo.new (intervalNum : Nat) : CountDistributionInfo where
  countDistributions := List.replicate (min intervalNum maxCountDistributionsInterval) []

/-- The row of `key` counts one more, or is added. -/
def countRow (key : String) (rows : List (String × UInt32)) : List (String × UInt32) :=
  upsert (fun row => decide (row.1 = key)) (fun row => (row.1, row.2 + 1)) (key, 1) rows

def CountDistributionInfo.modCountDistributions (intervalIndex : Nat) (key : String)
    (info : CountDistributionInfo) :
    CountDistributionInfo where
  count := info.count + 1
  countDistributions := info.countDistributions.modify intervalIndex (countRow key)

structure SuccessRateStatistics where
  succeedInfo : CountDistributionInfo
  failedInfo : CountDistributionInfo
  deriving DecidableEq, Repr

/-- `ClientAttachAllInfo` and `ClientShowAllInfo`. -/
structure ClientAllInfo where
  appNames : List String := []
  imeNames : List String := []
  succeedRateInfo : SuccessRateStatistics
  deriving DecidableEq, Repr

def ClientAllInfo.new (succeedIntervalNum failedIntervalNum : Nat) : ClientAllInfo where
  succeedRateInfo := ⟨.new succeedIntervalNum, .new failedIntervalNum⟩

/-- `AddIfAbsent`, with the text of the place. -/
def addIfAbsent (bundleName : String) (bundleNames : List String) : String × List String :=
  match bundleNames.findIdx? fun bundleNameTmp => decide (bundleName = bundleNameTmp) with
  | none =>
      let bundleNames := bundleNames ++ [bundleName]
      (decimal (bundleNames.length - 1 : Nat), bundleNames)
  | some place => (decimal place, bundleNames)

/-- What the keys of one statistic are made of: the place of the application, and for a failure that of
the input method and `kind`. -/
structure Row (κ : Type) where
  succeedKey : String → HiSysOriginalInfo → String
  failedKey : String → String → HiSysOriginalInfo → String
  kind : HiSysOriginalInfo → κ
  /-- All that succeed are counted in one row. -/
  one : ∀ app info info', info.errCode = noError → info'.errCode = noError →
    succeedKey app info = succeedKey app info'
  /-- The key of a failure tells the input method and the kind. -/
  tells : ∀ (app : String) (i j : Nat) info info',
    failedKey app (decimal i) info = failedKey app (decimal j) info' ↔ i = j ∧ kind info = kind info'

/-- `RecordClientAttachStatistics` and `RecordClientShowStatistics`, but for the keys. -/
def Row.record {κ : Type} (row : Row κ) (intervalIndex : Nat) (info : HiSysOriginalInfo)
    (all : ClientAllInfo) :
    ClientAllInfo :=
  let (appIndex, appNames) := addIfAbsent "*" all.appNames
  let (imeIndex, imeNames) := addIfAbsent info.imeName all.imeNames
  let succeedRateInfo :=
    if info.errCode = noError then
      { all.succeedRateInfo with
        succeedInfo := all.succeedRateInfo.succeedInfo.modCountDistributions intervalIndex
          (row.succeedKey appIndex info) }
    else
      { all.succeedRateInfo with
        failedInfo :=
          all.succeedRateInfo.failedInfo.modCountDistributions intervalIndex
            (row.failedKey appIndex imeIndex info) }
  { appNames, imeNames, succeedRateInfo }

/-- The characters of fields with slashes between them. -/
theorem slashed (a b : String) : (a ++ "/" ++ b).toList = a.toList ++ '/' :: b.toList := by
  rw [String.toList_append, String.toList_append, List.append_assoc]
  rfl

/-- A number behind the last slash can be cut off. -/
theorem cut_decimal {a b : String} {m n : Int} :
    a ++ "/" ++ decimal m = b ++ "/" ++ decimal n ↔ a = b ∧ m = n := by
  constructor
  · intro same
    have texts := congrArg String.toList same
    rw [slashed, slashed] at texts
    obtain ⟨before, behind⟩ := (cut_last (decimal_slash m) (decimal_slash n)).1 texts
    exact ⟨String.toList_inj.1 before, decimal_injective (String.toList_inj.1 behind)⟩
  · rintro ⟨rfl, rfl⟩
    rfl

def attachRow : Row (UInt32 × Int32) where
  succeedKey appIndex _ := appIndex
  failedKey appIndex imeIndex info :=
    appIndex ++ "/" ++ imeIndex ++ "/" ++ decimal info.clientType.toNat ++ "/" ++
      decimal info.errCode.toInt
  kind info := (info.clientType, info.errCode)
  one _ _ _ _ _ := rfl
  tells app i j info info' := by
    rw [cut_decimal, cut_decimal, cut_decimal]
    simp [Int32.toInt_inj, UInt32.toNat_inj, and_assoc]

def showRow : Row (UInt32 × Int32 × Int32) where
  succeedKey appIndex info := appIndex ++ "/" ++ decimal info.errCode.toInt
  failedKey appIndex imeIndex info :=
    appIndex ++ "/" ++ imeIndex ++ "/" ++ decimal info.clientType.toNat ++ "/" ++
      decimal info.eventCode.toInt ++ "/" ++
      decimal info.errCode.toInt
  kind info := (info.clientType, info.eventCode, info.errCode)
  one _ _ _ done done' := by rw [done, done']
  tells app i j info info' := by
    rw [cut_decimal, cut_decimal, cut_decimal, cut_decimal]
    simp [Int32.toInt_inj, UInt32.toNat_inj, and_assoc]

def recordClientAttachStatistics : Nat → HiSysOriginalInfo → ClientAllInfo → ClientAllInfo :=
  attachRow.record

def recordClientShowStatistics : Nat → HiSysOriginalInfo → ClientAllInfo → ClientAllInfo :=
  showRow.record

/-! ## The reporter -/

/-- What `ImfHiSysEventUtil::ReportStatisticsEvent` is given. -/
structure StatisticsReport where
  event : ImfStatisticsEvent
  all : ClientAllInfo
  deriving DecidableEq, Repr

/-- `timerId` is whether the timer is registered. -/
structure Statistics where
  timerId : Bool := false
  timerStartTime : Int := 0
  clientAttachInfo : ClientAllInfo := .new countStatisticsIntervalNum countStatisticsIntervalNum
  clientShowInfo : ClientAllInfo := .new countStatisticsIntervalNum countStatisticsIntervalNum
  reports : List StatisticsReport := []

def hisyseventStatisticsInternal : Int := 30 * 60 * 1000

/-- `setup`: the timer can be created. -/
def startTimer (setup : Bool) (curTime : Int) (s : Statistics) : Statistics :=
  if s.timerId then s
  else if ¬ setup then s
  else { s with timerId := true, timerStartTime := curTime }

def getStatisticalIntervalIndex (timerStartTime time : Int) : Nat :=
  let index := (time - timerStartTime).tdiv hisyseventStatisticsInternal
  if index < 0 then 0
  else if index ≥ countStatisticsIntervalNum then countStatisticsIntervalNum - 1
  else index.toNat

/-- `RecordStatisticsEvent` of the service. -/
def recordStatisticsEvent (time : Int) (event : ImfStatisticsEvent) (info : HiSysOriginalInfo)
    (s : Statistics) :
    Statistics :=
  let intervalIndex := getStatisticalIntervalIndex s.timerStartTime time
  match event with
  | .clientAttachStatistics =>
      { s with clientAttachInfo := recordClientAttachStatistics intervalIndex info s.clientAttachInfo }
  | .clientShowStatistics =>
      { s with clientShowInfo := recordClientShowStatistics intervalIndex info s.clientShowInfo }
  | _ => s

def reportStatisticsEvent (time : Int) (s : Statistics) : Statistics :=
  { s with
    timerStartTime := time
    clientAttachInfo := .new countStatisticsIntervalNum countStatisticsIntervalNum
    clientShowInfo := .new countStatisticsIntervalNum countStatisticsIntervalNum
    reports := s.reports ++
      (if s.clientAttachInfo.appNames ≠ [] then
        [⟨.clientAttachStatistics, s.clientAttachInfo⟩] else []) ++
      (if s.clientShowInfo.appNames ≠ [] then [⟨.clientShowStatistics, s.clientShowInfo⟩] else []) }

inductive StatisticsStep where
  /-- `ReportEvent`, with when the timer is started and when the event is recorded. -/
  | reportEvent (setup : Bool) (startTime time : Int) (eventType : ImfEventType)
      (info : HiSysOriginalInfo)
  /-- The timer. -/
  | reportStatisticsEvent (time : Int)

def Statistics.step (s : Statistics) : StatisticsStep → Statistics
  | .reportEvent setup startTime time eventType info =>
      recordStatisticsEvent time (eventMapping eventType).2 info (startTimer setup startTime s)
  | .reportStatisticsEvent time => reportStatisticsEvent time s

/-! ## What a row says -/

/-- The place of a name in a list. -/
def placeOf (bundleName : String) (bundleNames : List String) : Option Nat :=
  bundleNames.findIdx? fun bundleNameTmp => decide (bundleName = bundleNameTmp)

/-- The number in the row of a key. -/
def CountDistributionInfo.counted (info : CountDistributionInfo) (interval : Nat)
    (key : String) : Nat :=
  ((info.countDistributions[interval]?.bind (lookup Prod.fst key)).map fun row => row.2.toNat).getD 0

section Row

variable {κ : Type} (row : Row κ)

/-- The number in the row of an outcome, as a reader of the report finds it: by the place of the input
method in the list that comes with the rows. -/
def Row.counted (all : ClientAllInfo) (interval : Nat) (info : HiSysOriginalInfo) : Nat :=
  if info.errCode = noError then all.succeedRateInfo.succeedInfo.counted interval
    (row.succeedKey (decimal 0) info)
  else
    match placeOf info.imeName all.imeNames with
    | none => 0
    | some place => all.succeedRateInfo.failedInfo.counted interval (row.failedKey (decimal 0)
        (decimal place) info)

/-- Two outcomes are counted in one row. -/
def Row.Same (info info' : HiSysOriginalInfo) : Prop :=
  (info.errCode = noError ↔ info'.errCode = noError) ∧
    (info.errCode ≠ noError → info.imeName = info'.imeName ∧ row.kind info = row.kind info')

instance [DecidableEq κ] (info info' : HiSysOriginalInfo) : Decidable (row.Same info info') :=
  inferInstanceAs (Decidable (_ ∧ (_ → _)))

/-- After `n` outcomes no row has counted more, and the rows of failures are of listed input methods.
An application is listed with the first outcome. -/
structure Row.Sound (n : Nat) (all : ClientAllInfo) : Prop where
  apps : all = .new countStatisticsIntervalNum countStatisticsIntervalNum ∨ all.appNames = ["*"]
  succeeds : all.succeedRateInfo.succeedInfo.countDistributions.length = countStatisticsIntervalNum
  fails : all.succeedRateInfo.failedInfo.countDistributions.length = countStatisticsIntervalNum
  few : ∀ rows ∈ all.succeedRateInfo.succeedInfo.countDistributions ++
    all.succeedRateInfo.failedInfo.countDistributions,
    ∀ r ∈ rows, r.2.toNat ≤ n
  placed : ∀ rows ∈ all.succeedRateInfo.failedInfo.countDistributions, ∀ r ∈ rows,
    ∃ place < all.imeNames.length, ∃ info, r.1 = row.failedKey (decimal 0) (decimal place) info

end Row

/-! ## Places -/

theorem placeOf_append {name : String} (names : List String) (more : List String) :
    placeOf name (names ++ more) = (placeOf name names).or
      ((placeOf name more).map (· + names.length)) := by
  unfold placeOf
  rw [List.findIdx?_append]

theorem placeOf_lt {name : String} {names : List String} {place : Nat}
    (found : placeOf name names = some place) :
    place < names.length := by
  obtain ⟨inside, -⟩ := List.findIdx?_eq_some_iff_findIdx_eq.1 found
  exact inside

/-- No two names have one place. -/
theorem placeOf_injective {a b : String} {names : List String} {place : Nat}
    (found : placeOf a names = some place) (found' : placeOf b names = some place) : a = b := by
  unfold placeOf at found found'
  rw [List.findIdx?_eq_some_iff_getElem] at found found'
  obtain ⟨_, isA, -⟩ := found
  obtain ⟨_, isB, -⟩ := found'
  exact (of_decide_eq_true isA).trans (of_decide_eq_true isB).symm

/-- **The place is that of the new list, and no other one moves.** -/
theorem addIfAbsent_place (name : String) (names : List String) :
    (∃ place : Nat, (addIfAbsent name names).1 = decimal place ∧
      placeOf name (addIfAbsent name names).2 = some place) ∧
      (∀ other place, placeOf other names = some place →
        placeOf other (addIfAbsent name names).2 = some place) ∧
      (∀ other, other ≠ name → placeOf other (addIfAbsent name names).2 = placeOf other names) ∧
      names.length ≤ (addIfAbsent name names).2.length ∧
      (placeOf name names = none → placeOf name (addIfAbsent name names).2 = some names.length) := by
  unfold addIfAbsent
  cases found : names.findIdx? fun bundleNameTmp => decide (name = bundleNameTmp) with
  | some place =>
      refine ⟨⟨place, rfl, found⟩, fun _ _ there => there, fun _ _ => rfl, le_rfl, fun absent => ?_⟩
      rw [placeOf, found] at absent
      cases absent
  | none =>
      have absent : placeOf name names = none := found
      have last : placeOf name [name] = some 0 := by
        unfold placeOf
        simp [List.findIdx?_cons]
      have grown : placeOf name (names ++ [name]) = some names.length := by
        rw [placeOf_append, absent, last]
        simp
      dsimp only
      rw [List.length_append, List.length_singleton, Nat.add_sub_cancel]
      refine ⟨⟨names.length, rfl, grown⟩,
        fun other place there => ?_, fun other differs => ?_, by omega, fun _ => grown⟩
      · rw [placeOf_append, there]
        rfl
      · have away : placeOf other [name] = none := by
          unfold placeOf
          simp [List.findIdx?_cons, differs]
        rw [placeOf_append, away]
        simp

/-! ## Counting once -/

theorem lookup_countRow (key k : String) (rows : List (String × UInt32)) :
    lookup Prod.fst k (countRow key rows) =
      if k = key then some (((lookup Prod.fst key rows).map fun row => (row.1, row.2 + 1)).getD
        (key, 1))
      else lookup Prod.fst k rows :=
  @lookup_upsert (String × UInt32) String Prod.fst (fun row => (row.1, row.2 + 1)) _
    (fun _ => rfl) key (key, 1) rfl k
    rows

theorem mem_countRow {key : String} {rows : List (String × UInt32)} {r : String × UInt32}
    (member : r ∈ countRow key rows) :
    r ∈ rows ∨ (∃ old ∈ rows, r = (old.1, old.2 + 1)) ∨ r = (key, 1) :=
  mem_upsert member

theorem counted_eq_zero {info : CountDistributionInfo} {interval : Nat} {key : String}
    (absent : ∀ rows ∈ info.countDistributions, ∀ r ∈ rows, r.1 ≠ key) :
    info.counted interval key = 0 := by
  unfold CountDistributionInfo.counted
  cases there : info.countDistributions[interval]? with
  | none => rfl
  | some rows =>
      have gone : lookup Prod.fst key rows = none := by
        rw [lookup_none, List.mem_map]
        rintro ⟨r, inside, same⟩
        exact absent rows (List.mem_of_getElem? there) r inside same
      rw [Option.bind_some, gone]
      rfl

/-- Counting a key once shows in its row of that interval alone. -/
theorem counted_modCountDistributions {info : CountDistributionInfo} {n place : Nat}
    (few : ∀ rows ∈ info.countDistributions, ∀ r ∈ rows, r.2.toNat ≤ n) (room : n + 1 < 2 ^ 32)
    (inside : place < info.countDistributions.length) (key : String) (interval : Nat) (k : String) :
    (info.modCountDistributions place key).counted interval k =
      info.counted interval k + if interval = place ∧ k = key then 1 else 0 := by
  unfold CountDistributionInfo.counted CountDistributionInfo.modCountDistributions
  dsimp only
  rw [List.getElem?_modify]
  by_cases here : place = interval
  · subst here
    obtain ⟨rows, there⟩ : ∃ rows,
      info.countDistributions[place]? = some rows := ⟨_, List.getElem?_eq_getElem inside⟩
    rw [there]
    simp only [Option.map_eq_map, Option.map_some, Option.bind_some, if_true, true_and]
    rw [lookup_countRow]
    by_cases same : k = key
    · subst same
      rw [if_pos rfl, if_pos rfl]
      cases found : lookup Prod.fst k rows with
      | none => rfl
      | some r =>
          have small := few rows (List.mem_of_getElem? there) r (lookup_mem found).1
          simp only [Option.map_some, Option.getD_some]
          exact toNat_succ (by omega)
    · rw [if_neg same, if_neg same, Nat.add_zero]
  · rw [if_neg fun both => here both.1.symm, Nat.add_zero]
    simp only [if_neg here]
    cases info.countDistributions[interval]? <;> rfl

theorem few_modCountDistributions {info : CountDistributionInfo} {n : Nat}
    (few : ∀ rows ∈ info.countDistributions, ∀ r ∈ rows, r.2.toNat ≤ n)
    (room : n + 1 < 2 ^ 32) (place : Nat) (key : String) :
    ∀ rows ∈ (info.modCountDistributions place key).countDistributions,
      ∀ r ∈ rows, r.2.toNat ≤ n + 1 := by
  intro rows member r inside
  rcases mem_modify member with old | ⟨before, old, rfl⟩
  · exact (few rows old r inside).trans (Nat.le_succ n)
  · rcases mem_countRow inside with same | ⟨r', same, rfl⟩ | rfl
    · exact (few before old r same).trans (Nat.le_succ n)
    · have small := few before old r' same
      dsimp only
      rw [toNat_succ (by omega)]
      omega
    · exact Nat.le_add_left 1 n

theorem keys_modCountDistributions {info : CountDistributionInfo} {P : String → Prop}
    {place : Nat} {key : String}
    (all : ∀ rows ∈ info.countDistributions, ∀ r ∈ rows, P r.1) (new : P key) :
    ∀ rows ∈ (info.modCountDistributions place key).countDistributions, ∀ r ∈ rows, P r.1 := by
  intro rows member r inside
  rcases mem_modify member with old | ⟨before, old, rfl⟩
  · exact all rows old r inside
  · rcases mem_countRow inside with same | ⟨r', same, rfl⟩ | rfl
    · exact all before old r same
    · exact all before old r' same
    · exact new

theorem length_modCountDistributions (info : CountDistributionInfo) (place : Nat) (key : String) :
    (info.modCountDistributions place key).countDistributions.length = info.countDistributions.length :=
  List.length_modify _ _ _

/-! ## Recording once -/

section Record

variable {κ : Type} {row : Row κ} {n : Nat} {all : ClientAllInfo}

/-- The application is always `*`, the first in its list. -/
theorem Row.Sound.app (sound : row.Sound n all) :
    addIfAbsent "*" all.appNames = (decimal 0, ["*"]) := by
  rcases sound.apps with none | one
  · rw [none]
    rfl
  · rw [one]
    rfl

theorem Row.record_succeed (sound : row.Sound n all) {info : HiSysOriginalInfo}
    (done : info.errCode = noError) (interval : Nat) :
    row.record interval info all =
      { appNames := ["*"], imeNames := (addIfAbsent info.imeName all.imeNames).2,
        succeedRateInfo := { all.succeedRateInfo with
          succeedInfo := all.succeedRateInfo.succeedInfo.modCountDistributions interval
            (row.succeedKey (decimal 0) info) } } := by
  unfold Row.record
  rw [sound.app]
  dsimp only
  rw [if_pos done]

theorem Row.record_fail (sound : row.Sound n all) {info : HiSysOriginalInfo}
    (failed : info.errCode ≠ noError) (interval : Nat) :
    row.record interval info all =
      { appNames := ["*"], imeNames := (addIfAbsent info.imeName all.imeNames).2,
        succeedRateInfo := { all.succeedRateInfo with
          failedInfo := all.succeedRateInfo.failedInfo.modCountDistributions interval
            (row.failedKey (decimal 0) (addIfAbsent info.imeName all.imeNames).1 info) } } := by
  unfold Row.record
  rw [sound.app]
  dsimp only
  rw [if_neg failed]

theorem Row.Sound.record (sound : row.Sound n all) (room : n + 1 < 2 ^ 32) (interval : Nat)
    (info : HiSysOriginalInfo) :
    row.Sound (n + 1) (row.record interval info all) := by
  obtain ⟨⟨place, text, there⟩, -, -, longer, -⟩ := addIfAbsent_place info.imeName all.imeNames
  have fewSucceed := fun rows member => sound.few rows (List.mem_append_left _ member)
  have fewFailed := fun rows member => sound.few rows (List.mem_append_right _ member)
  have placed : ∀ rows ∈ all.succeedRateInfo.failedInfo.countDistributions, ∀ r ∈ rows,
      ∃ place < (addIfAbsent info.imeName all.imeNames).2.length, ∃ info,
        r.1 = row.failedKey (decimal 0) (decimal place) info := by
    intro rows member r inside
    obtain ⟨place, low, of⟩ := sound.placed rows member r inside
    exact ⟨place, by omega, of⟩
  by_cases done : info.errCode = noError
  · rw [Row.record_succeed sound done]
    refine ⟨.inr rfl, (length_modCountDistributions _ _ _).trans sound.succeeds,
      sound.fails, ?_, placed⟩
    rw [List.forall_mem_append]
    refine ⟨few_modCountDistributions fewSucceed room _ _, fun rows member r inside => ?_⟩
    exact (fewFailed rows member r inside).trans (Nat.le_succ n)
  · rw [Row.record_fail sound done]
    refine ⟨.inr rfl, sound.succeeds, (length_modCountDistributions _ _ _).trans sound.fails, ?_, ?_⟩
    · rw [List.forall_mem_append]
      refine ⟨fun rows member r inside => ?_, few_modCountDistributions fewFailed room _ _⟩
      exact (fewSucceed rows member r inside).trans (Nat.le_succ n)
    · exact @keys_modCountDistributions _
        (fun key => ∃ place < (addIfAbsent info.imeName all.imeNames).2.length,
        ∃ info, key = row.failedKey (decimal 0) (decimal place) info) _ _ placed
        ⟨place, placeOf_lt there, info, by rw [text]⟩

/-- A place that the list does not have has no row. -/
theorem Row.Sound.unlisted (sound : row.Sound n all) (interval : Nat) (info : HiSysOriginalInfo) :
    all.succeedRateInfo.failedInfo.counted interval
      (row.failedKey (decimal 0) (decimal all.imeNames.length) info) = 0 := by
  apply counted_eq_zero
  intro rows member r inside same
  obtain ⟨place, low, other, key⟩ := sound.placed rows member r inside
  have equal := (row.tells _ place all.imeNames.length other info).1 (key.symm.trans same)
  omega

/-- What has been counted of a failure is found at the place its input method has once another one has
been looked for. -/
theorem Row.counted_at (sound : row.Sound n all) {asked : HiSysOriginalInfo}
    (failed : asked.errCode ≠ noError) (name : String) (interval : Nat) :
    row.counted all interval asked =
      match placeOf asked.imeName (addIfAbsent name all.imeNames).2 with
      | none => 0
      | some place =>
          all.succeedRateInfo.failedInfo.counted interval
            (row.failedKey (decimal 0) (decimal place) asked) := by
  obtain ⟨-, stays, others, -, new⟩ := addIfAbsent_place name all.imeNames
  unfold Row.counted
  rw [if_neg failed]
  cases before : placeOf asked.imeName all.imeNames with
  | some place => rw [stays _ place before]
  | none =>
      by_cases same : asked.imeName = name
      · rw [same] at before ⊢
        rw [new before]
        exact (sound.unlisted interval asked).symm
      · rw [others _ same, before]

/-- **An outcome is counted in its own row.** -/
theorem Row.counted_record [DecidableEq κ] (sound : row.Sound n all)
    (room : n + 1 < 2 ^ 32) {place : Nat}
    (inside : place < countStatisticsIntervalNum) (info : HiSysOriginalInfo) (interval : Nat)
    (asked : HiSysOriginalInfo) :
    row.counted (row.record place info all) interval asked =
      row.counted all interval asked + if interval = place ∧ row.Same asked info then 1 else 0 := by
  obtain ⟨⟨known, text, there⟩, -, -, -, -⟩ := addIfAbsent_place info.imeName all.imeNames
  have fewSucceed := fun rows member => sound.few rows (List.mem_append_left _ member)
  have fewFailed := fun rows member => sound.few rows (List.mem_append_right _ member)
  by_cases done : info.errCode = noError
  · rw [Row.record_succeed sound done]
    by_cases askedDone : asked.errCode = noError
    · have same : row.Same asked info :=
        ⟨iff_of_true askedDone done, fun failed => absurd askedDone failed⟩
      unfold Row.counted
      rw [if_pos askedDone, if_pos askedDone]
      dsimp only
      rw [counted_modCountDistributions fewSucceed room (by rw [sound.succeeds]; exact inside)]
      simp [row.one (decimal 0) asked info askedDone done, same]
    · have differs : ¬ row.Same asked info := fun same => askedDone (same.1.2 done)
      rw [Row.counted_at sound askedDone info.imeName, if_neg fun both => differs both.2]
      unfold Row.counted
      rw [if_neg askedDone]
      rfl
  · rw [Row.record_fail sound done, text]
    by_cases askedDone : asked.errCode = noError
    · have differs : ¬ row.Same asked info := fun same => done (same.1.1 askedDone)
      rw [if_neg fun both => differs both.2]
      unfold Row.counted
      rw [if_pos askedDone, if_pos askedDone]
      rfl
    · rw [Row.counted_at sound askedDone info.imeName]
      unfold Row.counted
      rw [if_neg askedDone]
      dsimp only
      have same : row.Same asked info ↔ asked.imeName = info.imeName ∧
        row.kind asked = row.kind info := by
        unfold Row.Same
        simp [done, askedDone]
      cases found : placeOf asked.imeName (addIfAbsent info.imeName all.imeNames).2 with
      | none =>
          have differs : asked.imeName ≠ info.imeName := by
            intro equal
            rw [equal, there] at found
            cases found
          rw [if_neg fun both => differs (same.1 both.2).1]
      | some askedPlace =>
          dsimp only
          rw [counted_modCountDistributions fewFailed room (by rw [sound.fails]; exact inside)]
          have names : askedPlace = known ↔ asked.imeName = info.imeName := by
            constructor
            · rintro rfl
              exact placeOf_injective found there
            · intro equal
              rw [equal, there] at found
              exact (Option.some.inj found).symm
          simp only [row.tells, same, names]

end Record

/-! ## Runs -/

/-- What the statistic of an event holds. -/
def Statistics.info (s : Statistics) : ImfStatisticsEvent → ClientAllInfo
  | .clientAttachStatistics => s.clientAttachInfo
  | .clientShowStatistics => s.clientShowInfo
  | _ => .new countStatisticsIntervalNum countStatisticsIntervalNum

def reportsOn (event : ImfStatisticsEvent) (s : Statistics) : List StatisticsReport :=
  s.reports.filter fun report => decide (report.event = event)

/-- A statistic that is recorded by `row`, and reported by the timer if there is something in it. -/
structure Kept {κ : Type} (row : Row κ) (event : ImfStatisticsEvent) : Prop where
  records : ∀ time info s, (recordStatisticsEvent time event info s).info event =
    row.record (getStatisticalIntervalIndex s.timerStartTime time) info (s.info event)
  reports : ∀ time s, reportsOn event (reportStatisticsEvent time s) =
    reportsOn event s ++ if (s.info event).appNames ≠ [] then [⟨event, s.info event⟩] else []

theorem attach_kept : Kept attachRow .clientAttachStatistics where
  records _ _ _ := rfl
  reports time s := by
    unfold reportsOn reportStatisticsEvent Statistics.info
    simp only [List.filter_append]
    split_ifs <;> simp

theorem show_kept : Kept showRow .clientShowStatistics where
  records _ _ _ := rfl
  reports time s := by
    unfold reportsOn reportStatisticsEvent Statistics.info
    simp only [List.filter_append]
    split_ifs <;> simp

section Runs

variable {κ : Type} {row : Row κ} {event : ImfStatisticsEvent} {n : Nat} {s : Statistics}

/-- What has been counted of an outcome in an interval, reported or not yet. -/
def booked (row : Row κ) (event : ImfStatisticsEvent) (interval : Nat) (asked : HiSysOriginalInfo)
    (s : Statistics) :
    Nat :=
  ((reportsOn event s).map fun report => row.counted report.all interval asked).sum +
    row.counted (s.info event) interval asked

theorem startTimer_info (setup : Bool) (curTime : Int) (s : Statistics) (event : ImfStatisticsEvent) :
    (startTimer setup curTime s).info event = s.info event ∧
      (startTimer setup curTime s).reports = s.reports := by
  unfold startTimer
  split_ifs <;> cases event <;> exact ⟨rfl, rfl⟩

theorem recordStatisticsEvent_other {other : ImfStatisticsEvent} (differs : other ≠ event) (time : Int)
    (info : HiSysOriginalInfo) (s : Statistics) :
    (recordStatisticsEvent time other info s).info event = s.info event := by
  cases other <;> cases event <;> first | rfl | exact absurd rfl differs

theorem recordStatisticsEvent_reports (other : ImfStatisticsEvent) (time : Int)
    (info : HiSysOriginalInfo)
    (s : Statistics) : (recordStatisticsEvent time other info s).reports = s.reports := by
  cases other <;> rfl

theorem getStatisticalIntervalIndex_lt (timerStartTime time : Int) :
    getStatisticalIntervalIndex timerStartTime time < countStatisticsIntervalNum := by
  unfold getStatisticalIntervalIndex
  dsimp only
  split_ifs with negative last
  · decide
  · decide
  · omega

theorem new_empty {intervalNum : Nat} :
    ∀ rows ∈ (CountDistributionInfo.new intervalNum).countDistributions, rows = [] :=
  fun _ member => List.eq_of_mem_replicate member

theorem sound_new (row : Row κ) (n : Nat) :
    row.Sound n (.new countStatisticsIntervalNum countStatisticsIntervalNum) := by
  refine ⟨.inl rfl, rfl, rfl, ?_, ?_⟩
  · rw [List.forall_mem_append]
    exact ⟨fun rows member r inside => by simp [new_empty rows member] at inside,
      fun rows member r inside => by simp [new_empty rows member] at inside⟩
  · intro rows member r inside
    simp [new_empty rows member] at inside

theorem counted_new (row : Row κ) (interval : Nat) (asked : HiSysOriginalInfo) :
    row.counted (.new countStatisticsIntervalNum countStatisticsIntervalNum) interval asked = 0 := by
  unfold Row.counted
  split_ifs
  · apply counted_eq_zero
    intro rows member r inside
    simp [new_empty rows member] at inside
  · rfl

theorem Row.Sound.mono {m : Nat} {all : ClientAllInfo} (sound : row.Sound n all) (more : n ≤ m) :
    row.Sound m all where
  apps := sound.apps
  succeeds := sound.succeeds
  fails := sound.fails
  few rows member r inside := (sound.few rows member r inside).trans more
  placed := sound.placed

theorem sound_step (kept : Kept row event) (sound : row.Sound n (s.info event)) (room : n + 1 < 2 ^ 32)
    (e : StatisticsStep) : row.Sound (n + 1) ((s.step e).info event) := by
  cases e with
  | reportEvent setup startTime time eventType info =>
      have same := (startTimer_info setup startTime s event).1
      dsimp only [Statistics.step]
      by_cases its : (eventMapping eventType).2 = event
      · rw [its, kept.records, same]
        exact sound.record room _ info
      · rw [recordStatisticsEvent_other its, same]
        exact sound.mono (Nat.le_succ n)
  | reportStatisticsEvent time =>
      have taken : (reportStatisticsEvent time s).info event =
          .new countStatisticsIntervalNum countStatisticsIntervalNum := by
        cases event <;> rfl
      dsimp only [Statistics.step]
      rw [taken]
      exact sound_new row (n + 1)

variable [DecidableEq κ]

/-- Whether a step is such an outcome, in that interval since the last report. -/
def isOutcome (row : Row κ) (event : ImfStatisticsEvent) (interval : Nat)
    (asked : HiSysOriginalInfo) (s : Statistics) :
    StatisticsStep → Bool
  | .reportEvent setup startTime time eventType info =>
      decide ((eventMapping eventType).2 = event ∧
        interval = getStatisticalIntervalIndex (startTimer setup startTime s).timerStartTime time ∧
          row.Same asked info)
  | .reportStatisticsEvent _ => false

theorem step_booked (kept : Kept row event) (sound : row.Sound n (s.info event)) (room : n + 1 < 2 ^ 32)
    (interval : Nat) (asked : HiSysOriginalInfo) (e : StatisticsStep) :
    booked row event interval asked (s.step e) =
      booked row event interval asked s + if isOutcome row event interval asked s e then 1 else 0 := by
  unfold booked
  cases e with
  | reportEvent setup startTime time eventType info =>
      obtain ⟨same, reports⟩ := startTimer_info setup startTime s event
      have written : reportsOn event (s.step (.reportEvent setup startTime time eventType info)) =
        reportsOn event s := by
        dsimp only [Statistics.step]
        rw [reportsOn, recordStatisticsEvent_reports, reports]
        rfl
      rw [written]
      by_cases its : (eventMapping eventType).2 = event
      · have recorded : (s.step (.reportEvent setup startTime time eventType info)).info event =
            row.record (getStatisticalIntervalIndex
              (startTimer setup startTime s).timerStartTime time) info
              (s.info event) := by
          dsimp only [Statistics.step]
          rw [its, kept.records, same]
        rw [recorded, Row.counted_record sound room
          (getStatisticalIntervalIndex_lt _ _) info interval asked]
        simp [isOutcome, its, Nat.add_assoc]
      · have left : (s.step (.reportEvent setup startTime time eventType info)).info event =
          s.info event := by
          dsimp only [Statistics.step]
          rw [recordStatisticsEvent_other its, same]
        rw [left]
        simp [isOutcome, its]
  | reportStatisticsEvent time =>
      have taken : (s.step (.reportStatisticsEvent time)).info event =
          .new countStatisticsIntervalNum countStatisticsIntervalNum := by
        cases event <;> rfl
      have silent : isOutcome row event interval asked s (.reportStatisticsEvent time) = false := rfl
      rw [taken, counted_new, silent]
      dsimp only [Statistics.step]
      rw [kept.reports]
      by_cases something : (s.info event).appNames ≠ []
      · rw [if_pos something]
        simp
      · rw [if_neg something]
        rcases sound.apps with empty | one
        · rw [empty, counted_new]
          simp
        · exact absurd (by rw [one]; simp) something

/-- **Every outcome is counted once, in its own row.** -/
theorem run_booked (kept : Kept row event) (sound : row.Sound n (s.info event))
    {steps : List StatisticsStep}
    (few : n + steps.length < 2 ^ 32) (interval : Nat) (asked : HiSysOriginalInfo) :
    booked row event interval asked (run Statistics.step s steps) =
      booked row event interval asked s +
        along Statistics.step
          (fun s e => if isOutcome row event interval asked s e then 1 else 0) s steps := by
  induction steps generalizing n s with
  | nil => rfl
  | cons e steps ih =>
      rw [List.length_cons] at few
      rw [run_cons, along, ih (sound_step kept sound (by omega) e) (by omega),
        step_booked kept sound (by omega), Nat.add_assoc]

end Runs

/-- **The statistics are exact.**  In any run from the start, the rows of an outcome in all reports and
in what is still to be reported come to the number of such outcomes: those of an interval that succeed,
and of those that fail the ones with this input method, client type, error code and, for shows, event
code. -/
theorem statistics_exact (steps : List StatisticsStep) (few : steps.length < 2 ^ 32) (interval : Nat)
    (asked : HiSysOriginalInfo) :
    booked attachRow .clientAttachStatistics interval asked (run Statistics.step {} steps) =
        along Statistics.step
          (fun s e => if isOutcome attachRow .clientAttachStatistics interval asked s e then 1
            else 0) {} steps ∧
      booked showRow .clientShowStatistics interval asked (run Statistics.step {} steps) =
        along Statistics.step
          (fun s e => if isOutcome showRow .clientShowStatistics interval asked s e then 1 else 0)
            {} steps := by
  have start {κ : Type} [DecidableEq κ] (row : Row κ) {event : ImfStatisticsEvent}
    (kept : Kept row event)
      (empty : booked row event interval asked {} = 0)
        (sound : row.Sound 0 (Statistics.info {} event)) :
      booked row event interval asked (run Statistics.step {} steps) =
        along Statistics.step (fun s e => if isOutcome row event interval asked s e then 1 else 0)
          {} steps := by
    rw [run_booked kept sound (by omega), empty, Nat.zero_add]
  have nothing {κ : Type} [DecidableEq κ] (row : Row κ) :
      0 + row.counted (.new countStatisticsIntervalNum countStatisticsIntervalNum) interval asked =
        0 := by
    rw [counted_new]
  exact ⟨start attachRow attach_kept (nothing attachRow) (sound_new attachRow 0),
    start showRow show_kept (nothing showRow) (sound_new showRow 0)⟩

/-! ## Poles -/

def failedAt (time : Int) (imeName : String) : StatisticsStep :=
  .reportEvent true time time .clientAttach { errCode := 63, imeName, clientType := 0 }

/-- Failures of two input methods before the first report, and one of the second after it. -/
def fourFailures : List StatisticsStep :=
  [failedAt 0 "com.example.one", failedAt 60000 "com.example.two", failedAt 1900000 "com.example.two",
    .reportStatisticsEvent 10800000, failedAt 10900000 "com.example.two"]

/-- In the first half hours the second one failed twice; its place in the two lists is not the same. -/
theorem two_failures_booked :
    booked attachRow .clientAttachStatistics 0
      { errCode := 63, imeName := "com.example.two", clientType := 0 }
        (run Statistics.step {} fourFailures) = 2 ∧
      (booked attachRow .clientAttachStatistics 0
        { errCode := 63, imeName := "com.example.two", clientType := 0 }
            (run Statistics.step {} fourFailures) =
          along Statistics.step (fun s e => if isOutcome attachRow .clientAttachStatistics 0
            { errCode := 63, imeName := "com.example.two", clientType := 0 } s e then 1 else 0)
              {} fourFailures ∧
        booked showRow .clientShowStatistics 0
          { errCode := 63, imeName := "com.example.two", clientType := 0 }
            (run Statistics.step {} fourFailures) =
          along Statistics.step (fun s e => if isOutcome showRow .clientShowStatistics 0
            { errCode := 63, imeName := "com.example.two", clientType := 0 } s e then 1 else 0)
              {} fourFailures) :=
  ⟨rfl, statistics_exact fourFailures (by decide) 0 _⟩

end Imf.HiSysEvent
