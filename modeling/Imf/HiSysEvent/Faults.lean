/-
# Imf.HiSysEvent.Faults -- faults that are reported, held back and forgotten

`ReportFaultEvent` writes the first fault of a kind at once and holds back those of the next five
minutes; the next one after them is written with their number.  `ClearFaultEventInfo` drops a record
ten minutes after its last report, whatever it still holds back.

* `key_injective`: the text of the key tells the kinds apart, also where a name has a slash in it.
* `faults_accounted`: every fault of every run is written, held back or dropped with its record; what is
  dropped was held back more than ten minutes after the last report, and reports of a kind are five
  minutes apart.
-/
import Mathlib.Tactic.SplitIfs
import Imf.Lib.Balance
import Imf.Lib.EntryMap
import Imf.Lib.Separated

namespace Imf.HiSysEvent

set_option autoImplicit false

open Lib

/-! ## What is reported -/

inductive ImfEventType where
  | clientAttach
  | clientShow
  | imeStartInput
  | baseTextOperator
  deriving DecidableEq, Repr

inductive ImfFaultEvent where
  | clientAttachFailed
  | clientShowFailed
  | imeStartInputFailed
  | baseTextOperationFailed
  deriving DecidableEq, Repr

inductive ImfStatisticsEvent where
  | clientAttachStatistics
  | clientShowStatistics
  | imeStartInputStatistics
  | baseTextOperationStatistics
  deriving DecidableEq, Repr

/-- The number of the enumerator. -/
def ImfFaultEvent.value : ImfFaultEvent → Nat
  | .clientAttachFailed => 0
  | .clientShowFailed => 1
  | .imeStartInputFailed => 2
  | .baseTextOperationFailed => 3

/-- `EVENT_MAPPING`. -/
def eventMapping : ImfEventType → ImfFaultEvent × ImfStatisticsEvent
  | .clientAttach => (.clientAttachFailed, .clientAttachStatistics)
  | .clientShow => (.clientShowFailed, .clientShowStatistics)
  | .imeStartInput => (.imeStartInputFailed, .imeStartInputStatistics)
  | .baseTextOperator => (.baseTextOperationFailed, .baseTextOperationStatistics)

/-- The defaults are those of the builder; `clientType` is 5 there, `CLIENT_TYPE_END`. -/
structure HiSysOriginalInfo where
  eventCode : Int32 := 0
  errCode : Int32 := 0
  peerName : String := ""
  peerPid : Int64 := 0
  peerUserId : Int32 := 0
  clientType : UInt32 := 5
  inputPattern : Int32 := 0
  isShowKeyboard : Bool := true
  imeName : String := ""
  imeCbTime : Int32 := -1
  baseTextOperationTime : Int32 := -1
  deriving DecidableEq, Repr

namespace ErrorCode

def noError : Int32 := 0
def errorImaBegin : Int32 := 41
def errorImaEnd : Int32 := 49
def errorImcBegin : Int32 := 50
def errorTextPreviewNotSupported : Int32 := 52
def errorImcEnd : Int32 := 57
def errorImsaBegin : Int32 := 58
def errorStatusPermissionDenied : Int32 := 61
def errorClientNotFocused : Int32 := 62
def errorImsaEnd : Int32 := 97

end ErrorCode

open HiSysEvent.ErrorCode

/-- What the reporters of the service, the client and the input method answer differently. -/
structure ImfHiSysEventReporter where
  isValidErrCode : Int32 → Bool
  isFault : Int32 → Bool

def imsaHiSysEventReporter : ImfHiSysEventReporter where
  isValidErrCode errCode := decide (errorImsaBegin < errCode ∧ errCode < errorImsaEnd)
  isFault errCode := decide (errCode ≠ errorStatusPermissionDenied ∧ errCode ≠ errorClientNotFocused)

def imcHiSysEventReporter : ImfHiSysEventReporter where
  isValidErrCode errCode := ! decide ((errorImaBegin < errCode ∧ errCode < errorImaEnd) ∨
    (errorImsaBegin < errCode ∧ errCode < errorImsaEnd))
  isFault errCode := decide (errCode ≠ errorTextPreviewNotSupported)

def imaHiSysEventReporter : ImfHiSysEventReporter where
  isValidErrCode errCode := ! decide ((errorImcBegin < errCode ∧ errCode < errorImcEnd) ∨
    (errorImsaBegin < errCode ∧ errCode < errorImsaEnd))
  isFault errCode := ! decide ((errorImcBegin < errCode ∧ errCode < errorImcEnd) ∨
    (errorImsaBegin < errCode ∧ errCode < errorImsaEnd))

/-! ## The key -/

def generateFaultEventKey (event : ImfFaultEvent) (info : HiSysOriginalInfo) : String :=
  decimal event.value ++ "/" ++ decimal info.peerUserId.toInt ++ "/" ++ info.peerName ++ "/" ++
    decimal info.eventCode.toInt ++ "/" ++ decimal info.errCode.toInt

/-- What tells faults apart. -/
structure FaultKind where
  event : ImfFaultEvent
  peerUserId : Int32
  peerName : String
  eventCode : Int32
  errCode : Int32
  deriving DecidableEq, Repr

def FaultKind.key (kind : FaultKind) : String :=
  generateFaultEventKey kind.event
    { peerUserId := kind.peerUserId, peerName := kind.peerName, eventCode := kind.eventCode,
      errCode := kind.errCode }

def kindOf (event : ImfFaultEvent) (info : HiSysOriginalInfo) : FaultKind :=
  ⟨event, info.peerUserId, info.peerName, info.eventCode, info.errCode⟩

theorem generateFaultEventKey_kindOf (event : ImfFaultEvent) (info : HiSysOriginalInfo) :
    generateFaultEventKey event info = (kindOf event info).key := rfl

theorem decimal_slash (n : Int) : '/' ∉ (decimal n).toList := by
  unfold decimal
  rw [String.toList_ofList]
  exact writeInt_clean (by decide) (by decide) n

theorem value_injective {a b : ImfFaultEvent} (same : a.value = b.value) : a = b := by
  cases a <;> cases b <;> first | rfl | cases same

/-- **The key tells the kinds apart.**  The name may hold anything: two numbers are cut off before
it and two behind it. -/
theorem key_injective {a b : FaultKind} (same : a.key = b.key) : a = b := by
  obtain ⟨event, peerUserId, peerName, eventCode, errCode⟩ := a
  obtain ⟨event', peerUserId', peerName', eventCode', errCode'⟩ := b
  have texts := congrArg String.toList same
  unfold FaultKind.key generateFaultEventKey at texts
  have slash : ("/" : String).toList = ['/'] := rfl
  simp only [String.toList_append, slash, List.append_assoc, List.singleton_append] at texts
  obtain ⟨sameEvent, texts⟩ := (cut_first (decimal_slash _) (decimal_slash _)).1 texts
  obtain ⟨sameUser, texts⟩ := (cut_first (decimal_slash _) (decimal_slash _)).1 texts
  have regrouped : (peerName.toList ++ '/' :: (decimal eventCode.toInt).toList) ++
    '/' :: (decimal errCode.toInt).toList =
      (peerName'.toList ++ '/' :: (decimal eventCode'.toInt).toList) ++
        '/' :: (decimal errCode'.toInt).toList := by
    rw [List.append_assoc, List.append_assoc]
    exact texts
  obtain ⟨texts, sameErr⟩ := (cut_last (decimal_slash _) (decimal_slash _)).1 regrouped
  obtain ⟨sameName, sameCode⟩ := (cut_last (decimal_slash _) (decimal_slash _)).1 texts
  have number {m n : Int} (digits : (decimal m).toList = (decimal n).toList) : m = n :=
    decimal_injective (String.toList_inj.1 digits)
  cases value_injective (Int.ofNat.inj (number sameEvent))
  cases Int32.toInt_inj.1 (number sameUser)
  cases String.toList_inj.1 sameName
  cases Int32.toInt_inj.1 (number sameCode)
  cases Int32.toInt_inj.1 (number sameErr)
  rfl

/-! ## The records -/

/-- Milliseconds. -/
def faultReportInterval : Int := 5 * 60 * 1000

def faultRetentionPeriod : Int := 10 * 60 * 1000

/-- What a fault handler is given, and when. -/
structure FaultReport where
  event : ImfFaultEvent
  faultNum : Nat
  info : HiSysOriginalInfo
  curTime : Int
  deriving DecidableEq, Repr

/-- Time of the last report and number of faults of every key, and what has been written. -/
structure Faults where
  faultEventRecords : EntryMap String (Int × UInt32) := .empty
  reports : List FaultReport := []

/-- `GenerateFaultReportInfo`: the number to report, if there is to be a report. -/
def generateFaultReportInfo (reporter : ImfHiSysEventReporter) (curTime : Int) (event : ImfFaultEvent)
    (info : HiSysOriginalInfo) (records : EntryMap String (Int × UInt32)) :
    Option Nat × EntryMap String (Int × UInt32) :=
  if info.errCode = noError ∨ ¬ reporter.isValidErrCode info.errCode ∨
    ¬ reporter.isFault info.errCode then
    (none, records)
  else
    let key := generateFaultEventKey event info
    let renewed := (records.insert key (curTime, 1)).alter key fun _ => some (curTime, 1)
    match records.find key with
    | some (time, num) =>
        if curTime - time < faultReportInterval then
          (none, records.alter key fun record => some (record.1, record.2 + 1))
        else (some num.toNat, renewed)
    | none => (some 1, renewed)

def reportFaultEvent (reporter : ImfHiSysEventReporter) (curTime : Int) (event : ImfFaultEvent)
    (info : HiSysOriginalInfo) (s : Faults) : Faults :=
  match generateFaultReportInfo reporter curTime event info s.faultEventRecords with
  | (none, faultEventRecords) => { s with faultEventRecords }
  | (some faultNum, faultEventRecords) =>
      { faultEventRecords, reports := s.reports ++ [{ event, faultNum, info, curTime }] }

/-- `ClearFaultEventInfo`: the first record that is too old goes.  `order` is the order in which the
map is gone through. -/
def clearFaultEventInfo (order : List String) (curTime : Int) (s : Faults) : Faults :=
  let old := fun key => (s.faultEventRecords.find key).any fun record =>
    decide (curTime - record.1 > faultRetentionPeriod)
  match order.find? old with
  | none => s
  | some key => { s with faultEventRecords := s.faultEventRecords.alter key fun _ => none }

inductive FaultStep where
  | reportFaultEvent (curTime : Int) (event : ImfFaultEvent) (info : HiSysOriginalInfo)
  /-- The timer. -/
  | clearFaultEventInfo (curTime : Int) (order : List String)

def FaultStep.time : FaultStep → Int
  | .reportFaultEvent curTime _ _ => curTime
  | .clearFaultEventInfo curTime _ => curTime

def Faults.step (reporter : ImfHiSysEventReporter) (s : Faults) : FaultStep → Faults
  | .reportFaultEvent curTime event info => reportFaultEvent reporter curTime event info s
  | .clearFaultEventInfo curTime order => clearFaultEventInfo order curTime s

/-! ## The books of a kind -/

section Books

variable (reporter : ImfHiSysEventReporter) (kind : FaultKind)

/-- Whether a step is a fault of the kind. -/
def occurs : FaultStep → Bool
  | .reportFaultEvent _ event info =>
      decide (info.errCode ≠ noError) && reporter.isValidErrCode info.errCode &&
        reporter.isFault info.errCode &&
        decide (kindOf event info = kind)
  | .clearFaultEventInfo _ _ => false

def reportsOf (s : Faults) : List FaultReport :=
  s.reports.filter fun report => decide (kindOf report.event report.info = kind)

def reported (s : Faults) : Nat := ((reportsOf kind s).map FaultReport.faultNum).sum

/-- Faults held back: those counted after the one that was reported. -/
def heldBack (s : Faults) : Nat :=
  match s.faultEventRecords.find kind.key with
  | none => 0
  | some record => record.2.toNat - 1

/-- Faults dropped by a step: those it finds held back, when it is the timer that takes the record. -/
def dropped (s : Faults) (e : FaultStep) : Nat :=
  match e with
  | .reportFaultEvent _ _ _ => 0
  | .clearFaultEventInfo _ _ => heldBack kind s - heldBack kind (s.step reporter e)

end Books

variable {reporter : ImfHiSysEventReporter} {kind : FaultKind} {s : Faults}

/-- What a fault does: nothing if it is none; otherwise it is held back or written. -/
theorem reportFaultEvent_cases (reporter : ImfHiSysEventReporter) (curTime : Int)
    (event : ImfFaultEvent) (info : HiSysOriginalInfo) (s : Faults) :
    (occurs reporter (kindOf event info) (.reportFaultEvent curTime event info) = false ∧
        reportFaultEvent reporter curTime event info s = s) ∨
      (occurs reporter (kindOf event info) (.reportFaultEvent curTime event info) = true ∧
        ((∃ time num, s.faultEventRecords.find (kindOf event info).key = some (time, num) ∧
            curTime - time < faultReportInterval ∧
            reportFaultEvent reporter curTime event info s =
              { s with
                faultEventRecords :=
                  s.faultEventRecords.alter (kindOf event info).key fun record =>
                    some (record.1, record.2 + 1) }) ∨
          ((∀ time num, s.faultEventRecords.find (kindOf event info).key = some (time, num) →
              time + faultReportInterval ≤ curTime) ∧
            reportFaultEvent reporter curTime event info s =
              { faultEventRecords :=
                  (s.faultEventRecords.insert (kindOf event info).key (curTime, 1)).alter
                    (kindOf event info).key
                    fun _ => some (curTime, 1),
                reports := s.reports ++
                  [⟨event, ((s.faultEventRecords.find (kindOf event info).key).map fun record =>
                    record.2.toNat).getD 1, info, curTime⟩] }))) := by
  unfold reportFaultEvent generateFaultReportInfo occurs
  by_cases none : info.errCode = noError ∨ ¬ reporter.isValidErrCode info.errCode ∨
    ¬ reporter.isFault info.errCode
  · left
    rw [if_pos none]
    refine ⟨?_, rfl⟩
    rcases none with code | valid | fault
    · simp [code]
    · simp [valid]
    · simp [fault]
  · right
    rw [if_neg none]
    simp only [not_or, Decidable.not_not] at none
    refine ⟨by simp [none.1, none.2.1, none.2.2], ?_⟩
    rw [generateFaultEventKey_kindOf]
    dsimp only
    cases found : s.faultEventRecords.find (kindOf event info).key with
    | none => exact .inr ⟨nofun, rfl⟩
    | some record =>
        obtain ⟨time, num⟩ := record
        dsimp only
        by_cases soon : curTime - time < faultReportInterval
        · rw [if_pos soon]
          exact .inl ⟨time, num, rfl, soon, rfl⟩
        · rw [if_neg soon]
          refine .inr ⟨fun time' num' same => ?_, rfl⟩
          cases same
          omega

/-- What the timer does: it takes no record, or one that is too old. -/
theorem clearFaultEventInfo_cases (order : List String) (curTime : Int) (s : Faults) :
    clearFaultEventInfo order curTime s = s ∨
      ∃ key time num, s.faultEventRecords.find key = some (time, num) ∧
        curTime - time > faultRetentionPeriod ∧
        clearFaultEventInfo order curTime s =
          { s with faultEventRecords := s.faultEventRecords.alter key fun _ => none } := by
  unfold clearFaultEventInfo
  dsimp only
  split
  · exact .inl rfl
  · rename_i key first
    have old := List.find?_some first
    rw [Option.any_eq_true] at old
    obtain ⟨⟨time, num⟩, found, late⟩ := old
    exact .inr ⟨key, time, num, found, of_decide_eq_true late, rfl⟩

/-- The record of a kind, if there is one, has counted a fault, and there is room for one more. -/
def Countable (kind : FaultKind) (s : Faults) : Prop :=
  ∀ record, s.faultEventRecords.find kind.key = some record → 1 ≤ record.2.toNat ∧
    record.2.toNat + 1 < 2 ^ 32

theorem toNat_succ {num : UInt32} (room : num.toNat + 1 < 2 ^ 32) :
    (num + 1).toNat = num.toNat + 1 := by
  rw [UInt32.toNat_add]
  exact Nat.mod_eq_of_lt room

theorem heldBack_eq {t : Faults}
    (same : t.faultEventRecords.find kind.key = s.faultEventRecords.find kind.key) :
    heldBack kind t = heldBack kind s := by
  unfold heldBack
  rw [same]

/-- A fault of another kind shows in nothing of this one. -/
theorem reportFaultEvent_other {curTime : Int} {event : ImfFaultEvent} {info : HiSysOriginalInfo}
    (other : kindOf event info ≠ kind) :
    (reportFaultEvent reporter curTime event info s).faultEventRecords.find kind.key =
        s.faultEventRecords.find kind.key ∧
      reportsOf kind (reportFaultEvent reporter curTime event info s) = reportsOf kind s := by
  have keys : kind.key ≠ (kindOf event info).key := fun same => other (key_injective same).symm
  rcases reportFaultEvent_cases reporter curTime event info s with
    ⟨-, nothing⟩ | ⟨-, ⟨_, _, _, _, again⟩ | ⟨-, renewed⟩⟩
  · rw [nothing]
    exact ⟨rfl, rfl⟩
  · rw [again]
    exact ⟨by rw [EntryMap.find_alter, if_neg keys], rfl⟩
  · rw [renewed]
    refine ⟨by rw [EntryMap.find_replace, if_neg keys], ?_⟩
    unfold reportsOf
    rw [List.filter_append]
    simp [other]

theorem reportFaultEvent_balanced {curTime : Int} {event : ImfFaultEvent} {info : HiSysOriginalInfo}
    (countable : Countable kind s) :
    reported kind (reportFaultEvent reporter curTime event info s) +
        heldBack kind (reportFaultEvent reporter curTime event info s) =
      reported kind s + heldBack kind s +
        if occurs reporter kind (.reportFaultEvent curTime event info) then 1 else 0 := by
  by_cases same : kindOf event info = kind
  · subst same
    rcases reportFaultEvent_cases reporter curTime event info s with
      ⟨nothing, left⟩ | ⟨occurred, ⟨time, num, found, _, left⟩ | ⟨-, left⟩⟩
    · rw [left, if_neg (by simp [nothing])]
      rfl
    · rw [left, if_pos occurred]
      obtain ⟨one, room⟩ : 1 ≤ num.toNat ∧ num.toNat + 1 < 2 ^ 32 := countable _ found
      have held : heldBack (kindOf event info) s = num.toNat - 1 := by
        unfold heldBack
        rw [found]
      unfold reported reportsOf
      rw [held]
      unfold heldBack
      dsimp only
      rw [EntryMap.find_alter, if_pos rfl, found, Option.bind_some]
      dsimp only
      rw [toNat_succ room]
      omega
    · rw [left, if_pos occurred]
      unfold reported reportsOf heldBack
      rw [List.filter_append, List.map_append, List.sum_append]
      dsimp only
      rw [EntryMap.find_replace, if_pos rfl]
      cases found : s.faultEventRecords.find (kindOf event info).key with
      | none => simp
      | some record =>
          have one := (countable _ found).1
          simp
          omega
  · have silent : occurs reporter kind (.reportFaultEvent curTime event info) = false := by
      unfold occurs
      simp [same]
    obtain ⟨found, reports⟩ := @reportFaultEvent_other reporter kind s curTime event info same
    unfold reported
    rw [reports, heldBack_eq found, silent]
    rfl

/-- The timer holds back nothing new, and writes nothing. -/
theorem clearFaultEventInfo_held (order : List String) (curTime : Int) (s : Faults) :
    heldBack kind (clearFaultEventInfo order curTime s) ≤ heldBack kind s ∧
      (clearFaultEventInfo order curTime s).reports = s.reports := by
  rcases clearFaultEventInfo_cases order curTime s with nothing | ⟨key, _, _, _, _, left⟩
  · rw [nothing]
    exact ⟨le_rfl, rfl⟩
  · rw [left]
    refine ⟨?_, rfl⟩
    unfold heldBack
    dsimp only
    rw [EntryMap.find_alter]
    split_ifs
    · cases s.faultEventRecords.find kind.key <;> simp
    · exact le_rfl

theorem step_balanced (s : Faults) (e : FaultStep) (countable : Countable kind s) :
    reported kind (s.step reporter e) + heldBack kind (s.step reporter e) + dropped reporter kind s e =
      reported kind s + heldBack kind s + if occurs reporter kind e then 1 else 0 := by
  cases e with
  | reportFaultEvent curTime event info => exact reportFaultEvent_balanced countable
  | clearFaultEventInfo curTime order =>
      obtain ⟨less, reports⟩ := @clearFaultEventInfo_held kind order curTime s
      have written : reported kind (clearFaultEventInfo order curTime s) = reported kind s := by
        unfold reported reportsOf
        rw [reports]
      unfold dropped occurs
      dsimp only [Faults.step]
      rw [written]
      simp
      omega

/-- After `n` steps no record has counted more than `n` faults. -/
def Bounded (kind : FaultKind) (n : Nat) (s : Faults) : Prop :=
  ∀ record, s.faultEventRecords.find kind.key = some record → 1 ≤ record.2.toNat ∧ record.2.toNat ≤ n

theorem bounded_fault {curTime : Int} {event : ImfFaultEvent} {info : HiSysOriginalInfo} {n : Nat}
    (bounded : Bounded kind n s) (few : n + 1 < 2 ^ 32) :
    Bounded kind (n + 1) (reportFaultEvent reporter curTime event info s) := by
  intro record found
  by_cases same : kindOf event info = kind
  · subst same
    rcases reportFaultEvent_cases reporter curTime event info s with
      ⟨-, left⟩ | ⟨-, ⟨time, num, before, _, left⟩ | ⟨-, left⟩⟩
    · rw [left] at found
      obtain ⟨one, most⟩ := bounded _ found
      exact ⟨one, by omega⟩
    · rw [left] at found
      dsimp only at found
      rw [EntryMap.find_alter, if_pos rfl, before] at found
      cases found
      obtain ⟨one, most⟩ : 1 ≤ num.toNat ∧ num.toNat ≤ n := bounded _ before
      dsimp only
      rw [toNat_succ (by omega)]
      omega
    · rw [left] at found
      dsimp only at found
      rw [EntryMap.find_replace, if_pos rfl] at found
      cases found
      exact ⟨le_rfl, Nat.le_add_left 1 n⟩
  · obtain ⟨left, -⟩ := @reportFaultEvent_other reporter kind s curTime event info same
    rw [left] at found
    obtain ⟨one, most⟩ := bounded _ found
    exact ⟨one, by omega⟩

theorem bounded_clear {n : Nat} (bounded : Bounded kind n s) (order : List String) (curTime : Int) :
    Bounded kind n (clearFaultEventInfo order curTime s) := by
  rcases clearFaultEventInfo_cases order curTime s with nothing | ⟨key, _, _, _, _, left⟩
  · rw [nothing]
    exact bounded
  · rw [left]
    intro record found
    dsimp only at found
    rw [EntryMap.find_alter] at found
    split_ifs at found
    · rw [Option.bind_fun_none] at found
      cases found
    · exact bounded record found

/-- With fewer than 2 ^ 32 steps no number of faults wraps. -/
theorem meets_countable {steps : List FaultStep} {n : Nat} (bounded : Bounded kind n s)
    (few : n + steps.length < 2 ^ 32) :
    Meets (Faults.step reporter) (fun s _ => Countable kind s) s steps := by
  induction steps generalizing n s with
  | nil => trivial
  | cons e steps ih =>
      rw [List.length_cons] at few
      refine ⟨fun record found => ?_, ih (n := n + 1) ?_ (by omega)⟩
      · obtain ⟨one, most⟩ := bounded record found
        exact ⟨one, by omega⟩
      · cases e with
        | reportFaultEvent curTime event info => exact bounded_fault bounded (by omega)
        | clearFaultEventInfo curTime order =>
            intro record found
            obtain ⟨one, most⟩ := bounded_clear bounded order curTime record found
            exact ⟨one, by omega⟩

/-! ## The clock -/

/-- At `now`: the reports of a kind are apart, a record has the time of the last of them, and without
a record the last one is long ago. -/
structure Spaced (kind : FaultKind) (now : Int) (s : Faults) : Prop where
  apart : (reportsOf kind s).Pairwise fun a b => a.curTime + faultReportInterval ≤ b.curTime
  recorded : ∀ record, s.faultEventRecords.find kind.key = some record →
    (∃ report ∈ reportsOf kind s, report.curTime = record.1) ∧ ∀ report ∈ reportsOf kind s,
      report.curTime ≤ record.1
  gone : s.faultEventRecords.find kind.key = none →
    ∀ report ∈ reportsOf kind s, report.curTime + faultReportInterval ≤ now

theorem Spaced.later {now later : Int} (spaced : Spaced kind now s) (after : now ≤ later) :
    Spaced kind later s where
  apart := spaced.apart
  recorded := spaced.recorded
  gone none report member := (spaced.gone none report member).trans after

theorem Spaced.same {now : Int} {t : Faults} (spaced : Spaced kind now s)
    (found : t.faultEventRecords.find kind.key = s.faultEventRecords.find kind.key)
    (reports : reportsOf kind t = reportsOf kind s) : Spaced kind now t where
  apart := reports ▸ spaced.apart
  recorded := by
    rw [found, reports]
    exact spaced.recorded
  gone := by
    rw [found, reports]
    exact spaced.gone

theorem spaced_fault {now curTime : Int} {event : ImfFaultEvent} {info : HiSysOriginalInfo}
    (spaced : Spaced kind now s) (after : now ≤ curTime) :
    Spaced kind curTime (reportFaultEvent reporter curTime event info s) := by
  have spaced := spaced.later after
  by_cases same : kindOf event info = kind
  · subst same
    rcases reportFaultEvent_cases reporter curTime event info s with
      ⟨-, left⟩ | ⟨-, ⟨time, num, before, _, left⟩ | ⟨late, left⟩⟩
    · rw [left]
      exact spaced
    · rw [left]
      refine ⟨spaced.apart, fun record found => ?_, fun none => ?_⟩
      · dsimp only at found
        rw [EntryMap.find_alter, if_pos rfl, before] at found
        cases found
        exact spaced.recorded (time, num) before
      · dsimp only at none
        rw [EntryMap.find_alter, if_pos rfl, before] at none
        cases none
    · rw [left]
      have old : ∀ report ∈ reportsOf (kindOf event info) s,
        report.curTime + faultReportInterval ≤ curTime := by
        intro report member
        cases before : s.faultEventRecords.find (kindOf event info).key with
        | none => exact spaced.gone before report member
        | some record =>
            have written := (spaced.recorded record before).2 report member
            have passed := late record.1 record.2 before
            omega
      have reports : ∀ num, reportsOf (kindOf event info)
          { faultEventRecords := (s.faultEventRecords.insert (kindOf event info).key (curTime, 1)).alter
              (kindOf event info).key fun _ => some (curTime, 1),
            reports := s.reports ++ [⟨event, num, info, curTime⟩] } =
          reportsOf (kindOf event info) s ++ [⟨event, num, info, curTime⟩] := by
        intro num
        unfold reportsOf
        rw [List.filter_append]
        simp
      refine ⟨?_, fun record found => ?_, fun none => ?_⟩
      · rw [reports, List.pairwise_append]
        refine ⟨spaced.apart, List.pairwise_singleton _ _, fun a earlier b last => ?_⟩
        rw [List.mem_singleton.1 last]
        exact old a earlier
      · dsimp only at found
        rw [EntryMap.find_replace, if_pos rfl] at found
        cases found
        rw [reports]
        refine ⟨⟨_, List.mem_append_right _ (List.mem_singleton_self _), rfl⟩, fun report member => ?_⟩
        rcases List.mem_append.1 member with earlier | last
        · have passed := old report earlier
          unfold faultReportInterval at passed
          dsimp only
          omega
        · rw [List.mem_singleton.1 last]
      · dsimp only at none
        rw [EntryMap.find_replace, if_pos rfl] at none
        cases none
  · obtain ⟨found, reports⟩ := @reportFaultEvent_other reporter kind s curTime event info same
    exact spaced.same found reports

theorem spaced_clear {now curTime : Int} (spaced : Spaced kind now s) (after : now ≤ curTime)
    (order : List String) :
    Spaced kind curTime (clearFaultEventInfo order curTime s) := by
  have spaced := spaced.later after
  rcases clearFaultEventInfo_cases order curTime s with nothing | ⟨key, time, num, before, late, left⟩
  · rw [nothing]
    exact spaced
  · rw [left]
    by_cases same : kind.key = key
    · subst same
      refine ⟨spaced.apart, fun record found => ?_, fun _ report member => ?_⟩
      · dsimp only at found
        rw [EntryMap.find_alter, if_pos rfl, Option.bind_fun_none] at found
        cases found
      · have written : report.curTime ≤ time := (spaced.recorded _ before).2 report member
        unfold faultRetentionPeriod at late
        unfold faultReportInterval
        omega
    · refine spaced.same ?_ rfl
      dsimp only
      rw [EntryMap.find_alter, if_neg same]

theorem spaced_step {now : Int} (spaced : Spaced kind now s) (e : FaultStep) (after : now ≤ e.time) :
    Spaced kind e.time (s.step reporter e) := by
  cases e with
  | reportFaultEvent curTime event info => exact spaced_fault spaced after
  | clearFaultEventInfo curTime order => exact spaced_clear spaced after order

theorem spaced_run {steps : List FaultStep} {now : Int} (spaced : Spaced kind now s)
    (clock : (now :: steps.map FaultStep.time).Pairwise (· ≤ ·)) :
    ∃ last, Spaced kind last (run (Faults.step reporter) s steps) ∧ (∀ t ∈ steps, t.time ≤ last) ∧
      now ≤ last := by
  induction steps generalizing now s with
  | nil => exact ⟨now, spaced, nofun, le_rfl⟩
  | cons e steps ih =>
      rw [List.map_cons, List.pairwise_cons] at clock
      obtain ⟨last, later, passed, after⟩ :=
        ih (spaced_step spaced e (clock.1 _ List.mem_cons_self)) clock.2
      refine ⟨last, later, ?_, (clock.1 _ List.mem_cons_self).trans after⟩
      rw [List.forall_mem_cons]
      exact ⟨after, passed⟩

/-- Only the timer drops faults, and only with a record that is too old. -/
theorem dropped_late {now : Int} (spaced : Spaced kind now s) {e : FaultStep}
    (drops : dropped reporter kind s e ≠ 0) :
    ∃ report ∈ reportsOf kind s, (∀ other ∈ reportsOf kind s, other.curTime ≤ report.curTime) ∧
      report.curTime + faultRetentionPeriod < e.time := by
  cases e with
  | reportFaultEvent curTime event info => exact absurd rfl drops
  | clearFaultEventInfo curTime order =>
      unfold dropped at drops
      dsimp only [Faults.step] at drops
      rcases clearFaultEventInfo_cases order curTime s
        with nothing | ⟨key, time, num, before, late, left⟩
      · rw [nothing, Nat.sub_self] at drops
        exact absurd rfl drops
      · by_cases same : kind.key = key
        · subst same
          obtain ⟨⟨report, member, last⟩, all⟩ := spaced.recorded _ before
          refine ⟨report, member, fun other written => ?_, ?_⟩
          · rw [last]
            exact all other written
          · rw [last]
            dsimp only [FaultStep.time]
            omega
        · have unchanged : heldBack kind (clearFaultEventInfo order curTime s) = heldBack kind s := by
            rw [left]
            apply heldBack_eq
            dsimp only
            rw [EntryMap.find_alter, if_neg same]
          rw [unchanged, Nat.sub_self] at drops
          exact absurd rfl drops

/-- The books of a kind after a run from the start. -/
structure Accounted (reporter : ImfHiSysEventReporter) (kind : FaultKind) (steps : List FaultStep) :
    Prop where
  /-- What is written, held back and dropped is what occurred. -/
  balance : reported kind (run (Faults.step reporter) {} steps) +
    heldBack kind (run (Faults.step reporter) {} steps) +
      along (Faults.step reporter) (dropped reporter kind) {} steps =
        steps.countP (occurs reporter kind)
  /-- While the clock goes on, reports are apart. -/
  apart : (steps.map FaultStep.time).Pairwise (· ≤ ·) →
    (reportsOf kind (run (Faults.step reporter) {} steps)).Pairwise fun a b =>
      a.curTime + faultReportInterval ≤ b.curTime
  /-- While the clock goes on, faults are dropped long after the last report. -/
  late : (steps.map FaultStep.time).Pairwise (· ≤ ·) → ∀ before e after, steps = before ++ e :: after →
    dropped reporter kind (run (Faults.step reporter) {} before) e ≠ 0 →
      ∃ report ∈ reportsOf kind (run (Faults.step reporter) {} before),
        (∀ other ∈ reportsOf kind (run (Faults.step reporter) {} before),
          other.curTime ≤ report.curTime) ∧
          report.curTime + faultRetentionPeriod < e.time

theorem spaced_start (now : Int) : Spaced kind now {} := ⟨List.Pairwise.nil, nofun, nofun⟩

theorem spaced_from_start {steps : List FaultStep}
    (clock : (steps.map FaultStep.time).Pairwise (· ≤ ·)) :
    ∃ last, Spaced kind last (run (Faults.step reporter) {} steps) := by
  cases steps with
  | nil => exact ⟨0, spaced_start 0⟩
  | cons e steps =>
      have first : (e.time :: (e :: steps).map FaultStep.time).Pairwise (· ≤ ·) := by
        rw [List.pairwise_cons]
        refine ⟨fun t member => ?_, clock⟩
        rw [List.map_cons, List.pairwise_cons] at clock
        rcases List.mem_cons.1 member with same | later
        · exact same.ge
        · exact clock.1 t later
      obtain ⟨last, spaced, -⟩ :=
        @spaced_run reporter kind {} (e :: steps) e.time (spaced_start _) first
      exact ⟨last, spaced⟩

/-- **Every fault is written, held back or dropped.**  Whatever the timer finds first, and whatever
is in the names. -/
theorem faults_accounted (reporter : ImfHiSysEventReporter) (kind : FaultKind) (steps : List FaultStep)
    (few : steps.length < 2 ^ 32) : Accounted reporter kind steps where
  balance := by
    have start : Bounded kind 0 {} := nofun
    have allowed : Meets (Faults.step reporter) (fun s _ => Countable kind s) {} steps :=
      meets_countable start (by omega)
    have books := @run_balance _ _ Nat _ (Faults.step reporter) _
      (fun s => reported kind s + heldBack kind s)
      (fun _ e => if occurs reporter kind e then 1 else 0) (dropped reporter kind) step_balanced
        {} steps allowed
    rw [along_count] at books
    exact books.trans (Nat.zero_add _)
  apart clock := by
    obtain ⟨last, spaced⟩ := @spaced_from_start reporter kind steps clock
    exact spaced.apart
  late clock before e after split drops := by
    subst split
    rw [List.map_append, List.pairwise_append] at clock
    obtain ⟨last, spaced⟩ := @spaced_from_start reporter kind before clock.1
    exact dropped_late spaced drops

/-! ## Poles -/

def nameless : HiSysOriginalInfo := { errCode := 63 }

def attachFailed (curTime : Int) : FaultStep := .reportFaultEvent curTime .clientAttachFailed nameless

/-- Three faults in a minute, a fourth after six: two reports, of one fault and of three. -/
def fourFaults : List FaultStep :=
  [attachFailed 0, attachFailed 20000, attachFailed 40000, attachFailed 360000]

theorem four_faults_accounted :
    (run (Faults.step imsaHiSysEventReporter) {} fourFaults).reports.map FaultReport.faultNum = [1, 3] ∧
      Accounted imsaHiSysEventReporter (kindOf .clientAttachFailed nameless) fourFaults :=
  ⟨rfl, faults_accounted imsaHiSysEventReporter
    (kindOf .clientAttachFailed nameless) fourFaults (by decide)⟩

/-- A kind that falls silent: what was held back goes with the record, and is never written. -/
example : (run (Faults.step imsaHiSysEventReporter) {}
    [attachFailed 0, attachFailed 20000,
      .clearFaultEventInfo 10800000 [(kindOf .clientAttachFailed nameless).key],
      attachFailed 10900000]).reports.map FaultReport.faultNum = [1, 1] := rfl

end Imf.HiSysEvent
