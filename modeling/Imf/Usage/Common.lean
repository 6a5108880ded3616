/-
# Imf.Usage.Common -- records, rows and screen statuses of IME usage

`services/ime_usage/include/ime_usage_common.h`.  Times are milliseconds since boot
or since the epoch; 64-bit millisecond counters are natural numbers here, since no
clock reaches 2^64 ms.  What the source narrows or subtracts without a check is
modelled as it is: `int32_t` casts of row ids (`toInt32`), `uint32_t` durations in a
report (`ImeUsageInfo`), unsigned differences that can wrap (`subUInt64`).
-/
import Mathlib.Algebra.BigOperators.Fin
import Mathlib.Algebra.BigOperators.Group.List.Basic
import Mathlib.Data.Fintype.Pi

namespace Imf.Usage

set_option autoImplicit false

/-- `rawid` of a row; `none` is the `RAWID_NONE` of a record that was never filled. -/
inductive EventId where
  | none
  | inputStart
  | inputStop
  | inputStatusChanged
  | countDuration
  deriving DecidableEq, Repr

def toInt32 (n : Int) : Int := Int.bmod n (2 ^ 32)

theorem toInt32_eq {n : Int} (low : -(2 ^ 31) ≤ n) (high : n < 2 ^ 31) : toInt32 n = n :=
  Int.bmod_eq_of_le (by simpa using low) (by simpa using high)

/-- An id below 2^32 that is still nonnegative when narrowed was not changed. -/
theorem toInt32_of_nonneg {n : Int} (low : 0 ≤ n) (high : n < 2 ^ 32) (nonneg : 0 ≤ toInt32 n) :
    toInt32 n = n := by
  unfold toInt32 at nonneg ⊢
  rw [Int.bmod_def] at nonneg ⊢
  have small : n % ((2 ^ 32 : Nat) : Int) = n := Int.emod_eq_of_lt low (by simpa using high)
  rw [small] at nonneg ⊢
  split at nonneg
  · rename_i half
    rw [if_pos half]
  · exact absurd nonneg (by simpa using high)

/-- `a - b` on `uint64_t`. -/
def subUInt64 (a b : Nat) : Nat := (a + 2 ^ 64 - b) % 2 ^ 64

/-! ## Screen statuses -/

def screenStatusEncodeBase : Int := 10
def foldStatusMin : Int := 1
def foldStatusMax : Int := 6
def vhModeMin : Int := 1
def vhModeMax : Int := 2
def vhModeCount : Int := vhModeMax - vhModeMin + 1
def screenStatusUninitialized : Int := 0
def unfoldedPortrait : Int := 12

/-- Number of duration buckets. -/
abbrev durationCount : Nat := 12

def encodeScreenStatus (foldStatus vhMode : Int) : Int :=
  foldStatus * screenStatusEncodeBase + vhMode

/-- C++ division and remainder round towards zero. -/
def decodeScreenStatus (screenStatus : Int) : Int × Int :=
  (screenStatus.tdiv screenStatusEncodeBase, screenStatus.tmod screenStatusEncodeBase)

/-- `ScreenStatusToIndex`; `none` is the `DURATION_COUNT` of an invalid status. -/
def screenStatusToIndex (screenStatus : Int) : Option (Fin durationCount) :=
  let foldStatus := (decodeScreenStatus screenStatus).1
  let vhMode := (decodeScreenStatus screenStatus).2
  if foldStatus < foldStatusMin ∨ foldStatus > foldStatusMax ∨ vhMode < vhModeMin ∨
      vhMode > vhModeMax then none
  else some (Fin.ofNat durationCount
    ((foldStatus - foldStatusMin) * vhModeCount + (vhMode - vhModeMin)).toNat)

/-- One of the twelve statuses that have a bucket. -/
def ValidStatus (screenStatus : Int) : Prop := (screenStatusToIndex screenStatus).isSome

instance (screenStatus : Int) : Decidable (ValidStatus screenStatus) :=
  inferInstanceAs (Decidable (_ = true))

/-- What a status code holds is what it was encoded from. -/
theorem encode_decode (screenStatus : Int) :
    encodeScreenStatus (decodeScreenStatus screenStatus).1 (decodeScreenStatus screenStatus).2 =
      screenStatus := by
  simp only [encodeScreenStatus, decodeScreenStatus, Int.mul_comm _ screenStatusEncodeBase]
  exact Int.mul_tdiv_add_tmod _ _

/-- A valid status is not the uninitialized one. -/
theorem ValidStatus.ne_zero {screenStatus : Int} (valid : ValidStatus screenStatus) :
    screenStatus ≠ screenStatusUninitialized := by
  rintro rfl
  exact absurd valid (by decide)

/-! ## Durations -/

/-- `DurationMap`, one bucket per screen status. -/
abbrev DurationMap := Fin durationCount → Nat

/-- The time in all buckets. -/
def DurationMap.total (durations : DurationMap) : Nat := ∑ i, durations i

theorem DurationMap.total_add (a b : DurationMap) :
    DurationMap.total (a + b) = DurationMap.total a + DurationMap.total b := by
  simp [DurationMap.total, Finset.sum_add_distrib]

@[simp] theorem DurationMap.total_zero : DurationMap.total 0 = 0 := by
  simp [DurationMap.total]

/-- What `Accumulate` adds: the time in the bucket of the status, nothing for a status
without one. -/
def bucket (screenStatus : Int) (duration : Nat) : DurationMap :=
  match screenStatusToIndex screenStatus with
  | some i => Pi.single i duration
  | none => 0

def accumulate (screenStatus : Int) (duration : Nat) (durations : DurationMap) : DurationMap :=
  durations + bucket screenStatus duration

theorem total_bucket {screenStatus : Int} (valid : ValidStatus screenStatus) (duration : Nat) :
    DurationMap.total (bucket screenStatus duration) = duration := by
  obtain ⟨i, index⟩ := Option.isSome_iff_exists.1 valid
  simp [bucket, index, DurationMap.total]

@[simp] theorem bucket_zero (screenStatus : Int) : bucket screenStatus 0 = 0 := by
  unfold bucket
  split <;> simp

/-! ## Records and rows -/

/-- `ImeEventRecord`. -/
structure EventRecord where
  rawid : EventId := .none
  ts : Nat := 0
  happenTime : Nat := 0
  bundleName : String := ""
  preScreenStatus : Int := screenStatusUninitialized
  screenStatus : Int := screenStatusUninitialized
  showCount : Nat := 0
  deriving DecidableEq

/-- `ImeUsageEventRow`. -/
structure EventRow where
  id : Int := 0
  rawid : EventId := .none
  ts : Nat := 0
  happenTime : Nat := 0
  bundleName : String := ""
  preScreenStatus : Int := screenStatusUninitialized
  screenStatus : Int := screenStatusUninitialized
  durations : DurationMap := 0
  showCount : Nat := 0
  deriving DecidableEq

def EventRow.isCount (row : EventRow) : Bool := row.rawid == .countDuration

/-- `MakeRow`; the id is set by the store. -/
def makeRow (id : Int) (record : EventRecord) (durations : DurationMap) : EventRow :=
  { id := id, rawid := record.rawid, ts := record.ts, happenTime := record.happenTime,
    bundleName := record.bundleName, preScreenStatus := record.preScreenStatus,
    screenStatus := record.screenStatus, durations := durations, showCount := record.showCount }

end Imf.Usage
