/-
# Imf.Lib.Word32 -- signed and unsigned words of 32 bits

What the casts between `Int32` and `UInt32` do to the numbers, and sums and differences that
stay in range, in the form in which `omega` takes them.
-/
import Mathlib.Init

namespace Imf.Lib.Word32

set_option autoImplicit false

theorem toInt_range (x : Int32) : -2147483648 ≤ x.toInt ∧ x.toInt < 2147483648 :=
  ⟨x.le_toInt, x.toInt_lt⟩

theorem toNat_range (u : UInt32) : u.toNat < 4294967296 := u.toNat_lt

theorem lt_iff {x y : Int32} : x < y ↔ x.toInt < y.toInt := Int32.lt_iff_toInt_lt

theorem ult_iff {u v : UInt32} : u < v ↔ u.toNat < v.toNat := UInt32.lt_iff_toNat_lt

theorem neg_iff {x : Int32} : x < 0 ↔ x.toInt < 0 := Int32.lt_iff_toInt_lt

/-- A signed word read as an unsigned one. -/
theorem toNat_toUInt32 (x : Int32) : (x.toUInt32.toNat : Int) = x.toInt % 4294967296 := by
  have word : x.toBitVec.toNat < 4294967296 := x.toBitVec.isLt
  change (x.toBitVec.toNat : Int) = x.toBitVec.toInt % 4294967296
  rw [BitVec.toInt_eq_toNat_cond]
  split <;> omega

theorem toNat_toUInt32_of_nonneg {x : Int32} (nonneg : 0 ≤ x.toInt) :
    (x.toUInt32.toNat : Int) = x.toInt := by
  have range := toInt_range x
  rw [toNat_toUInt32]
  omega

/-- An unsigned word read as a signed one. -/
theorem toInt_toInt32 (u : UInt32) :
    u.toInt32.toInt = if u.toNat < 2147483648 then (u.toNat : Int) else u.toNat - 4294967296 := by
  change u.toBitVec.toInt = if u.toBitVec.toNat < 2147483648 then (u.toBitVec.toNat : Int)
    else u.toBitVec.toNat - 4294967296
  rw [BitVec.toInt_eq_toNat_cond]
  split <;> split <;> omega

theorem toInt_toInt32_of_lt {u : UInt32} (small : u.toNat < 2147483648) :
    u.toInt32.toInt = u.toNat := by
  rw [toInt_toInt32, if_pos small]

theorem bmod_of_range {x : Int} (low : -2147483648 ≤ x) (high : x < 2147483648) :
    x.bmod 4294967296 = x :=
  Int.bmod_eq_of_le (by omega) (by omega)

theorem toInt_add {x y : Int32} (low : -2147483648 ≤ x.toInt + y.toInt)
    (high : x.toInt + y.toInt < 2147483648) :
    (x + y).toInt = x.toInt + y.toInt :=
  (Int32.toInt_add x y).trans (bmod_of_range low high)

theorem toInt_sub {x y : Int32} (low : -2147483648 ≤ x.toInt - y.toInt)
    (high : x.toInt - y.toInt < 2147483648) :
    (x - y).toInt = x.toInt - y.toInt :=
  (Int32.toInt_sub x y).trans (bmod_of_range low high)

/-- The wrapped difference of two signed words, read as unsigned, is the difference. -/
theorem toNat_toUInt32_sub {x y : Int32} (le : y.toInt ≤ x.toInt) :
    ((x - y).toUInt32.toNat : Int) = x.toInt - y.toInt := by
  have high := toInt_range x
  have low := toInt_range y
  have wrapped : (x - y).toInt = (x.toInt - y.toInt).bmod 4294967296 := Int32.toInt_sub x y
  have same : (x.toInt - y.toInt).bmod 4294967296 % 4294967296 = (x.toInt - y.toInt) %
    4294967296 := Int.bmod_emod
  rw [toNat_toUInt32, wrapped, same]
  omega

theorem toInt_max (x y : Int32) : (max x y).toInt = max x.toInt y.toInt := by
  change (if x ≤ y then y else x).toInt = _
  split
  · rename_i le
    rw [Int32.le_iff_toInt_le] at le
    omega
  · rename_i gt
    rw [Int32.le_iff_toInt_le] at gt
    omega

theorem toInt_min (x y : Int32) : (min x y).toInt = min x.toInt y.toInt := by
  change (if x ≤ y then x else y).toInt = _
  split
  · rename_i le
    rw [Int32.le_iff_toInt_le] at le
    omega
  · rename_i gt
    rw [Int32.le_iff_toInt_le] at gt
    omega

theorem toNat_add (u v : UInt32) : (u + v).toNat = (u.toNat + v.toNat) % 4294967296 :=
  UInt32.toNat_add u v

theorem toNat_sub {u v : UInt32} (le : v.toNat ≤ u.toNat) : (u - v).toNat = u.toNat - v.toNat :=
  UInt32.toNat_sub_of_le u v (UInt32.le_iff_toNat_le.2 le)

end Imf.Lib.Word32
