import Telemetry.Proofs.Wire.Order
import Telemetry.RowKey.Descending

namespace Telemetry.RowKey

open Wire

/-! Times that are turned round before they are written. Those from the epoch on come back, and
their bytes are in descending order. -/

theorem written_eq_ok {α : Type} {result : Except EncodeError α} {value : α} :
    written result = .ok value ↔ result = .ok value := by
  cases result <;> simp [written]

theorem toInt_maxTimestamp_sub {time : Int64} (notNegative : 0 ≤ time.toInt) :
    (maxTimestamp - time).toInt = 2 ^ 63 - 1 - time.toInt := by
  have low := time.le_toInt
  have high := time.toInt_lt
  have greatest : maxTimestamp.toInt = 2 ^ 63 - 1 := by decide
  rw [Int64.toInt_sub, greatest, Int.bmod_eq_of_le (by omega) (by omega)]

theorem not_lt_zero_iff {time : Int64} : ¬ time < 0 ↔ 0 ≤ time.toInt := by
  rw [Int64.lt_iff_toInt_lt, Int64.toInt_zero, Int.not_lt]

theorem invertedBytes_eq_ok {time : Int64} {bytes : Bytes} :
    invertedBytes time = .ok bytes ↔
      0 ≤ time.toInt ∧ bytes = putInt64 (maxTimestamp - time) := by
  rw [invertedBytes, map_eq_ok, invert]
  split
  next below => simpa using fun notNegative => absurd below (not_lt_zero_iff.mpr notNegative)
  next notNegative => simp [not_lt_zero_iff.mp notNegative, eq_comm]

theorem restore_inverted {time : Int64} (notNegative : 0 ≤ time.toInt) :
    restore (maxTimestamp - time) = .ok time := by
  have high := time.toInt_lt
  have inverted := toInt_maxTimestamp_sub notNegative
  rw [restore, if_neg (not_lt_zero_iff.mpr (by omega))]
  have back : maxTimestamp - (maxTimestamp - time) = time := by grind
  rw [back]

theorem toNat_toUInt64 {value : Int64} (notNegative : 0 ≤ value.toInt) :
    (value.toUInt64.toNat : Int) = value.toInt := by
  have bits := value.toBitVec.toInt_eq_toNat_cond
  rw [Int64.toInt_toBitVec, Int64.toNat_toBitVec] at bits
  have fits := value.toUInt64.toNat_lt
  split at bits <;> omega

theorem toNat_inverted {time : Int64} (notNegative : 0 ≤ time.toInt) :
    ((maxTimestamp - time).toUInt64.toNat : Int) = 2 ^ 63 - 1 - time.toInt := by
  have high := time.toInt_lt
  have inverted := toInt_maxTimestamp_sub notNegative
  rw [toNat_toUInt64 (by omega), inverted]

section Inverted

variable {time other : Int64}

/-- Turned round, later times are written as smaller numbers. -/
theorem putInt64_inverted_lt_iff (notNegative : 0 ≤ time.toInt)
    (otherNotNegative : 0 ≤ other.toInt) :
    putInt64 (maxTimestamp - time) < putInt64 (maxTimestamp - other) ↔
      other.toInt < time.toInt := by
  have width (value : Int64) : value.toUInt64.toNat % 256 ^ 8 = value.toUInt64.toNat :=
    Nat.mod_eq_of_lt value.toUInt64.toNat_lt
  rw [putInt64, putInt64, bigEndian_lt_bigEndian_iff, width, width]
  have left := toNat_inverted notNegative
  have right := toNat_inverted otherNotNegative
  omega

theorem putInt64_inverted_inj (notNegative : 0 ≤ time.toInt) (otherNotNegative : 0 ≤ other.toInt) :
    putInt64 (maxTimestamp - time) = putInt64 (maxTimestamp - other) ↔ time = other := by
  rw [putInt64, putInt64, bigEndian_inj (UInt64.toNat_lt _) (UInt64.toNat_lt _), ← Int64.toInt_inj]
  have left := toNat_inverted notNegative
  have right := toNat_inverted otherNotNegative
  omega

end Inverted

end Telemetry.RowKey
