import Telemetry.Proofs.RowKey.Descending
import Telemetry.Proofs.RowKey.Distribution
import Telemetry.Proofs.Wire.Trimmed
import Telemetry.RowKey.TraceIndexKey

namespace Telemetry.RowKey

open Wire

/-! Keys of the trace index. They can be read back, they compare newest first and then by slot, and
the slots of a range of elapsed times are those between the slots of its ends. -/

/-! ### Slots -/

theorem slotWithin_le_length (elapsed : Int) (bounds : List Int) :
    slotWithin elapsed bounds ≤ bounds.length := by
  induction bounds with
  | nil => simp [slotWithin]
  | cons bound bounds induction =>
      rw [slotWithin, List.length_cons]
      split <;> omega

theorem slotWithin_mono {elapsed longer : Int} (longer_le : elapsed ≤ longer)
    (bounds : List Int) : slotWithin elapsed bounds ≤ slotWithin longer bounds := by
  induction bounds with
  | nil => simp [slotWithin]
  | cons bound bounds induction =>
      rw [slotWithin, slotWithin]
      split
      · exact Nat.zero_le _
      · rw [if_neg (by omega)]
        omega

/-- Longer traces are not in lower slots. -/
theorem elapsedSlot_mono {elapsed longer : Int} (longer_le : elapsed ≤ longer) :
    elapsedSlot elapsed ≤ elapsedSlot longer := by
  have slot (elapsed : Int) : (elapsedSlot elapsed).toNat = slotWithin elapsed elapsedBounds := by
    have bounded : slotWithin elapsed elapsedBounds ≤ 15 := slotWithin_le_length _ _
    rw [elapsedSlot, UInt8.toNat_ofNat', Nat.mod_eq_of_lt (by omega)]
  rw [UInt8.le_iff_toNat_le, slot, slot]
  exact slotWithin_mono longer_le elapsedBounds

/-! ### Keys -/

namespace TraceIndexKeys

variable {applicationName : String} {time : Int64} {slot : UInt8} {key : Bytes}

theorem undistributedKey_eq_ok : undistributedKey applicationName time slot = .ok key ↔
    ∃ application, putPadded applicationNameWidth applicationName = .ok application ∧
      0 ≤ time.toInt ∧ key = application ++ putInt64 (maxTimestamp - time) ++ [slot] := by
  rw [undistributedKey, bind_eq_ok]
  constructor
  · rintro ⟨application, applicationWritten, written⟩
    rcases bind_eq_ok.mp written with ⟨inverted, timeWritten, written⟩
    rcases invertedBytes_eq_ok.mp timeWritten with ⟨notNegative, rfl⟩
    cases written
    exact ⟨application, written_eq_ok.mp applicationWritten, notNegative, rfl⟩
  · rintro ⟨application, applicationWritten, notNegative, rfl⟩
    refine ⟨application, written_eq_ok.mpr applicationWritten, ?_⟩
    exact bind_eq_ok.mpr ⟨_, invertedBytes_eq_ok.mpr ⟨notNegative, rfl⟩, rfl⟩

theorem length_undistributedKey
    (written : undistributedKey applicationName time slot = .ok key) :
    key.length = traceIndexKeyLength := by
  rcases undistributedKey_eq_ok.mp written with ⟨application, applicationWritten, -, rfl⟩
  have width := length_putPadded applicationWritten
  simp only [List.length_append, width, putInt64, length_bigEndian, List.length_singleton,
    traceIndexKeyLength]

/-- A key gives back the time and the slot, and the name without padding at its end. -/
theorem decode_distribute (distributor : Distributor)
    (written : undistributedKey applicationName time slot = .ok key) :
    decode (distributor.distribute key) =
      .ok ⟨Text.withoutPadding applicationName, time, slot⟩ := by
  have complete := length_undistributedKey written
  rcases undistributedKey_eq_ok.mp written with ⟨application, applicationWritten, notNegative, rfl⟩
  have fields : Reader.Reads (do
      let applicationName ← Reader.padded applicationNameWidth
      let inverted ← Reader.int64
      let slot ← Reader.byte
      pure (applicationName, inverted, slot))
      (application ++ (putInt64 (maxTimestamp - time) ++ [slot]))
      (Text.withoutPadding applicationName, maxTimestamp - time, slot) :=
    (Reader.reads_withoutPadding applicationWritten).bind
      ((Reader.reads_int64 _).bind (Reader.reads_byte slot).bind_pure)
  rw [decode, readUndistributed_distribute distributor _ complete, List.append_assoc,
    fields.front_eq]
  exact bind_eq_ok.mpr ⟨_, rfl, bind_eq_ok.mpr ⟨time, restore_inverted notNegative, rfl⟩⟩

/-- Keys of one application are in the order of their times, newest first, and then of their
slots. -/
theorem le_iff_of_application {application : Bytes} {other : Int64} {otherSlot : UInt8}
    (notNegative : 0 ≤ time.toInt) (otherNotNegative : 0 ≤ other.toInt) :
    application ++ putInt64 (maxTimestamp - time) ++ [slot] ≤
        application ++ putInt64 (maxTimestamp - other) ++ [otherSlot] ↔
      other.toInt < time.toInt ∨ time = other ∧ slot ≤ otherSlot := by
  have width : (putInt64 (maxTimestamp - other)).length = (putInt64 (maxTimestamp - time)).length :=
    (length_bigEndian 8 _).trans (length_bigEndian 8 _).symm
  rw [← List.not_lt, List.append_assoc, List.append_assoc, append_lt_append_iff rfl,
    append_lt_append_iff width, putInt64_inverted_lt_iff otherNotNegative notNegative,
    putInt64_inverted_inj otherNotNegative notNegative, ← Int64.toInt_inj, ← Int64.toInt_inj]
  simp only [List.lt_irrefl, false_or, true_and, List.cons_lt_cons_iff, and_false, or_false,
    UInt8.lt_iff_toNat_lt, UInt8.le_iff_toNat_le]
  omega

end TraceIndexKeys

end Telemetry.RowKey
