import Telemetry.Proofs.RowKey.TraceIndexKey
import Telemetry.RowKey.StatKey

namespace Telemetry.RowKey

open Wire Trace

/-! What can be part of a key. A key is refused for a text that is longer than its field or for a
time before the epoch, and for nothing else. -/

theorem exists_putPadded_iff (width : Nat) (text : String) :
    (∃ bytes, putPadded width text = .ok bytes) ↔ (Text.utf8 text).length ≤ width := by
  simp [putPadded_eq_ok]

theorem TransactionKeys.exists_encode_iff (keys : TransactionKeys) (id : TransactionId) :
    (∃ key, keys.encode id = .ok key) ↔ (Text.utf8 id.agentId).length ≤ agentIdWidth := by
  rw [← exists_putPadded_iff]
  simp only [encode, undistributedKey, map_eq_ok, bind_eq_ok, written_eq_ok]
  constructor
  · rintro ⟨-, -, ⟨agentId, agentWritten, -⟩, -⟩
    exact ⟨agentId, agentWritten⟩
  · rintro ⟨agentId, agentWritten⟩
    exact ⟨_, _, ⟨agentId, agentWritten, rfl⟩, rfl⟩

theorem TraceIndexKeys.exists_encode_iff (keys : TraceIndexKeys) (applicationName : String)
    (time : Int64) (elapsed : Int32) :
    (∃ key, keys.encode applicationName time elapsed = .ok key) ↔
      (Text.utf8 applicationName).length ≤ applicationNameWidth ∧ 0 ≤ time.toInt := by
  rw [← exists_putPadded_iff]
  simp only [encode, map_eq_ok, undistributedKey_eq_ok]
  constructor
  · rintro ⟨-, -, ⟨application, applicationWritten, notNegative, -⟩, -⟩
    exact ⟨⟨application, applicationWritten⟩, notNegative⟩
  · rintro ⟨⟨application, applicationWritten⟩, notNegative⟩
    exact ⟨_, _, ⟨application, applicationWritten, notNegative, rfl⟩, rfl⟩

theorem StatKeys.exists_encode_iff (keys : StatKeys) (row : StatRow) :
    (∃ key, keys.encode row = .ok key) ↔
      (Text.utf8 row.agentId).length ≤ agentIdWidth ∧ 0 ≤ row.baseTimestamp.toInt := by
  rw [← exists_putPadded_iff]
  simp only [encode, undistributedKey, map_eq_ok, bind_eq_ok, written_eq_ok, invertedBytes_eq_ok]
  constructor
  · rintro ⟨-, -, ⟨agentId, agentWritten, -, ⟨notNegative, -⟩, -⟩, -⟩
    exact ⟨⟨agentId, agentWritten⟩, notNegative⟩
  · rintro ⟨⟨agentId, agentWritten⟩, notNegative⟩
    exact ⟨_, _, ⟨agentId, agentWritten, _, ⟨notNegative, rfl⟩, rfl⟩, rfl⟩

end Telemetry.RowKey
