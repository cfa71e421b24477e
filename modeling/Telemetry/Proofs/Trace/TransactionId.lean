import Telemetry.Proofs.Wire.Prefixed
import Telemetry.Trace.TransactionId

namespace Telemetry.Trace

open Wire

/-! Transaction ids on the wire. -/

theorem TransactionId.readsBack : ReadsBack TransactionId.put TransactionId.read := by
  intro id bytes written
  rcases bind_eq_ok.mp written with ⟨agentId, agentIdWritten, written⟩
  cases written
  rw [List.append_assoc]
  apply (Reader.readsBack_text _ _ _ agentIdWritten).bind
  apply (Reader.reads_vlong id.agentStartTime.toUInt64).bind
  exact (Reader.reads_vlong id.sequence.toUInt64).bind_pure

end Telemetry.Trace
