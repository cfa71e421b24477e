import Mathlib
import Telemetry.Message.Envelope
import Telemetry.Proofs.Message.Metadata
import Telemetry.Proofs.Trace.Cell
import Telemetry.Proofs.Trace.TransactionId

namespace Telemetry.Message

open Wire Trace

/-! The payload of a span or a chunk gives the record back. The envelope carries the transaction id
and the accept time beside the cell, which is all that the cell's context has to know. -/

namespace SpanEnvelope

theorem decode_put {envelope : SpanEnvelope} {payload : Bytes}
    (written : envelope.put = .ok payload) : decode payload = .ok envelope := by
  rcases bind_eq_ok.mp written with ⟨id, idWritten, written⟩
  rcases bind_eq_ok.mp written with ⟨qualifier, qualifierWritten, written⟩
  cases written
  simp only [List.append_assoc, List.cons_append]
  refine Reader.ReadsAll.front_eq (reads_version.bind_all ?_)
  apply (TransactionId.readsBack _ _ idWritten).bind_all
  apply (Reader.reads_svlong envelope.baseTime).bind_all
  apply (Reader.reads_presentBytes qualifierWritten).bind_all
  exact Reader.readsAll_takeAll _ envelope.columnValue

/-- Every record that can be encoded is decoded as it was, except for what only the agent knows. -/
theorem decodeRecord_encode {record : Record} {payload : Bytes} (fits : record.ListsFit)
    (encoded : (TelemetryMessage.record record).encode = .ok payload) :
    ∃ envelope, decode payload = .ok envelope ∧
      envelope.transactionId = record.transactionId ∧ envelope.baseTime = record.acceptTime ∧
      envelope.decodeRecord = .ok record.shared := by
  rcases bind_eq_ok.mp encoded with ⟨envelope, made, written⟩
  rcases bind_eq_ok.mp made with ⟨qualifier, qualifierWritten, made⟩
  rcases bind_eq_ok.mp made with ⟨columnValue, columnWritten, made⟩
  cases made
  exact ⟨_, decode_put written, rfl, rfl, Record.decode_cell fits qualifierWritten columnWritten⟩

/-- A root span at the bounds of its integers, whose second event repeats parts of the first. -/
def nestedCalls : Span where
  transactionId := ⟨"", -1, 0⟩
  agentId := "\u0000"
  applicationName := "a"
  agentStartTime := 0
  spanId := -1
  parentSpanId := 0
  startTime := 9223372036854775807
  elapsed := -1
  rpc := some ""
  serviceType := -32768
  endPoint := none
  remoteAddr := none
  apiId := 0
  errCode := some 0
  exceptionInfo := none
  flag := 0
  acceptorHost := none
  loggingTransactionInfo := 255
  collectorAcceptTime := -9223372036854775808
  parentApplicationName := some "p"
  parentApplicationServiceType := some 1
  annotations := []
  spanEvents :=
    [{ sequence := 32767, depth := 1, startElapsed := -2147483648, endElapsed := 0,
       serviceType := 5, apiId := 0, rpc := none, endPoint := none, destinationId := none,
       nextSpanId := none, asyncId := none, exceptionInfo := none,
       annotations := [⟨0, .double 0x7ff8000000000001⟩] },
     { sequence := -32768, depth := 1, startElapsed := 2147483647, endElapsed := 0,
       serviceType := 6, apiId := 0, rpc := some "", endPoint := none, destinationId := none,
       nextSpanId := none, asyncId := none, exceptionInfo := none, annotations := [] }]

def nestedCallsPayload : Bytes :=
  [1, 0, 255, 255, 255, 255, 255, 255, 255, 255, 255, 1, 0, 255, 255, 255, 255, 255, 255, 255, 255,
   255, 1, 36, 1, 2, 97, 2, 0, 0, 255, 255, 255, 255, 255, 255, 255, 255, 254, 255, 3, 0, 0, 0, 19,
   2, 1, 0, 255, 255, 3, 1, 1, 0, 0, 255, 1, 2, 0, 64, 254, 255, 3, 255, 255, 255, 255, 15, 2, 10,
   0, 0, 1, 0, 5, 127, 248, 0, 0, 0, 0, 0, 1, 5, 1, 1, 12, 0, 0, 0]

theorem decodeRecord_encode_nestedCalls :
    (Record.span nestedCalls).ListsFit ∧
    (TelemetryMessage.record (.span nestedCalls)).encode = .ok nestedCallsPayload ∧
    ∃ envelope, decode nestedCallsPayload = .ok envelope ∧
      envelope.transactionId = nestedCalls.transactionId ∧
      envelope.baseTime = nestedCalls.collectorAcceptTime ∧
      envelope.decodeRecord = .ok (Record.span nestedCalls).shared := by
  have fits : (Record.span nestedCalls).ListsFit := by simp [Record.ListsFit, nestedCalls]
  have encoded : (TelemetryMessage.record (.span nestedCalls)).encode = .ok nestedCallsPayload := by
    cbv
  exact ⟨fits, encoded, decodeRecord_encode fits encoded⟩

end SpanEnvelope

end Telemetry.Message
