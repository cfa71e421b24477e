import Telemetry.Collector.Config
import Telemetry.Collector.Store
import Telemetry.Delivery.Frame
import Telemetry.RowKey.AgentKey

namespace Telemetry.Collector

open Wire Trace Stat Message RowKey Delivery

/-! What the collector makes of a frame: the writes that store its message. A record is stamped
with the time it arrives at, and its keys are those of the stamped record; a batch goes into the
row its first sample falls in; a registration is listed under the collector's own service. -/

structure Receiver where
  transactionKeys : TransactionKeys
  traceIndexKeys : TraceIndexKeys
  statKeys : StatKeys
  statTimespan : Int64
  serviceUid : Int32

namespace Receiver

def ofConfig (config : Config) : Except RowKeyError Receiver := do
  let transactionKeys ← TransactionKeys.ofBuckets config.traceBuckets
  let traceIndexKeys ← TraceIndexKeys.ofBuckets config.indexBuckets
  let statKeys ← StatKeys.ofBuckets config.statBuckets
  pure { transactionKeys, traceIndexKeys, statKeys
         statTimespan := config.statTimespanMs
         serviceUid := config.serviceUid }

/-- The entry that a record leaves in the trace index: root spans are listed there. -/
def indexWrites (receiver : Receiver) : Record → Except RowKeyError (List Write)
  | .span span =>
      if span.isRoot then do
        let key ← receiver.traceIndexKeys.encodeSpan span
        pure [.traceIndex key ⟨span.transactionId, span.elapsed⟩]
      else .ok []
  | .chunk _ => .ok []

/-- The writes for a stamped record: its cell, then its index entry. -/
def recordWrites (receiver : Receiver) (record : Record) : Except RowKeyError (List Write) := do
  let index ← receiver.indexWrites record
  let key ← receiver.transactionKeys.encode record.transactionId
  pure (.trace key record :: index)

def spanWrites (receiver : Receiver) (now : Int64) (payload : Bytes) :
    Except CollectorError (List Write) := do
  let envelope ← decoded (SpanEnvelope.decode payload)
  let record ← decoded envelope.decodeRecord
  keyed (receiver.recordWrites (record.acceptedAt now))

def statWrites (receiver : Receiver) (payload : Bytes) : Except CollectorError (List Write) := do
  let envelope ← decoded (StatEnvelope.decode payload)
  let (context, batch) ← decoded (envelope.decodeBatch receiver.statTimespan)
  let key ← keyed (receiver.statKeys.encode (StatRow.ofContext envelope.kind context))
  pure [.agentStat key batch]

def streamWrites (receiver : Receiver) (now : Int64) (frame : Frame) :
    Except CollectorError (List Write) :=
  match frame.kind with
  | .span => receiver.spanWrites now frame.payload
  | .spanChunk => receiver.spanWrites now frame.payload
  | .statBatch => receiver.statWrites frame.payload
  | kind => .error (.unexpectedKind kind)

def requestWrites (receiver : Receiver) (frame : Frame) : Except CollectorError (List Write) :=
  match frame.kind with
  | .apiMetadata => do
      let metadata ← decoded (ApiMetadata.decode frame.payload)
      pure [.apiMetadata metadata]
  | .sqlMetadata => do
      let metadata ← decoded (SqlMetadata.decode frame.payload)
      pure [.sqlMetadata metadata]
  | .stringMetadata => do
      let metadata ← decoded (StringMetadata.decode frame.payload)
      pure [.stringMetadata metadata]
  | .agentInfo => do
      let info ← decoded (AgentInfo.decode frame.payload)
      let key ← keyed (AgentKey.ofAgentInfo receiver.serviceUid info).encode
      pure [.agent key info]
  | kind => .error (.unexpectedKind kind)

end Receiver

end Telemetry.Collector
