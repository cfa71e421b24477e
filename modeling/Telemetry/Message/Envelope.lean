import Telemetry.Message.Metadata
import Telemetry.Trace.Cell
import Telemetry.Stat.Batch

namespace Telemetry.Message

open Wire Trace Stat

/-! Messages and their payloads. Cells and batches leave out what the place they are stored in
knows; the envelope around them carries exactly that, so that the collector can rebuild the
context they are read with. -/

inductive TelemetryMessage where
  | record (record : Record)
  | statBatch (batch : StatBatch)
  | apiMetadata (metadata : ApiMetadata)
  | sqlMetadata (metadata : SqlMetadata)
  | stringMetadata (metadata : StringMetadata)
  | agentInfo (info : AgentInfo)
deriving DecidableEq

/-- A span or chunk whose cell is still encoded. -/
structure SpanEnvelope where
  transactionId : TransactionId
  baseTime : Int64
  qualifier : Bytes
  columnValue : Bytes
deriving DecidableEq, Repr

/-- A batch whose samples are still encoded. -/
structure StatEnvelope where
  kind : StatKind
  agentId : String
  firstTimestamp : Int64
  value : Bytes
deriving DecidableEq, Repr

namespace SpanEnvelope

def put (envelope : SpanEnvelope) : Except EncodeError Bytes := do
  let transactionId ← envelope.transactionId.put
  let qualifier ← putBytes envelope.qualifier
  pure (envelopeVersion :: transactionId ++ putSvlong envelope.baseTime ++ qualifier ++
    envelope.columnValue)

def read : Reader SpanEnvelope := do
  readVersion
  let transactionId ← TransactionId.read
  let baseTime ← Reader.svlong
  match ← Reader.optionalBytes with
  | none => Reader.malformed .missingSpanQualifier
  | some qualifier =>
      let columnValue ← Reader.takeAll
      pure { transactionId, baseTime, qualifier, columnValue }

def decode : Bytes → Except DecodeError SpanEnvelope := Reader.front read

def context (envelope : SpanEnvelope) : CellContext :=
  ⟨envelope.transactionId, envelope.baseTime⟩

def decodeRecord (envelope : SpanEnvelope) : Except DecodeError Record :=
  Record.decode envelope.qualifier envelope.columnValue envelope.context

def ofRecord (record : Record) : Except EncodeError SpanEnvelope := do
  let qualifier ← record.qualifier
  let columnValue ← record.column
  pure { transactionId := record.transactionId, baseTime := record.acceptTime, qualifier,
         columnValue }

end SpanEnvelope

namespace StatEnvelope

def read : Reader StatEnvelope := do
  readVersion
  let code ← Reader.byte
  let kind ← Reader.lift (StatKind.ofCode code)
  let agentId ← Reader.text "stat agent id"
  let firstTimestamp ← Reader.svlong
  let value ← Reader.takeAll
  pure { kind, agentId, firstTimestamp, value }

def decode : Bytes → Except DecodeError StatEnvelope := Reader.front read

def context (envelope : StatEnvelope) (timespan : Int64) : Except DecodeError BatchContext :=
  match BatchContext.aligned envelope.agentId envelope.firstTimestamp timespan with
  | .ok context => .ok context
  | .error cause => .error (.invalidFormat (.unusableContext cause))

def decodeBatch (envelope : StatEnvelope) (timespan : Int64) :
    Except DecodeError (BatchContext × StatBatch) := do
  let context ← envelope.context timespan
  let batch ← Reader.complete (StatBatch.read envelope.kind context) envelope.value
  pure (context, batch)

def encode (batch : StatBatch) : Except EncodeError Bytes :=
  match batch.first? with
  | none => .error (.emptyBatch "stat data points")
  | some (agentId, firstTimestamp) => do
      let agent ← putText agentId
      let value ← batch.put
      pure (envelopeVersion :: batch.kind.code :: agent ++ putSvlong firstTimestamp ++ value)

end StatEnvelope

namespace TelemetryMessage

def kind : TelemetryMessage → MessageKind
  | .record (.span _) => .span
  | .record (.chunk _) => .spanChunk
  | .statBatch _ => .statBatch
  | .apiMetadata _ => .apiMetadata
  | .sqlMetadata _ => .sqlMetadata
  | .stringMetadata _ => .stringMetadata
  | .agentInfo _ => .agentInfo

/-- The payload of a message. The kind is not part of it. -/
def encode : TelemetryMessage → Except EncodeError Bytes
  | .record content => do
      let envelope ← SpanEnvelope.ofRecord content
      envelope.put
  | .statBatch batch => StatEnvelope.encode batch
  | .apiMetadata metadata => metadata.encode
  | .sqlMetadata metadata => metadata.encode
  | .stringMetadata metadata => metadata.encode
  | .agentInfo info => info.encode

end TelemetryMessage

end Telemetry.Message
