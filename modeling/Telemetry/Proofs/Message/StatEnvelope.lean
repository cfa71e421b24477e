import Telemetry.Proofs.Message.SpanEnvelope
import Telemetry.Proofs.Stat.Batch
import Telemetry.Proofs.Wire.Steady

namespace Telemetry.Message

open Wire Stat

/-! The payload of a batch gives its points back. The context that the reader needs is rebuilt from
the envelope, for whichever row width the collector keeps. -/

theorem reads_statKind (kind : StatKind) :
    Reader.Reads (Reader.lift (StatKind.ofCode kind.code)) [] kind := by
  cases kind <;> exact fun _ => rfl

namespace StatEnvelope

theorem encode_eq_ok {batch : StatBatch} {payload : Bytes} (encoded : encode batch = .ok payload) :
    ∃ agentId timestamp agent value, batch.first? = some (agentId, timestamp) ∧
      putText agentId = .ok agent ∧ batch.put = .ok value ∧
      payload = envelopeVersion :: batch.kind.code :: agent ++ putSvlong timestamp ++ value := by
  rw [encode] at encoded
  split at encoded
  next => cases encoded
  next agentId timestamp begins =>
    rcases bind_eq_ok.mp encoded with ⟨agent, agentWritten, encoded⟩
    rcases bind_eq_ok.mp encoded with ⟨value, valueWritten, encoded⟩
    cases encoded
    exact ⟨agentId, timestamp, agent, value, begins, agentWritten, valueWritten, rfl⟩

theorem decode_put (kind : StatKind) {agentId : String} {agent : Bytes} (timestamp : Int64)
    (value : Bytes) (agentWritten : putText agentId = .ok agent) :
    decode (envelopeVersion :: kind.code :: agent ++ putSvlong timestamp ++ value) =
      .ok ⟨kind, agentId, timestamp, value⟩ := by
  simp only [List.append_assoc, List.cons_append]
  refine Reader.ReadsAll.front_eq (reads_version.bind_all ?_)
  apply (Reader.reads_byte kind.code).bind_all
  apply (reads_statKind kind).bind_all
  apply (Reader.readsBack_text "stat agent id" agentId agent agentWritten).bind_all
  apply (Reader.reads_svlong timestamp).bind_all
  exact Reader.readsAll_takeAll _ value

theorem read_of_decodeBatch {envelope : StatEnvelope} {timespan : Int64} {context : BatchContext}
    {batch : StatBatch} (decoded : envelope.decodeBatch timespan = .ok (context, batch)) :
    context.initialTimestamp = envelope.firstTimestamp ∧
      StatBatch.read envelope.kind context envelope.value = .ok batch [] := by
  rcases bind_eq_ok.mp decoded with ⟨aligned, alignment, decoded⟩
  rcases bind_eq_ok.mp decoded with ⟨points, pointsRead, decoded⟩
  cases decoded
  refine ⟨?_, Reader.read_of_complete pointsRead⟩
  rw [StatEnvelope.context] at alignment
  split at alignment
  next made =>
    cases alignment
    exact BatchContext.initialTimestamp_of_aligned made
  next => cases alignment

/-- Every batch that can be encoded is decoded with all its points, CPU loads rounded, and its
reader stops behind it whatever follows. -/
theorem decodeBatch_encode {batch : StatBatch} {payload : Bytes} {timespan : Int64}
    (fits : batch.length < 2 ^ 32) (positive : 0 < timespan.toInt)
    (room : ∀ first ∈ batch.first?, -2 ^ 63 + timespan.toInt ≤ first.2.toInt)
    (encoded : (TelemetryMessage.statBatch batch).encode = .ok payload) :
    (∃ envelope context, decode payload = .ok envelope ∧
      envelope.decodeBatch timespan = .ok (context, batch.rounded) ∧
      batch.first? = some (context.agentId, context.initialTimestamp) ∧
      context.baseTimestamp.toInt =
        context.initialTimestamp.toInt - context.initialTimestamp.toInt % timespan.toInt) ∧
    ∀ values context rest, batch.put = .ok values →
      batch.first? = some (context.agentId, context.initialTimestamp) →
      StatBatch.read batch.kind context (values ++ rest) = .ok batch.rounded rest := by
  rcases encode_eq_ok encoded with
    ⟨agentId, timestamp, agent, value, begins, agentWritten, valueWritten, rfl⟩
  constructor
  · have above : -2 ^ 63 + timespan.toInt ≤ timestamp.toInt := room _ begins
    rcases BatchContext.aligned_eq_ok agentId positive above with
      ⟨context, made, rfl, rfl, aligned⟩
    have reads := StatBatch.reads_put fits begins valueWritten
    refine ⟨_, context, decode_put batch.kind _ value agentWritten, ?_, begins, aligned⟩
    refine bind_eq_ok.mpr ⟨context, ?_, bind_eq_ok.mpr ⟨batch.rounded, reads.complete_eq, rfl⟩⟩
    rw [StatEnvelope.context, made]
  · intro values context rest written begins
    exact StatBatch.reads_put fits begins written rest

/-- Two samples of a connection pool, as far apart as timestamps may be but for one row. -/
def poolSamples : StatBatch where
  kind := .dataSource
  points :=
    [{ agentId := "a", startTimestamp := -1, timestamp := -9223372036854770808
       value := ⟨-2147483648, -32768, none, some "", 0, 8⟩ },
     { agentId := "a", startTimestamp := -1, timestamp := -1
       value := ⟨2147483647, 32767, some "d", some "", 0, 8⟩ }]

def poolSamplesPayload : Bytes :=
  [1, 6, 2, 97, 239, 177, 255, 255, 255, 255, 255, 255, 255, 1, 2, 2, 2, 255, 255, 255, 255, 255,
   255, 255, 255, 255, 1, 247, 216, 255, 255, 255, 255, 255, 255, 127, 4, 2, 160, 255, 255, 255,
   255, 15, 254, 255, 255, 255, 15, 255, 255, 3, 254, 255, 3, 1, 2, 100, 0, 0, 16]

theorem decodeBatch_encode_poolSamples :
    poolSamples.length < 2 ^ 32 ∧ 0 < (5000 : Int64).toInt ∧
    (∀ first ∈ poolSamples.first?, -2 ^ 63 + (5000 : Int64).toInt ≤ first.2.toInt) ∧
    (TelemetryMessage.statBatch poolSamples).encode = .ok poolSamplesPayload ∧
    (∃ envelope context, decode poolSamplesPayload = .ok envelope ∧
      envelope.decodeBatch 5000 = .ok (context, poolSamples.rounded) ∧
      poolSamples.first? = some (context.agentId, context.initialTimestamp) ∧
      context.baseTimestamp.toInt = context.initialTimestamp.toInt -
        context.initialTimestamp.toInt % (5000 : Int64).toInt) ∧
    ∀ values context rest, poolSamples.put = .ok values →
      poolSamples.first? = some (context.agentId, context.initialTimestamp) →
      StatBatch.read poolSamples.kind context (values ++ rest) = .ok poolSamples.rounded rest := by
  have fits : poolSamples.length < 2 ^ 32 := by decide
  have positive : 0 < (5000 : Int64).toInt := by decide
  have room : ∀ first ∈ poolSamples.first?,
      -2 ^ 63 + (5000 : Int64).toInt ≤ first.2.toInt := by
    rintro first ⟨⟩
    decide
  have encoded : (TelemetryMessage.statBatch poolSamples).encode = .ok poolSamplesPayload := by
    cbv
  exact ⟨fits, positive, room, encoded, decodeBatch_encode fits positive room encoded⟩

end StatEnvelope

end Telemetry.Message
