import Telemetry.Proofs.Collector.Table
import Telemetry.Proofs.Collector.Writes
import Telemetry.Proofs.Delivery.Frame
import Telemetry.Proofs.Message.StatEnvelope
import Telemetry.Proofs.RowKey.Limits

namespace Telemetry.Collector

open Wire Trace Stat Message RowKey Delivery

/-! From an agent to the store. A streamed message that an agent can encode is stored under its
keys as the agent had it, up to the accept time and to what is not sent, or it is refused because
it has no key and nothing is stored. -/

/-! ### What is stored -/

/-- A table with one more cell, under the given key. -/
def Table.Gains {α : Type} (table later : Table (List α)) (key : Bytes) (cell : α) : Prop :=
  ∀ other, later.get? other =
    if other = key then some (table.cells key ++ [cell]) else table.get? other

theorem Table.gains_append {α : Type} (table : Table (List α)) (key : Bytes) (cell : α) :
    table.Gains (table.append key cell) key cell :=
  fun other => table.get?_update key other _

/-- The streamed messages whose lists are short enough for their counts and, for batches, whose
first row begins within 64 bits. -/
def Streamable (timespan : Int64) : TelemetryMessage → Prop
  | .record record => record.ListsFit
  | .statBatch batch => batch.length < 2 ^ 32 ∧
      ∀ first ∈ batch.first?, -2 ^ 63 + timespan.toInt ≤ first.2.toInt
  | .apiMetadata _ => False
  | .sqlMetadata _ => False
  | .stringMetadata _ => False
  | .agentInfo _ => False

/-- The root span that a record is. -/
def rootOf? : Record → Option Span
  | .span span => if span.isRoot then some span else none
  | .chunk _ => none

/-- Whether there are keys for a message that arrives at the given time. -/
def Keyable (now : Int64) : TelemetryMessage → Prop
  | .record record =>
      (Text.utf8 record.transactionId.agentId).length ≤ agentIdWidth ∧
        ∀ span ∈ rootOf? record,
          (Text.utf8 span.applicationName).length ≤ applicationNameWidth ∧ 0 ≤ now.toInt
  | .statBatch batch => ∀ first ∈ batch.first?,
      (Text.utf8 first.1).length ≤ agentIdWidth ∧ 0 ≤ first.2.toInt
  | .apiMetadata _ => True
  | .sqlMetadata _ => True
  | .stringMetadata _ => True
  | .agentInfo _ => True

/-- The cell of a record, and the entry of a root span in the trace index. -/
structure StoresRecord (receiver : Receiver) (now : Int64) (record : Record)
    (store later : Store) : Prop where
  cell : ∃ key, receiver.transactionKeys.encode record.transactionId = .ok key ∧
    store.traces.Gains later.traces key (record.shared.acceptedAt now)
  entry : match rootOf? record with
    | none => later.traceIndex = store.traceIndex
    | some span =>
        ∃ key, receiver.traceIndexKeys.encode span.applicationName now span.elapsed = .ok key ∧
          store.traceIndex.Gains later.traceIndex key ⟨span.transactionId, span.elapsed⟩
  others : later = { store with traces := later.traces, traceIndex := later.traceIndex }

/-- The batch, in the row that begins at the last multiple of the timespan. -/
structure StoresBatch (receiver : Receiver) (batch : StatBatch) (store later : Store) : Prop where
  cell : ∃ agentId first base key, batch.first? = some (agentId, first) ∧
    base.toInt = first.toInt - first.toInt % receiver.statTimespan.toInt ∧
    receiver.statKeys.encode ⟨agentId, batch.kind, base⟩ = .ok key ∧
    store.agentStats.Gains later.agentStats key batch.rounded
  others : later = { store with agentStats := later.agentStats }

def Stores (receiver : Receiver) (now : Int64) (message : TelemetryMessage)
    (store later : Store) : Prop :=
  match message with
  | .record record => StoresRecord receiver now record store later
  | .statBatch batch => StoresBatch receiver batch store later
  | .apiMetadata _ => False
  | .sqlMetadata _ => False
  | .stringMetadata _ => False
  | .agentInfo _ => False

/-! ### Records -/

namespace Receiver

variable {receiver : Receiver} {now : Int64} {record : Record} {frame : Frame}

theorem streamWrites_ofRecord (now : Int64) (fits : record.ListsFit)
    (made : Frame.ofMessage (.record record) = .ok frame) :
    receiver.streamWrites now frame =
      keyed (receiver.recordWrites (record.shared.acceptedAt now)) := by
  rcases bind_eq_ok.mp made with ⟨payload, encoded, made⟩
  cases made
  rcases bind_eq_ok.mp encoded with ⟨envelope, wrapped, written⟩
  rcases bind_eq_ok.mp wrapped with ⟨qualifier, qualifierWritten, wrapped⟩
  rcases bind_eq_ok.mp wrapped with ⟨columnValue, columnWritten, wrapped⟩
  cases wrapped
  have streamed : (TelemetryMessage.record record).kind = .span ∨
      (TelemetryMessage.record record).kind = .spanChunk := by
    cases record with
    | span span => exact .inl rfl
    | chunk chunk => exact .inr rfl
  have cell := Record.decode_cell fits qualifierWritten columnWritten
  rw [streamWrites_of_record streamed, spanWrites, SpanEnvelope.decode_put written]
  change (do
    let record ← decoded (Record.decode qualifier columnValue record.context)
    keyed (receiver.recordWrites (record.acceptedAt now))) = _
  rw [cell]
  rfl

theorem indexWrites_stamped {index : List Write} :
    receiver.indexWrites (record.shared.acceptedAt now) = .ok index ↔
      match rootOf? record with
      | none => index = []
      | some span =>
          ∃ key, receiver.traceIndexKeys.encode span.applicationName now span.elapsed = .ok key ∧
            index = [.traceIndex key ⟨span.transactionId, span.elapsed⟩] := by
  cases record with
  | chunk chunk => simp [Record.shared, Record.acceptedAt, indexWrites, rootOf?, eq_comm]
  | span span =>
      cases root : span.isRoot with
      | false =>
          have unlisted : ∀ other, (Record.span span).shared.acceptedAt now = .span other →
              other.isRoot = false := by
            rintro other ⟨⟩
            exact root
          rw [indexWrites_of_not_root unlisted, Except.ok.injEq, eq_comm]
          simp [rootOf?, root]
      | true =>
          simp only [rootOf?, root]
          exact indexWrites_of_root root

/-- The writes for a record, done one after the other. -/
theorem storesRecord_of_writes {writes : List Write} (store : Store)
    (written : receiver.recordWrites (record.shared.acceptedAt now) = .ok writes) :
    StoresRecord receiver now record store (store.applyAll writes) := by
  rcases recordWrites_eq_ok.mp written with ⟨index, key, indexed, encoded, rfl⟩
  have sameId : (record.shared.acceptedAt now).transactionId = record.transactionId := by
    cases record <;> rfl
  rw [sameId] at encoded
  have listed := indexWrites_stamped.mp indexed
  cases root : rootOf? record with
  | none =>
      rw [root] at listed
      subst listed
      exact ⟨⟨key, encoded, Table.gains_append _ _ _⟩, by rw [root]; rfl, rfl⟩
  | some span =>
      rw [root] at listed
      rcases listed with ⟨indexKey, indexEncoded, rfl⟩
      refine ⟨⟨key, encoded, Table.gains_append _ _ _⟩, ?_, rfl⟩
      rw [root]
      exact ⟨indexKey, indexEncoded, Table.gains_append _ _ _⟩

theorem exists_indexWrites_iff :
    (∃ index, receiver.indexWrites (record.shared.acceptedAt now) = .ok index) ↔
      ∀ span ∈ rootOf? record,
        (Text.utf8 span.applicationName).length ≤ applicationNameWidth ∧ 0 ≤ now.toInt := by
  simp only [indexWrites_stamped]
  cases rootOf? record with
  | none => simp
  | some span =>
      have keys := receiver.traceIndexKeys.exists_encode_iff span.applicationName now span.elapsed
      simp only [Option.mem_some_iff, forall_eq', ← keys]
      constructor
      · rintro ⟨index, key, encoded, -⟩
        exact ⟨key, encoded⟩
      · rintro ⟨key, encoded⟩
        exact ⟨_, key, encoded, rfl⟩

/-- There are writes for a record exactly if there are keys for it. -/
theorem exists_recordWrites_iff :
    (∃ writes, receiver.recordWrites (record.shared.acceptedAt now) = .ok writes) ↔
      Keyable now (.record record) := by
  have sameId : (record.shared.acceptedAt now).transactionId = record.transactionId := by
    cases record <;> rfl
  rw [Keyable, ← receiver.transactionKeys.exists_encode_iff, ← receiver.exists_indexWrites_iff]
  simp only [recordWrites_eq_ok, sameId]
  constructor
  · rintro ⟨writes, index, key, indexed, encoded, -⟩
    exact ⟨⟨key, encoded⟩, ⟨index, indexed⟩⟩
  · rintro ⟨⟨key, encoded⟩, ⟨index, indexed⟩⟩
    exact ⟨_, index, key, indexed, encoded, rfl⟩

end Receiver

/-! ### Batches -/

namespace Receiver

variable {receiver : Receiver} {batch : StatBatch} {frame : Frame} {now : Int64}

theorem streamWrites_ofBatch (now : Int64) (positive : 0 < receiver.statTimespan.toInt)
    (streamable : Streamable receiver.statTimespan (.statBatch batch))
    (made : Frame.ofMessage (.statBatch batch) = .ok frame) :
    ∃ agentId first base, batch.first? = some (agentId, first) ∧
      base.toInt = first.toInt - first.toInt % receiver.statTimespan.toInt ∧
      receiver.streamWrites now frame = keyed ((fun key => [.agentStat key batch.rounded]) <$>
        receiver.statKeys.encode ⟨agentId, batch.kind, base⟩) := by
  rcases bind_eq_ok.mp made with ⟨payload, encoded, made⟩
  cases made
  rcases StatEnvelope.encode_eq_ok encoded with
    ⟨agentId, first, agent, value, begins, agentWritten, valueWritten, rfl⟩
  rcases BatchContext.aligned_eq_ok agentId positive (streamable.2 _ begins) with
    ⟨context, aligned, rfl, rfl, base⟩
  refine ⟨context.agentId, context.initialTimestamp, context.baseTimestamp, begins, base, ?_⟩
  have opened := StatEnvelope.decode_put batch.kind context.initialTimestamp value agentWritten
  have points := (StatBatch.reads_put streamable.1 begins valueWritten).complete_eq
  have read : StatEnvelope.decodeBatch ⟨batch.kind, context.agentId, context.initialTimestamp,
      value⟩ receiver.statTimespan = .ok (context, batch.rounded) := by
    refine bind_eq_ok.mpr ⟨context, ?_, bind_eq_ok.mpr ⟨batch.rounded, points, rfl⟩⟩
    rw [StatEnvelope.context, aligned]
  change receiver.statWrites _ = _
  rw [statWrites, opened]
  change (do
    let read ← decoded (StatEnvelope.decodeBatch _ receiver.statTimespan)
    let key ← keyed (receiver.statKeys.encode (.ofContext batch.kind read.1))
    pure [Write.agentStat key read.2]) = _
  rw [read]
  change (do
    let key ← keyed (receiver.statKeys.encode ⟨context.agentId, batch.kind, context.baseTimestamp⟩)
    pure [Write.agentStat key batch.rounded]) = _
  cases receiver.statKeys.encode ⟨context.agentId, batch.kind, context.baseTimestamp⟩ <;> rfl

/-- A row begins before the epoch exactly if its first sample was taken before it. -/
theorem exists_statKey_iff {agentId : String} {first base : Int64}
    (positive : 0 < receiver.statTimespan.toInt) (begins : batch.first? = some (agentId, first))
    (aligned : base.toInt = first.toInt - first.toInt % receiver.statTimespan.toInt) :
    (∃ key, receiver.statKeys.encode ⟨agentId, batch.kind, base⟩ = .ok key) ↔
      Keyable now (.statBatch batch) := by
  have rows := Int.ediv_mul_add_emod first.toInt receiver.statTimespan.toInt
  have multiple : base.toInt =
      first.toInt / receiver.statTimespan.toInt * receiver.statTimespan.toInt := by omega
  rw [StatKeys.exists_encode_iff, Keyable, begins, multiple,
    Int.mul_nonneg_iff_of_pos_right positive, Int.ediv_nonneg_iff_of_pos positive]
  simp

end Receiver

/-! ### Arrivals -/

namespace Service

variable {service : Service} {message : TelemetryMessage} {frame : Frame} {now : Int64}

theorem receive_of_writes {writes : List Write} (inService : service.outages = [])
    (allowed : service.receiver.streamWrites now frame = .ok writes) :
    (service.receive now frame.encode).1 = .ok () ∧
      (service.receive now frame.encode).2.store = service.store.applyAll writes := by
  rw [receive, Frame.decode_encode]
  simp only [handle, allowed, execute_ok inService, and_self]

theorem receive_of_error {cause : RowKeyError}
    (refused : service.receiver.streamWrites now frame = .error (.rowKey cause)) :
    (service.receive now frame.encode).1 = .error (.rejected (.rowKey cause)) ∧
      (service.receive now frame.encode).2.store = service.store := by
  rw [receive, Frame.decode_encode]
  simp only [handle, refused, execute_error, and_self]

/-- Every streamed message that can be encoded is stored as it was sent, or has no key and changes
nothing. -/
theorem receive_ofMessage (inService : service.outages = [])
    (positive : 0 < service.receiver.statTimespan.toInt)
    (streamable : Streamable service.receiver.statTimespan message)
    (made : Frame.ofMessage message = .ok frame) (now : Int64) :
    (Keyable now message ∧ (service.receive now frame.encode).1 = .ok () ∧
      Stores service.receiver now message service.store
        (service.receive now frame.encode).2.store) ∨
    (¬ Keyable now message ∧
      (∃ cause, (service.receive now frame.encode).1 = .error (.rejected (.rowKey cause))) ∧
      (service.receive now frame.encode).2.store = service.store) := by
  cases message with
  | record record =>
      have asked := service.receiver.streamWrites_ofRecord now streamable made
      have possible : _ ↔ Keyable now (.record record) := service.receiver.exists_recordWrites_iff
      cases written : service.receiver.recordWrites (record.shared.acceptedAt now) with
      | ok writes =>
          rw [written] at asked
          rcases receive_of_writes inService asked with ⟨outcome, store⟩
          refine .inl ⟨possible.mp ⟨writes, written⟩, outcome, ?_⟩
          rw [store]
          exact Receiver.storesRecord_of_writes service.store written
      | error cause =>
          rw [written] at asked
          rcases receive_of_error asked with ⟨outcome, store⟩
          refine .inr ⟨fun keyable => ?_, ⟨cause, outcome⟩, store⟩
          rcases possible.mpr keyable with ⟨writes, other⟩
          rw [written] at other
          cases other
  | statBatch batch =>
      rcases service.receiver.streamWrites_ofBatch now positive streamable made with
        ⟨agentId, first, base, begins, aligned, asked⟩
      have possible : _ ↔ Keyable now (.statBatch batch) :=
        service.receiver.exists_statKey_iff positive begins aligned
      cases encoded : service.receiver.statKeys.encode ⟨agentId, batch.kind, base⟩ with
      | ok key =>
          rw [encoded] at asked
          rcases receive_of_writes inService asked with ⟨outcome, store⟩
          refine .inl ⟨possible.mp ⟨key, encoded⟩, outcome, ?_⟩
          rw [store]
          exact ⟨⟨agentId, first, base, key, begins, aligned, encoded,
            Table.gains_append _ _ _⟩, rfl⟩
      | error cause =>
          rw [encoded] at asked
          rcases receive_of_error asked with ⟨outcome, store⟩
          refine .inr ⟨fun keyable => ?_, ⟨cause, outcome⟩, store⟩
          rcases possible.mpr keyable with ⟨key, other⟩
          rw [encoded] at other
          cases other
  | apiMetadata => cases streamable
  | sqlMetadata => cases streamable
  | stringMetadata => cases streamable
  | agentInfo => cases streamable

set_option maxRecDepth 2000 in
theorem receive_ofMessage_nestedCalls :
    ∃ service, ofConfig {} [] = .ok service ∧ service.outages = [] ∧
      0 < service.receiver.statTimespan.toInt ∧
      Streamable service.receiver.statTimespan (.record (.span SpanEnvelope.nestedCalls)) ∧
      Frame.ofMessage (.record (.span SpanEnvelope.nestedCalls)) =
        .ok ⟨.span, SpanEnvelope.nestedCallsPayload⟩ ∧
      (service.receive 1000 (Frame.mk .span SpanEnvelope.nestedCallsPayload).encode).1 = .ok () ∧
      Stores service.receiver 1000 (.record (.span SpanEnvelope.nestedCalls)) service.store
        (service.receive 1000 (Frame.mk .span SpanEnvelope.nestedCallsPayload).encode).2.store := by
  rcases Receiver.exists_ofConfig {} (by decide) (by decide) (by decide) with
    ⟨receiver, made⟩
  have timespan : receiver.statTimespan = 60000 := by
    cases made
    rfl
  let service : Service := ⟨receiver, .empty, .zero, []⟩
  have positive : 0 < service.receiver.statTimespan.toInt := by
    change 0 < receiver.statTimespan.toInt
    rw [timespan]
    decide
  have streamable : Streamable service.receiver.statTimespan
      (.record (.span SpanEnvelope.nestedCalls)) := by
    simp [Streamable, Record.ListsFit, SpanEnvelope.nestedCalls]
  have encoded : Frame.ofMessage (.record (.span SpanEnvelope.nestedCalls)) =
      .ok ⟨.span, SpanEnvelope.nestedCallsPayload⟩ := by
    cbv
  have keyable : Keyable 1000 (.record (.span SpanEnvelope.nestedCalls)) := by
    refine ⟨by decide, ?_⟩
    rintro span ⟨⟩
    decide
  refine ⟨service, bind_eq_ok.mpr ⟨receiver, made, rfl⟩, rfl, positive, streamable, encoded, ?_⟩
  rcases receive_ofMessage rfl positive streamable encoded 1000 with
    ⟨-, outcome, stored⟩ | ⟨refused, -⟩
  · exact ⟨outcome, stored⟩
  · exact absurd keyable refused

end Service

end Telemetry.Collector
