import Telemetry.Proofs.Trace.SpanEvent
import Telemetry.Trace.Cell

namespace Telemetry.Trace

open Wire

/-! Reading back the cells of spans and chunks. A record comes back from its qualifier, its column
value and the two values that its context keeps. -/

/-- Every list of the record is short enough for its count. -/
def Record.ListsFit : Record → Prop
  | .span value =>
      value.annotations.length < 2 ^ 32 ∧ value.spanEvents.length < 2 ^ 32 ∧
        ∀ event ∈ value.spanEvents, event.annotations.length < 2 ^ 32
  | .chunk value =>
      value.spanEvents.length < 2 ^ 32 ∧
        ∀ event ∈ value.spanEvents, event.annotations.length < 2 ^ 32

/-- The record without what only the agent knows. -/
def Record.shared : Record → Record
  | .span value => .span { value with
      parentApplicationName := none
      parentApplicationServiceType := none }
  | .chunk value => .chunk { value with
      endPoint := none
      serviceType := none
      applicationServiceType := none }

/-! ### Qualifiers -/

namespace Qualifier

theorem reads_kind (kind : RecordKind) : Reader.Reads readKind [kind.code] kind := by
  cases kind <;> exact fun _ => rfl

theorem reads_asyncId (id : Option LocalAsyncId) : Reader.Reads readAsyncId (putAsyncId id) id := by
  cases id with
  | none => exact fun _ => rfl
  | some id =>
      rw [putAsyncId, List.append_assoc]
      apply (Reader.reads_bool true).bind
      apply (Reader.reads_int32 id.asyncId).bind
      exact (Reader.reads_vint id.sequence.toUInt32).bind_pure

theorem readsBack : ReadsBack put read := by
  intro qualifier bytes written
  rcases bind_eq_ok.mp written with ⟨applicationName, applicationNameWritten, written⟩
  rcases bind_eq_ok.mp written with ⟨agentId, agentIdWritten, written⟩
  cases written
  simp only [List.append_assoc, List.cons_append]
  apply (reads_kind qualifier.kind).bind
  apply (Reader.readsBack_text _ _ _ applicationNameWritten).bind
  apply (Reader.readsBack_text _ _ _ agentIdWritten).bind
  apply (Reader.reads_vlong _).bind
  apply (Reader.reads_int64 qualifier.spanId).bind
  apply (Reader.reads_svint qualifier.firstSequence).bind
  exact (reads_asyncId qualifier.localAsyncId).bind_pure

end Qualifier

/-- Both ends take the first sequence from the same events. -/
theorem reads_checkFirstSequence {qualifier : Qualifier} {events : List SpanEvent}
    (same : firstSequence events = qualifier.firstSequence) :
    Reader.Reads (checkFirstSequence qualifier events) [] () := by
  rw [checkFirstSequence, if_pos same]
  exact Reader.Reads.pure ()

/-! ### Spans -/

theorem SpanFlags.ofNat_packFlags (flags : SpanFlags) :
    SpanFlags.ofNat (packFlags flags.toList) = flags := by
  simp only [SpanFlags.ofNat, testBit_packFlags]
  rfl

namespace Span

theorem reads_flags (span : Span) :
    Reader.Reads (SpanFlags.ofNat <$> Reader.flags "span" SpanFlags.width)
      (putFlags span.flags.toList) span.flags := by
  have reads := (Reader.reads_flags "span" span.flags.toList
    (by simp [SpanFlags.toList])).map SpanFlags.ofNat
  rwa [SpanFlags.ofNat_packFlags] at reads

/-- A root span has no parent to write. -/
theorem reads_parentSpanId (span : Span) :
    Reader.Reads (Reader.orElseValue (!span.flags.root) 0 Reader.int64)
      (if span.flags.root then [] else putInt64 span.parentSpanId) span.parentSpanId := by
  have reads : Reader.Reads (Reader.orElseValue (!span.flags.root) 0 Reader.int64)
      (if !span.flags.root then putInt64 span.parentSpanId else []) span.parentSpanId :=
    Reader.reads_orElseValue (Reader.reads_int64 span.parentSpanId) (by simp [flags, isRoot])
  cases root : span.flags.root <;> simpa [root] using reads

theorem reads_flag (span : Span) :
    Reader.Reads (Reader.orElseValue span.flags.flag 0 Reader.int16)
      (if span.flags.flag then putInt16 span.flag else []) span.flag :=
  Reader.reads_orElseValue (Reader.reads_int16 span.flag) (by simp [flags])

theorem reads_loggingInfo (span : Span) :
    Reader.Reads (Reader.orElseValue span.flags.loggingInfo 0 Reader.byte)
      (if span.flags.loggingInfo then [span.loggingTransactionInfo] else [])
      span.loggingTransactionInfo :=
  Reader.reads_orElseValue (Reader.reads_byte span.loggingTransactionInfo) (by simp [flags])

/-- The start time is written as the time until the record was accepted. -/
theorem accept_sub_offset (span : Span) :
    span.collectorAcceptTime - (span.collectorAcceptTime - span.startTime) = span.startTime := by
  grind

/-- What the qualifier of a span names. -/
def name (span : Span) : Qualifier where
  kind := .span
  applicationName := span.applicationName
  agentId := span.agentId
  agentStartTime := span.agentStartTime
  spanId := span.spanId
  firstSequence := firstSequence span.spanEvents
  localAsyncId := none

theorem reads_qualifier {span : Span} {bytes : Bytes} (written : span.qualifier = .ok bytes) :
    Reader.Reads Qualifier.read bytes span.name := by
  rcases bind_eq_ok.mp written with ⟨-, -, written⟩
  exact Qualifier.readsBack span.name bytes written

theorem reads_column {span : Span} {bytes : Bytes} (fits : (Record.span span).ListsFit)
    (written : span.column = .ok bytes) :
    Reader.Reads (readColumn span.name ⟨span.transactionId, span.collectorAcceptTime⟩) bytes
      (Record.span span).shared := by
  rcases fits with ⟨annotationsFit, eventsFit, eventAnnotationsFit⟩
  rcases bind_eq_ok.mp written with ⟨rpc, rpcWritten, written⟩
  rcases bind_eq_ok.mp written with ⟨endPoint, endPointWritten, written⟩
  rcases bind_eq_ok.mp written with ⟨remoteAddr, remoteAddrWritten, written⟩
  rcases bind_eq_ok.mp written with ⟨errCode, errCodeWritten, written⟩
  rcases bind_eq_ok.mp written with ⟨exception, exceptionWritten, written⟩
  rcases bind_eq_ok.mp written with ⟨acceptorHost, acceptorHostWritten, written⟩
  rcases ite_bind_eq_ok.mp written with ⟨annotations, annotationsWritten, written⟩
  rcases bind_eq_ok.mp written with ⟨events, eventsWritten, written⟩
  cases written
  simp only [List.append_assoc, List.cons_append]
  apply (Reader.reads_byte columnVersion).bind
  -- The column value has all the fields but those that the name and the context give.
  change Reader.Reads _ _ (Record.span { span with
    parentApplicationName := none
    parentApplicationServiceType := none })
  apply Reader.Reads.map Record.span
  apply (reads_flags span).bind
  apply (reads_parentSpanId span).bind
  apply (Reader.reads_svlong _).bind
  apply (Reader.reads_svint span.elapsed).bind
  apply (Reader.readsBack_optionalText _ _ rpcWritten).bind
  apply (Reader.reads_narrow16 _ span.serviceType).bind
  apply (Reader.readsBack_optionalText _ _ endPointWritten).bind
  apply (Reader.readsBack_optionalText _ _ remoteAddrWritten).bind
  apply (Reader.reads_svint span.apiId).bind
  apply (Reader.reads_optional Reader.readsBack_svint errCodeWritten).bind
  apply (Reader.reads_optional ExceptionInfo.readsBack exceptionWritten).bind
  apply (reads_flag span).bind
  apply (reads_loggingInfo span).bind
  apply (Reader.readsBack_optionalText _ _ acceptorHostWritten).bind
  have annotationsRead := Annotation.reads_listUnlessEmpty annotationsFit annotationsWritten
  apply annotationsRead.bind
  rw [accept_sub_offset]
  have eventsRead := SpanEvent.reads_list eventsFit eventAnnotationsFit eventsWritten
  rw [← List.append_nil events]
  exact eventsRead.bind (reads_checkFirstSequence rfl).bind_pure

end Span

/-! ### Span chunks -/

namespace SpanChunk

/-- What the qualifier of a chunk names. -/
def name (chunk : SpanChunk) : Qualifier where
  kind := .chunk
  applicationName := chunk.applicationName
  agentId := chunk.agentId
  agentStartTime := chunk.agentStartTime
  spanId := chunk.spanId
  firstSequence := firstSequence chunk.spanEvents
  localAsyncId := chunk.localAsyncId

theorem reads_qualifier {chunk : SpanChunk} {bytes : Bytes}
    (written : chunk.qualifier = .ok bytes) : Reader.Reads Qualifier.read bytes chunk.name := by
  rcases bind_eq_ok.mp written with ⟨-, -, written⟩
  exact Qualifier.readsBack chunk.name bytes written

theorem reads_column {chunk : SpanChunk} {bytes : Bytes} (fits : (Record.chunk chunk).ListsFit)
    (written : chunk.column = .ok bytes) :
    Reader.Reads (readColumn chunk.name ⟨chunk.transactionId, chunk.collectorAcceptTime⟩) bytes
      (Record.chunk chunk).shared := by
  rcases fits with ⟨eventsFit, eventAnnotationsFit⟩
  rw [column] at written
  split at written
  case isTrue => cases written
  case isFalse =>
    rcases bind_eq_ok.mp written with ⟨events, eventsWritten, written⟩
    cases written
    apply (Reader.reads_byte columnVersion).bind
    change Reader.Reads _ _ (Record.chunk { chunk with
      endPoint := none
      serviceType := none
      applicationServiceType := none })
    apply Reader.Reads.map Record.chunk
    have eventsRead := SpanEvent.reads_list eventsFit eventAnnotationsFit eventsWritten
    rw [← List.append_nil events]
    exact eventsRead.bind (reads_checkFirstSequence rfl).bind_pure

end SpanChunk

/-! ### Records -/

namespace Record

/-- The cell of a record gives the record back, except for what only the agent knows. -/
theorem decode_cell {record : Record} {qualifierBytes columnBytes : Bytes}
    (fits : record.ListsFit) (qualifierWritten : record.qualifier = .ok qualifierBytes)
    (columnWritten : record.column = .ok columnBytes) :
    decode qualifierBytes columnBytes record.context = .ok record.shared := by
  cases record with
  | span value =>
      have name := (Span.reads_qualifier qualifierWritten).complete_eq
      have content := (Span.reads_column fits columnWritten).complete_eq
      exact bind_eq_ok.mpr ⟨value.name, name, content⟩
  | chunk value =>
      have name := (SpanChunk.reads_qualifier qualifierWritten).complete_eq
      have content := (SpanChunk.reads_column fits columnWritten).complete_eq
      exact bind_eq_ok.mpr ⟨value.name, name, content⟩

end Record

end Telemetry.Trace
