import Telemetry.Proofs.Collector.Table
import Telemetry.Proofs.Collector.Writes

namespace Telemetry.Collector

open Wire Trace Message RowKey Delivery

/-! How the trace index comes about. Over any sequence of frames it lists the root spans that were
stored, each under the key of its application, accept time and slot, and those with one key in the
order of their arrival. -/

/-- What reaches a collector: a frame on a stream, at some time of its clock, or a request. -/
inductive Arrival where
  | streamed (now : Int64) (frame : Frame)
  | request (id : UInt64) (frame : Frame)
deriving DecidableEq, Repr

/-- The root span that a streamed frame carries. -/
def rootSpan? (frame : Frame) : Option Span :=
  if frame.kind = .span ∨ frame.kind = .spanChunk then
    match (SpanEnvelope.decode frame.payload).bind SpanEnvelope.decodeRecord with
    | .ok (.span span) => if span.isRoot then some span else none
    | _ => none
  else none

/-- The key of a span in the trace index, without its bucket. -/
def indexKey? (span : Span) : Option Bytes :=
  (TraceIndexKeys.undistributedKey span.applicationName span.collectorAcceptTime
    (elapsedSlot span.elapsed.toInt)).toOption

theorem indexKey?_eq_some {span : Span} {key : Bytes} : indexKey? span = some key ↔
    TraceIndexKeys.undistributedKey span.applicationName span.collectorAcceptTime
      (elapsedSlot span.elapsed.toInt) = .ok key :=
  toOption_eq_some

def indexEntry (span : Span) : TraceIndexEntry := ⟨span.transactionId, span.elapsed⟩

namespace Service

def takeIn (service : Service) : Arrival → Service
  | .streamed now frame => (service.handle now frame).2
  | .request id frame => (service.handleRequest id frame).2

def takeInAll (arrivals : List Arrival) (service : Service) : Service :=
  arrivals.foldl takeIn service

/-- The root span that is handled successfully, with the time of its arrival. -/
def handledRoot? (service : Service) : Arrival → Option Span
  | .streamed now frame =>
      if (service.handle now frame).1.isOk then
        (rootSpan? frame).map fun span => { span with collectorAcceptTime := now }
      else none
  | .request _ _ => none

/-- The root spans that are handled successfully, in the order of their arrival. -/
def handledRoots : List Arrival → Service → List Span
  | [], _ => []
  | arrival :: arrivals, service =>
      (service.handledRoot? arrival).toList ++ handledRoots arrivals (service.takeIn arrival)

end Service

/-- The table lists exactly these spans. -/
structure Indexes (keys : TraceIndexKeys) (table : Table (List TraceIndexEntry))
    (spans : List Span) : Prop where
  keyed : ∀ span ∈ spans, ∃ key, indexKey? span = some key
  rows : ∀ present ∈ table.rows.map Prod.fst,
    ∃ span ∈ spans, ∃ key, indexKey? span = some key ∧ present = keys.distributor.distribute key
  cells : ∀ key, table.cells (keys.distributor.distribute key) =
    (spans.filter fun span => indexKey? span = some key).map indexEntry

theorem indexes_empty (keys : TraceIndexKeys) : Indexes keys .empty [] where
  keyed := by simp
  rows := by simp [Table.empty]
  cells := by simp

theorem Indexes.append {keys : TraceIndexKeys} {table : Table (List TraceIndexEntry)}
    {spans : List Span} {span : Span} {key : Bytes} (indexes : Indexes keys table spans)
    (keyed : indexKey? span = some key) :
    Indexes keys (table.append (keys.distributor.distribute key) (indexEntry span))
      (spans ++ [span]) where
  keyed := by
    intro present member
    rcases List.mem_append.mp member with old | new
    · exact indexes.keyed present old
    · exact ⟨key, List.mem_singleton.mp new ▸ keyed⟩
  rows := by
    intro present member
    rcases Table.mem_keys_append member with rfl | old
    · exact ⟨span, by simp, key, keyed, rfl⟩
    · rcases indexes.rows present old with ⟨other, found, rest⟩
      exact ⟨other, List.mem_append_left _ found, rest⟩
  cells := by
    intro other
    rw [Table.cells_append, indexes.cells, List.filter_append, List.map_append]
    by_cases same : other = key
    · simp [same, keyed]
    · have different : keys.distributor.distribute other ≠ keys.distributor.distribute key :=
        fun equal => same (congrArg undistributed equal)
      simp [different, keyed, Ne.symm same]

namespace Service

variable {service : Service} {arrival : Arrival}

theorem takeIn_receiver (service : Service) (arrival : Arrival) :
    (service.takeIn arrival).receiver = service.receiver ∧
      (service.takeIn arrival).outages = service.outages := by
  cases arrival <;> exact ⟨rfl, rfl⟩

/-- What arrivals enter into the store one by one, it holds after all of them. -/
theorem takeInAll_entered {α : Type} (holds : Receiver → Store → List α → Prop)
    (entered? : Service → Arrival → Option α) (entered : List Arrival → Service → List α)
    (nothing : ∀ service, entered [] service = [])
    (further : ∀ arrival arrivals service, entered (arrival :: arrivals) service =
      (entered? service arrival).toList ++ entered arrivals (service.takeIn arrival))
    (step : ∀ service held arrival, service.outages = [] →
      holds service.receiver service.store held →
      holds service.receiver (service.takeIn arrival).store
        (held ++ (entered? service arrival).toList))
    {held : List α} (inService : service.outages = [])
    (holding : holds service.receiver service.store held) (arrivals : List Arrival) :
    (service.takeInAll arrivals).receiver = service.receiver ∧
      (service.takeInAll arrivals).outages = [] ∧
      holds service.receiver (service.takeInAll arrivals).store
        (held ++ entered arrivals service) := by
  induction arrivals generalizing service held with
  | nil =>
      rw [nothing, List.append_nil]
      exact ⟨rfl, inService, holding⟩
  | cons arrival arrivals induction =>
      have kept := service.takeIn_receiver arrival
      have entry := step service held arrival inService holding
      rw [← kept.1] at entry
      have rest := induction (kept.2.trans inService) entry
      rw [kept.1, List.append_assoc, ← further] at rest
      exact rest

/-- A request leaves the trace index alone. -/
theorem handleRequest_traceIndex (inService : service.outages = []) (id : UInt64) (frame : Frame) :
    (service.handleRequest id frame).2.store.traceIndex = service.store.traceIndex := by
  rw [handleRequest]
  cases allowed : service.receiver.requestWrites frame with
  | error cause => rfl
  | ok writes =>
      rcases Receiver.requestWrites_eq_ok allowed with ⟨write, rfl, metadata⟩
      rw [execute_ok inService]
      cases write <;> first | rfl | cases metadata

theorem rootSpan?_eq_some {frame : Frame} {span : Span} : rootSpan? frame = some span ↔
    (frame.kind = .span ∨ frame.kind = .spanChunk) ∧
      (SpanEnvelope.decode frame.payload).bind SpanEnvelope.decodeRecord = .ok (.span span) ∧
      span.isRoot = true := by
  rw [rootSpan?]
  split
  next streamed =>
    split
    next found => simp only [found, Option.ite_none_right_eq_some]; grind
    next other => simpa [streamed] using fun found => absurd found (other span)
  next other => simp [other]

/-- A frame that is handled changes the trace index if it carries a root span, and only then. -/
theorem handle_traceIndex (inService : service.outages = []) (now : Int64) (frame : Frame) :
    match service.handledRoot? (.streamed now frame) with
    | none => (service.handle now frame).2.store.traceIndex = service.store.traceIndex
    | some span => ∃ key, indexKey? span = some key ∧
        (service.handle now frame).2.store.traceIndex =
          service.store.traceIndex.append
            (service.receiver.traceIndexKeys.distributor.distribute key) (indexEntry span) := by
  rw [handledRoot?, handle]
  by_cases streamed : frame.kind = .span ∨ frame.kind = .spanChunk
  · cases allowed : service.receiver.streamWrites now frame with
    | error cause => rfl
    | ok writes =>
        rw [Receiver.streamWrites_of_record streamed] at allowed
        rcases Receiver.spanWrites_eq_ok.mp allowed with ⟨envelope, record, opened, found, written⟩
        rcases Receiver.recordWrites_eq_ok.mp written with ⟨index, key, indexed, -, rfl⟩
        have carried : (SpanEnvelope.decode frame.payload).bind SpanEnvelope.decodeRecord =
            .ok record := by
          rw [opened]
          exact found
        rw [execute_ok inService]
        cases root : rootSpan? frame with
        | none =>
            have other : ∀ span, record.acceptedAt now = .span span → span.isRoot = false := by
              intro span stamped
              cases record with
              | span original =>
                  cases stamped
                  rw [Bool.eq_false_iff]
                  intro isRoot
                  have listed := rootSpan?_eq_some.mpr ⟨streamed, carried, isRoot⟩
                  rw [root] at listed
                  cases listed
              | chunk original => cases stamped
            rw [Receiver.indexWrites_of_not_root other] at indexed
            cases indexed
            rfl
        | some span =>
            rcases rootSpan?_eq_some.mp root with ⟨-, same, isRoot⟩
            rw [carried] at same
            cases same
            have stampedRoot : ({ span with collectorAcceptTime := now } : Span).isRoot = true :=
              isRoot
            rcases (Receiver.indexWrites_of_root stampedRoot).mp indexed with ⟨key, encoded, rfl⟩
            rcases map_eq_ok.mp encoded with ⟨unbucketed, unbucketedWritten, rfl⟩
            exact ⟨unbucketed, indexKey?_eq_some.mpr unbucketedWritten, rfl⟩
  · have carriesNone : rootSpan? frame = none := by rw [rootSpan?, if_neg streamed]
    rw [carriesNone]
    cases allowed : service.receiver.streamWrites now frame with
    | error cause => rfl
    | ok writes =>
        rcases Receiver.streamWrites_of_other streamed allowed with ⟨key, batch, rfl⟩
        rw [execute_ok inService]
        rfl

theorem takeIn_indexes {spans : List Span} (inService : service.outages = [])
    (indexes : Indexes service.receiver.traceIndexKeys service.store.traceIndex spans)
    (arrival : Arrival) :
    Indexes service.receiver.traceIndexKeys (service.takeIn arrival).store.traceIndex
      (spans ++ (service.handledRoot? arrival).toList) := by
  cases arrival with
  | request id frame =>
      rw [takeIn, handleRequest_traceIndex inService]
      simpa [handledRoot?] using indexes
  | streamed now frame =>
      have changed := handle_traceIndex inService now frame
      cases root : service.handledRoot? (.streamed now frame) with
      | none =>
          rw [root] at changed
          rw [takeIn, changed]
          simpa using indexes
      | some span =>
          rw [root] at changed
          rcases changed with ⟨key, keyed, changed⟩
          rw [takeIn, changed]
          exact indexes.append keyed

/-- After any sequence of arrivals the trace index lists the root spans among them that were
handled successfully. -/
theorem takeInAll_indexes {spans : List Span} (inService : service.outages = [])
    (indexes : Indexes service.receiver.traceIndexKeys service.store.traceIndex spans)
    (arrivals : List Arrival) :
    (service.takeInAll arrivals).receiver = service.receiver ∧
      (service.takeInAll arrivals).outages = [] ∧
      Indexes service.receiver.traceIndexKeys (service.takeInAll arrivals).store.traceIndex
        (spans ++ handledRoots arrivals service) :=
  takeInAll_entered
    (fun receiver store spans => Indexes receiver.traceIndexKeys store.traceIndex spans)
    handledRoot? handledRoots (fun _ => rfl) (fun _ _ _ => rfl)
    (fun _ _ arrival inService indexes => takeIn_indexes inService indexes arrival)
    inService indexes arrivals

end Service

end Telemetry.Collector
