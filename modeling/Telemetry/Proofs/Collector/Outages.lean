import Telemetry.Proofs.Collector.TraceIndex
import Telemetry.Proofs.Message.SpanEnvelope

namespace Telemetry.Collector

open Wire Trace Message RowKey Delivery

/-! What a refused frame leaves behind when parts of the store are out of service. All keys are made
before anything is written, so a frame that is refused for its bytes or its keys leaves nothing. The
cell of a root span is written before its entry in the index, and stays when the entry fails. -/

/-- The frame carries a root span whose cell can be written, but the index is out of service. -/
structure HalfWritten (service : Service) (now : Int64) (frame : Frame) (key : Bytes)
    (span : Span) : Prop where
  isRoot : span.isRoot = true
  writes : ∃ indexKey, service.receiver.streamWrites now frame =
    .ok [.trace key (.span span), .traceIndex indexKey (indexEntry span)]
  cell : .trace ∉ service.outages
  index : .traceIndex ∈ service.outages

namespace Service

variable {service : Service} {now : Int64} {frame : Frame} {key : Bytes} {span : Span}

theorem handle_of_halfWritten (half : HalfWritten service now frame key span) :
    (service.handle now frame).1 = .error (.unavailable .traceIndex) ∧
      service.performed (service.receiver.streamWrites now frame) = [.trace key (.span span)] := by
  rcases half with ⟨-, ⟨indexKey, asked⟩, cell, index⟩
  rw [handle, asked]
  constructor
  · simp [execute, Store.perform, Write.call, cell, index]
  · simp [performed, Store.reached, Write.call, cell, index]

/-- A frame that asks for one write has written nothing when it is refused. -/
theorem performed_of_refused {error : CollectorError}
    (refused : (service.handle now frame).1 = .error error) :
    service.performed (service.receiver.streamWrites now frame) = [] ∨
      ∃ key span, HalfWritten service now frame key span := by
  cases asked : service.receiver.streamWrites now frame with
  | error cause => exact .inl rfl
  | ok writes =>
      have cut : Store.reached service.outages writes ≠ writes := by
        intro whole
        have done := (Store.isOk_fst_perform service.outages writes service.store).mpr whole
        rw [handle, asked] at refused
        change (service.store.perform service.outages writes).1 = .error error at refused
        rw [refused] at done
        cases done
      rcases Receiver.streamWrites_eq_ok asked with
        ⟨write, rfl, -⟩ | ⟨key, indexKey, span, isRoot, rfl⟩
      · by_cases out : write.call ∈ service.outages
        · exact .inl (by simp [performed, Store.reached, out])
        · exact absurd (by simp [Store.reached, out]) cut
      · by_cases cell : .trace ∈ service.outages
        · exact .inl (by simp [performed, Store.reached, Write.call, cell])
        · by_cases index : .traceIndex ∈ service.outages
          · exact .inr ⟨key, span, isRoot, ⟨indexKey, asked⟩, cell, index⟩
          · exact absurd (by simp [Store.reached, Write.call, cell, index]) cut

/-- A refused frame has left nothing in the store, unless it carries a root span and the index was
out of service: then the cell of the span has been written, and nothing else. Whatever parts are out
of service, a frame calls each part once at most, so no other outcomes of its calls are possible. -/
theorem refused_writes (service : Service) (now : Int64) (frame : Frame) :
    (∀ error, (service.handle now frame).1 = .error error →
      (service.performed (service.receiver.streamWrites now frame) = [] ∧
        (service.handle now frame).2.store = service.store) ∨
      ∃ key span, HalfWritten service now frame key span) ∧
    ∀ key span, HalfWritten service now frame key span →
      (service.handle now frame).1 = .error (.unavailable .traceIndex) ∧
      service.performed (service.receiver.streamWrites now frame) = [.trace key (.span span)] ∧
      (service.handle now frame).2.store =
        { service.store with traces := service.store.traces.append key (.span span) } := by
  have stored : (service.handle now frame).2.store =
      service.store.applyAll (service.performed (service.receiver.streamWrites now frame)) :=
    store_execute service _
  constructor
  · intro error refused
    apply (performed_of_refused refused).imp_left
    intro nothing
    rw [stored, nothing]
    exact ⟨rfl, rfl⟩
  · intro key span half
    rcases handle_of_halfWritten half with ⟨refused, cell⟩
    rw [stored, cell]
    exact ⟨refused, rfl, rfl⟩

/-- A collector whose trace index is out of service. -/
def withoutIndex (receiver : Receiver) : Service := ⟨receiver, .empty, .zero, [.traceIndex]⟩

def nestedCallsFrame : Frame := ⟨.span, SpanEnvelope.nestedCallsPayload⟩

set_option maxRecDepth 2000 in
theorem withoutIndex_handle {receiver : Receiver} (made : Receiver.ofConfig {} = .ok receiver) :
    ((withoutIndex receiver).handle 1000 nestedCallsFrame).1 = .error (.unavailable .traceIndex) ∧
      ((withoutIndex receiver).performed
        (receiver.streamWrites 1000 nestedCallsFrame)).length = 1 := by
  cases made
  constructor <;> cbv

theorem refused_writes_nestedCalls :
    ∃ service, ofConfig {} [.traceIndex] = .ok service ∧
      (service.handle 1000 nestedCallsFrame).1 = .error (.unavailable .traceIndex) ∧
      ∃ key span, HalfWritten service 1000 nestedCallsFrame key span ∧
        (service.handle 1000 nestedCallsFrame).2.store =
          { service.store with traces := service.store.traces.append key (.span span) } := by
  rcases Receiver.exists_ofConfig {} (by decide) (by decide) (by decide) with ⟨receiver, made⟩
  rcases withoutIndex_handle made with ⟨refused, written⟩
  refine ⟨withoutIndex receiver, bind_eq_ok.mpr ⟨receiver, made, rfl⟩, refused, ?_⟩
  rcases refused_writes (withoutIndex receiver) 1000 nestedCallsFrame with ⟨leaves, stays⟩
  rcases leaves _ refused with ⟨nothing, -⟩ | ⟨key, span, half⟩
  · have none := congrArg List.length nothing
    exact absurd (written.symm.trans none) (by decide)
  · exact ⟨key, span, half, (stays key span half).2.2⟩

/-- A root span that is refused because the index is out of service stays in its trace. -/
theorem refused_span_stays :
    ¬ ∀ (service : Service) (now : Int64) (frame : Frame) (error : CollectorError),
      (service.handle now frame).1 = .error error →
        service.performed (service.receiver.streamWrites now frame) = [] := by
  intro claim
  rcases Receiver.exists_ofConfig {} (by decide) (by decide) (by decide) with ⟨receiver, made⟩
  rcases withoutIndex_handle made with ⟨refused, written⟩
  have nothing := claim (withoutIndex receiver) 1000 nestedCallsFrame _ refused
  have none := congrArg List.length nothing
  exact absurd (written.symm.trans none) (by decide)

end Service

end Telemetry.Collector
