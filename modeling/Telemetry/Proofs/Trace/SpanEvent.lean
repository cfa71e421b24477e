import Telemetry.Proofs.Trace.Annotation
import Telemetry.Trace.SpanEvent

namespace Telemetry.Trace

open Wire

/-! Reading back span events. Each event is written against the one before it, so the reader has
to be handed the same previous event; along a list this holds because every event read becomes the
previous one of the next. -/

theorem ExceptionInfo.readsBack : ReadsBack ExceptionInfo.put ExceptionInfo.read := by
  intro exception bytes written
  rcases bind_eq_ok.mp written with ⟨message, messageWritten, written⟩
  cases written
  exact (Reader.reads_svint exception.id).bind
    (Reader.readsBack_optionalText exception.message message messageWritten).bind_pure

theorem EventFlags.ofNat_packFlags (flags : EventFlags) :
    EventFlags.ofNat (packFlags flags.toList) = flags := by
  simp only [EventFlags.ofNat, testBit_packFlags]
  rfl

namespace SpanEvent

section Fields

variable (previous : Option SpanEvent) (event : SpanEvent)

theorem reads_flags : Reader.Reads (EventFlags.ofNat <$> Reader.flags "span event" EventFlags.width)
    (putFlags (event.flags previous).toList) (event.flags previous) := by
  have reads := (Reader.reads_flags "span event" (event.flags previous).toList
    (by simp [EventFlags.toList])).map EventFlags.ofNat
  rwa [EventFlags.ofNat_packFlags] at reads

/-- The first event of a list has nothing to compare with. -/
theorem not_comparesBack : (previous.isNone && (event.flags previous).comparesBack) = false := by
  cases previous <;> simp [flags, EventFlags.comparesBack]

/-- A field that is left out where the previous event tells it. -/
private theorem reads_repeatable {α : Type} [DecidableEq α] {item : Reader α} {bytes : Bytes}
    {value : α} {readField : Option SpanEvent → Bool → Reader α} {expected : SpanEvent → α}
    (reads : Reader.Reads item bytes value) (first : readField none false = item)
    (differs : ∀ last, readField (some last) false = item)
    (repeats : ∀ last, readField (some last) true = pure (expected last)) :
    Reader.Reads (readField previous (previous.any fun last => value = expected last))
      (if previous.any fun last => value = expected last then [] else bytes) value := by
  cases previous with
  | none => rwa [Option.any_none, first]
  | some last =>
      by_cases repeated : value = expected last
      · simp only [Option.any_some, repeated, decide_true, if_true, repeats]
        exact Reader.Reads.pure _
      · simp only [Option.any_some, repeated, decide_false, differs]
        exact reads

theorem reads_sequence : Reader.Reads (readSequence previous (event.flags previous).nextSequence)
    (if (event.flags previous).nextSequence then [] else putSvint event.sequence.toInt32)
    event.sequence :=
  reads_repeatable previous (Reader.reads_narrow16 _ event.sequence) rfl (fun _ => rfl)
    fun _ => rfl

theorem reads_depth : Reader.Reads (readDepth previous (event.flags previous).sameDepth)
    (if (event.flags previous).sameDepth then [] else putSvint event.depth) event.depth :=
  reads_repeatable previous (Reader.reads_svint event.depth) rfl (fun _ => rfl) fun _ => rfl

theorem reads_serviceType :
    Reader.Reads (readServiceType previous (event.flags previous).sameServiceType)
      (if (event.flags previous).sameServiceType then []
        else putSvint event.serviceType.toInt32) event.serviceType :=
  reads_repeatable previous (Reader.reads_narrow16 _ event.serviceType) rfl (fun _ => rfl)
    fun _ => rfl

theorem reads_startElapsed :
    Reader.Reads (readStartElapsed previous (event.flags previous).sameStartElapsed)
      (putStartElapsed previous event) event.startElapsed := by
  cases previous with
  | none => exact Reader.reads_svint event.startElapsed
  | some last =>
      by_cases repeated : event.startElapsed = last.startElapsed
      · simp only [flags, Option.any_some, putStartElapsed, repeated, decide_true, if_true]
        exact Reader.Reads.pure _
      · simp only [flags, Option.any_some, putStartElapsed, repeated, decide_false, if_false]
        have sum : last.startElapsed + (event.startElapsed - last.startElapsed) =
            event.startElapsed := by grind
        have reads := (Reader.reads_svint (event.startElapsed - last.startElapsed)).map
          (last.startElapsed + ·)
        rwa [sum] at reads

end Fields

variable {previous : Option SpanEvent} {event : SpanEvent} {events : List SpanEvent}
  {bytes : Bytes}

/-- The flag word, the duration and the API id are always there. -/
theorem length_put (written : put previous event = .ok bytes) : 4 ≤ bytes.length := by
  rcases bind_eq_ok.mp written with ⟨rpc, -, written⟩
  rcases bind_eq_ok.mp written with ⟨endPoint, -, written⟩
  rcases bind_eq_ok.mp written with ⟨destinationId, -, written⟩
  rcases bind_eq_ok.mp written with ⟨nextSpanId, -, written⟩
  rcases bind_eq_ok.mp written with ⟨asyncId, -, written⟩
  rcases bind_eq_ok.mp written with ⟨exception, -, written⟩
  rcases ite_bind_eq_ok.mp written with ⟨annotations, -, written⟩
  cases written
  have endElapsed : 0 < (putSvint event.endElapsed).length := length_varint_pos _
  have apiId : 0 < (putSvint event.apiId).length := length_varint_pos _
  simp only [List.length_append, length_putFlags]
  omega

theorem reads_put (fits : event.annotations.length < 2 ^ 32)
    (written : put previous event = .ok bytes) : Reader.Reads (read previous) bytes event := by
  rcases bind_eq_ok.mp written with ⟨rpc, rpcWritten, written⟩
  rcases bind_eq_ok.mp written with ⟨endPoint, endPointWritten, written⟩
  rcases bind_eq_ok.mp written with ⟨destinationId, destinationIdWritten, written⟩
  rcases bind_eq_ok.mp written with ⟨nextSpanId, nextSpanIdWritten, written⟩
  rcases bind_eq_ok.mp written with ⟨asyncId, asyncIdWritten, written⟩
  rcases bind_eq_ok.mp written with ⟨exception, exceptionWritten, written⟩
  rcases ite_bind_eq_ok.mp written with ⟨annotations, annotationsWritten, written⟩
  cases written
  simp only [List.append_assoc]
  apply (reads_flags previous event).bind
  -- The flags are the writer's own, so they do not refer to an event that is not there.
  rw [not_comparesBack]
  apply (reads_sequence previous event).bind
  apply (reads_startElapsed previous event).bind
  apply (reads_depth previous event).bind
  apply (reads_serviceType previous event).bind
  apply (Reader.reads_svint event.endElapsed).bind
  apply (Reader.reads_svint event.apiId).bind
  apply (Reader.reads_optional (Reader.readsBack_text _) rpcWritten).bind
  apply (Reader.reads_optional (Reader.readsBack_text _) endPointWritten).bind
  apply (Reader.reads_optional (Reader.readsBack_text _) destinationIdWritten).bind
  apply (Reader.reads_optional Reader.readsBack_int64 nextSpanIdWritten).bind
  apply (Reader.reads_optional Reader.readsBack_svint asyncIdWritten).bind
  apply (Reader.reads_optional ExceptionInfo.readsBack exceptionWritten).bind
  have annotationsRead := Annotation.reads_listUnlessEmpty fits annotationsWritten
  exact annotationsRead.bind_pure

/-! ### Lists of events -/

theorem length_putAfter (written : putAfter previous events = .ok bytes) :
    4 * events.length ≤ bytes.length := by
  induction events generalizing previous bytes with
  | nil => simp
  | cons head tail induction =>
      rcases bind_eq_ok.mp written with ⟨first, firstWritten, written⟩
      rcases bind_eq_ok.mp written with ⟨others, othersWritten, written⟩
      cases written
      have headLength := length_put firstWritten
      have tailLength := induction othersWritten
      rw [List.length_cons, List.length_append]
      omega

theorem reads_putAfter (fits : ∀ event ∈ events, event.annotations.length < 2 ^ 32)
    (written : putAfter previous events = .ok bytes) :
    Reader.Reads (readAfter previous events.length) bytes events := by
  induction events generalizing previous bytes with
  | nil =>
      cases written
      exact Reader.Reads.pure []
  | cons head tail induction =>
      rcases bind_eq_ok.mp written with ⟨first, firstWritten, written⟩
      rcases bind_eq_ok.mp written with ⟨others, othersWritten, written⟩
      cases written
      -- The head that was read is the previous event of the tail, as it was for the writer.
      have headReads := reads_put (fits head List.mem_cons_self) firstWritten
      have tailReads := induction (fun event member => fits event (List.mem_cons_of_mem _ member))
        othersWritten
      exact headReads.bind tailReads.bind_pure

/-- The count in front of the events never exceeds what is left, so it is not refused. -/
theorem reads_list (countFits : events.length < 2 ^ 32)
    (fits : ∀ event ∈ events, event.annotations.length < 2 ^ 32)
    (written : putList events = .ok bytes) : Reader.Reads readList bytes events := by
  rcases bind_eq_ok.mp written with ⟨items, itemsWritten, written⟩
  cases written
  have length := length_putAfter itemsWritten
  apply (Reader.reads_count events.length).bind
  rw [toNat_count countFits]
  exact (reads_putAfter fits itemsWritten).afterRemaining fun count enough => by omega

end SpanEvent

end Telemetry.Trace
