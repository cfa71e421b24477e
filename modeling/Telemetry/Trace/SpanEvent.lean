import Telemetry.Trace.Annotation

namespace Telemetry.Trace

open Wire

/-! Span events: the calls made inside a span. A list of events is written each against the one
before it; a flag word in front of an event tells which optional parts follow and which values
repeat those of the previous event and are left out. -/

structure ExceptionInfo where
  id : Int32
  message : Option String
deriving DecidableEq, Repr

namespace ExceptionInfo

def put (exception : ExceptionInfo) : Except EncodeError Bytes := do
  let message ← putOptionalText exception.message
  pure (putSvint exception.id ++ message)

def read : Reader ExceptionInfo := do
  let id ← Reader.svint
  let message ← Reader.optionalText
  pure ⟨id, message⟩

end ExceptionInfo

structure SpanEvent where
  sequence : Int16
  depth : Int32
  /-- Millis since the span started. -/
  startElapsed : Int32
  /-- Duration in millis. -/
  endElapsed : Int32
  serviceType : Int16
  apiId : Int32
  rpc : Option String
  endPoint : Option String
  destinationId : Option String
  nextSpanId : Option Int64
  asyncId : Option Int32
  exceptionInfo : Option ExceptionInfo
  annotations : List Annotation
deriving DecidableEq, Repr

/-- What the flag word of an event announces. The last four only make sense after a previous
event. -/
structure EventFlags where
  rpc : Bool
  endPoint : Bool
  destinationId : Bool
  nextSpanId : Bool
  asyncId : Bool
  exception : Bool
  annotations : Bool
  sameStartElapsed : Bool
  sameDepth : Bool
  sameServiceType : Bool
  nextSequence : Bool
deriving DecidableEq, Repr

namespace EventFlags

def width : Nat := 11

def toList (flags : EventFlags) : List Bool :=
  [flags.rpc, flags.endPoint, flags.destinationId, flags.nextSpanId, flags.asyncId,
    flags.exception, flags.annotations, flags.sameStartElapsed, flags.sameDepth,
    flags.sameServiceType, flags.nextSequence]

def ofNat (bits : Nat) : EventFlags where
  rpc := bits.testBit 0
  endPoint := bits.testBit 1
  destinationId := bits.testBit 2
  nextSpanId := bits.testBit 3
  asyncId := bits.testBit 4
  exception := bits.testBit 5
  annotations := bits.testBit 6
  sameStartElapsed := bits.testBit 7
  sameDepth := bits.testBit 8
  sameServiceType := bits.testBit 9
  nextSequence := bits.testBit 10

/-- Whether some value is to be taken over from the previous event. -/
def comparesBack (flags : EventFlags) : Bool :=
  flags.sameStartElapsed || flags.sameDepth || flags.sameServiceType || flags.nextSequence

end EventFlags

namespace SpanEvent

def flags (previous : Option SpanEvent) (event : SpanEvent) : EventFlags where
  rpc := event.rpc.isSome
  endPoint := event.endPoint.isSome
  destinationId := event.destinationId.isSome
  nextSpanId := event.nextSpanId.isSome
  asyncId := event.asyncId.isSome
  exception := event.exceptionInfo.isSome
  annotations := !event.annotations.isEmpty
  sameStartElapsed := previous.any fun last => event.startElapsed = last.startElapsed
  sameDepth := previous.any fun last => event.depth = last.depth
  sameServiceType := previous.any fun last => event.serviceType = last.serviceType
  nextSequence := previous.any fun last => event.sequence = last.sequence + 1

/-- The start of an event is written relative to that of the previous one. -/
def putStartElapsed (previous : Option SpanEvent) (event : SpanEvent) : Bytes :=
  match previous with
  | none => putSvint event.startElapsed
  | some last =>
      if event.startElapsed = last.startElapsed then []
      else putSvint (event.startElapsed - last.startElapsed)

def put (previous : Option SpanEvent) (event : SpanEvent) : Except EncodeError Bytes := do
  let flags := event.flags previous
  let values :=
    (if flags.nextSequence then [] else putSvint event.sequence.toInt32) ++
    putStartElapsed previous event ++
    (if flags.sameDepth then [] else putSvint event.depth) ++
    (if flags.sameServiceType then [] else putSvint event.serviceType.toInt32) ++
    putSvint event.endElapsed ++ putSvint event.apiId
  let rpc ← putIfPresent putText event.rpc
  let endPoint ← putIfPresent putText event.endPoint
  let destinationId ← putIfPresent putText event.destinationId
  let nextSpanId ← putIfPresent (fun id => .ok (putInt64 id)) event.nextSpanId
  let asyncId ← putIfPresent (fun id => .ok (putSvint id)) event.asyncId
  let exception ← putIfPresent ExceptionInfo.put event.exceptionInfo
  let annotations ←
    if flags.annotations then Annotation.putList event.annotations else .ok []
  pure (putFlags flags.toList ++ values ++ rpc ++ endPoint ++ destinationId ++ nextSpanId ++
    asyncId ++ exception ++ annotations)

/-- Writes the events of a list, the first one after `previous`. -/
def putAfter : Option SpanEvent → List SpanEvent → Except EncodeError Bytes
  | _, [] => .ok []
  | previous, event :: events => do
      let first ← put previous event
      let others ← putAfter (some event) events
      pure (first ++ others)

def putList (events : List SpanEvent) : Except EncodeError Bytes := do
  let items ← putAfter none events
  pure (putCount events.length ++ items)

def readSequence (previous : Option SpanEvent) (repeated : Bool) : Reader Int16 :=
  match previous, repeated with
  | some last, true => pure (last.sequence + 1)
  | _, _ => Reader.narrow16 "span event sequence"

def readStartElapsed (previous : Option SpanEvent) (repeated : Bool) : Reader Int32 :=
  match previous, repeated with
  | none, _ => Reader.svint
  | some last, true => pure last.startElapsed
  | some last, false => (last.startElapsed + ·) <$> Reader.svint

def readDepth (previous : Option SpanEvent) (repeated : Bool) : Reader Int32 :=
  match previous, repeated with
  | some last, true => pure last.depth
  | _, _ => Reader.svint

def readServiceType (previous : Option SpanEvent) (repeated : Bool) : Reader Int16 :=
  match previous, repeated with
  | some last, true => pure last.serviceType
  | _, _ => Reader.narrow16 "span event service type"

/-- Reads one event. An event without a previous one must not refer to it. -/
def read (previous : Option SpanEvent) : Reader SpanEvent := do
  let flags ← EventFlags.ofNat <$> Reader.flags "span event" EventFlags.width
  if previous.isNone && flags.comparesBack then Reader.malformed .firstEventComparesBack
  else
    let sequence ← readSequence previous flags.nextSequence
    let startElapsed ← readStartElapsed previous flags.sameStartElapsed
    let depth ← readDepth previous flags.sameDepth
    let serviceType ← readServiceType previous flags.sameServiceType
    let endElapsed ← Reader.svint
    let apiId ← Reader.svint
    let rpc ← Reader.optional flags.rpc (Reader.text "span event rpc")
    let endPoint ← Reader.optional flags.endPoint (Reader.text "span event end point")
    let destinationId ←
      Reader.optional flags.destinationId (Reader.text "span event destination id")
    let nextSpanId ← Reader.optional flags.nextSpanId Reader.int64
    let asyncId ← Reader.optional flags.asyncId Reader.svint
    let exceptionInfo ← Reader.optional flags.exception ExceptionInfo.read
    let annotations ← Reader.orElseValue flags.annotations [] Annotation.readList
    pure { sequence, depth, startElapsed, endElapsed, serviceType, apiId, rpc, endPoint,
           destinationId, nextSpanId, asyncId, exceptionInfo, annotations }

def readAfter : Option SpanEvent → Nat → Reader (List SpanEvent)
  | _, 0 => pure []
  | previous, count + 1 => do
      let event ← read previous
      let events ← readAfter (some event) count
      pure (event :: events)

/-- Every event takes at least four bytes, so a count that the rest cannot hold is refused before
anything is read. -/
def readList : Reader (List SpanEvent) := do
  let count ← Reader.vint
  let remaining ← Reader.remaining
  if remaining / 4 < count.toNat then Reader.malformed (.eventCount count.toNat)
  else readAfter none count.toNat

end SpanEvent

end Telemetry.Trace
