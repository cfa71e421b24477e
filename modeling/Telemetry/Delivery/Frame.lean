import Telemetry.Message.Envelope

namespace Telemetry.Delivery

open Wire Message

/-! Frames: payloads tagged with their kind, as they travel between agent and collector. A streamed
frame is the kind and the payload; a request puts its id between the two; the answer to a request
is a frame of its own kind. -/

/-- The connections an agent keeps to its collector. -/
inductive Channel where
  | span
  | stat
  | metadata
deriving DecidableEq, Repr

/-- How a kind of message leaves the agent. -/
inductive Route where
  /-- Written to a stream that nobody answers. -/
  | stream (channel : Channel)
  /-- Sent as a request that the collector acknowledges. -/
  | request
  /-- Only ever sent by the collector. -/
  | inbound
deriving DecidableEq, Repr

def route : MessageKind → Route
  | .span => .stream .span
  | .spanChunk => .stream .span
  | .statBatch => .stream .stat
  | .apiMetadata => .request
  | .sqlMetadata => .request
  | .stringMetadata => .request
  | .agentInfo => .request
  | .ack => .inbound

def channel? (kind : MessageKind) : Option Channel :=
  match route kind with
  | .stream channel => some channel
  | .request => some .metadata
  | .inbound => none

structure Frame where
  kind : MessageKind
  payload : Bytes
deriving DecidableEq, Repr

/-- Why a received frame is not the answer that was waited for. -/
inductive AnswerError where
  | unexpectedKind (kind : MessageKind)
  | otherRequest (answered expected : UInt64)
  | decode (cause : DecodeError)
deriving DecidableEq, Repr

namespace AnswerError

def message : AnswerError → String
  | .unexpectedKind kind => s!"unexpected frame: expected ack, got {kind.name}"
  | .otherRequest answered expected =>
      s!"unexpected frame: ack for request {answered.toNat} while waiting for {expected.toNat}"
  | .decode cause => cause.message

end AnswerError

namespace Frame

def ofAck (ack : Ack) : Frame := ⟨.ack, ack.encode⟩

def ofMessage (message : TelemetryMessage) : Except EncodeError Frame := do
  let payload ← message.encode
  pure ⟨message.kind, payload⟩

/-- How many bytes the frame takes, without a length in front. -/
def encodedLength (frame : Frame) : Nat := 1 + frame.payload.length

def encode (frame : Frame) : Bytes := frame.kind.code :: frame.payload

def readKind : Reader MessageKind := do
  let code ← Reader.byte
  Reader.lift (MessageKind.ofCode code)

def read : Reader Frame := do
  let kind ← readKind
  let payload ← Reader.takeAll
  pure ⟨kind, payload⟩

def decode : Bytes → Except DecodeError Frame := Reader.front read

def encodeRequest (id : UInt64) (frame : Frame) : Bytes :=
  frame.kind.code :: putVlong id ++ frame.payload

def readRequest : Reader (UInt64 × Frame) := do
  let kind ← readKind
  if !kind.isRequest then Reader.unknownCode (.notARequest kind.name)
  else
    let id ← Reader.vlong
    let payload ← Reader.takeAll
    pure (id, ⟨kind, payload⟩)

def decodeRequest : Bytes → Except DecodeError (UInt64 × Frame) := Reader.front readRequest

/-- The collector's answer to request `id`. An answer to another request is refused. -/
def decodeAck (bytes : Bytes) (id : UInt64) : Except AnswerError Ack :=
  match decode bytes with
  | .error cause => .error (.decode cause)
  | .ok frame =>
      if frame.kind ≠ .ack then .error (.unexpectedKind frame.kind)
      else
        match Ack.decode frame.payload with
        | .error cause => .error (.decode cause)
        | .ok ack =>
            if ack.requestId ≠ id then .error (.otherRequest ack.requestId id) else .ok ack

end Frame

end Telemetry.Delivery
