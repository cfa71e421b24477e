import Telemetry.Wire.Bytes

namespace Telemetry.Delivery

open Wire

/-! Frames on a byte stream: a four-byte big-endian length, then that many bytes. A length above
the agreed maximum is refused as soon as it is known. -/

inductive FramingError where
  | tooBigToSend
  | tooBigToReceive
  | bytesLeft
deriving DecidableEq, Repr

namespace FramingError

def message : FramingError → String
  | .tooBigToSend => "frame size too big"
  | .tooBigToReceive => "frame size too big"
  | .bytesLeft => "bytes remaining on stream"

end FramingError

def lengthWidth : Nat := 4

def wrap (maxLength : Nat) (frame : Bytes) : Except FramingError Bytes :=
  if min maxLength (UInt32.size - 1) < frame.length then .error .tooBigToSend
  else .ok (bigEndian lengthWidth frame.length ++ frame)

/-- The receiving end: the bytes that have not become a frame yet and, once it is known, the length
of the frame they begin. -/
structure Unwrapper where
  maxLength : Nat
  announced : Option Nat
  buffer : Bytes
deriving DecidableEq, Repr

namespace Unwrapper

def start (maxLength : Nat) : Unwrapper := ⟨maxLength, none, []⟩

def feed (unwrapper : Unwrapper) (bytes : Bytes) : Unwrapper :=
  { unwrapper with buffer := unwrapper.buffer ++ bytes }

/-- Takes the length of the next frame off the buffer, once its bytes are there. -/
def takeLength (unwrapper : Unwrapper) : Except FramingError Unwrapper :=
  match unwrapper.announced with
  | some _ => .ok unwrapper
  | none =>
      if unwrapper.buffer.length < lengthWidth then .ok unwrapper
      else
        let length := ofBigEndian (unwrapper.buffer.take lengthWidth)
        if unwrapper.maxLength < length then .error .tooBigToReceive
        else .ok { unwrapper with
          announced := some length
          buffer := unwrapper.buffer.drop lengthWidth }

def next (unwrapper : Unwrapper) : Except FramingError (Option Bytes × Unwrapper) := do
  let unwrapper ← unwrapper.takeLength
  match unwrapper.announced with
  | none => pure (none, unwrapper)
  | some length =>
      if unwrapper.buffer.length < length then pure (none, unwrapper)
      else
        pure (some (unwrapper.buffer.take length),
          { unwrapper with announced := none, buffer := unwrapper.buffer.drop length })

/-- Takes every complete frame off the buffer. The frames that precede an error are kept. Every
frame takes its length off the buffer, so there are no more frames than bytes. -/
def drainWithin : (budget : Nat) → Unwrapper → List Bytes × Except FramingError Unwrapper
  | 0, unwrapper => ([], .ok unwrapper)
  | budget + 1, unwrapper =>
      match unwrapper.next with
      | .error error => ([], .error error)
      | .ok (none, rest) => ([], .ok rest)
      | .ok (some frame, rest) =>
          let (frames, outcome) := drainWithin budget rest
          (frame :: frames, outcome)

def drain (unwrapper : Unwrapper) : List Bytes × Except FramingError Unwrapper :=
  drainWithin (unwrapper.buffer.length + 1) unwrapper

/-- What the end of the stream means after all complete frames were taken. -/
def finish (unwrapper : Unwrapper) : Except FramingError Unit :=
  if unwrapper.buffer.isEmpty then .ok () else .error .bytesLeft

end Unwrapper

/-- The complete frames of a whole stream, and how it ended. -/
def unwrapAll (maxLength : Nat) (stream : Bytes) : List Bytes × Except FramingError Unit :=
  let (frames, outcome) := ((Unwrapper.start maxLength).feed stream).drain
  (frames, outcome.bind Unwrapper.finish)

end Telemetry.Delivery
