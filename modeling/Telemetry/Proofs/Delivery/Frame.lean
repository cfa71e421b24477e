import Telemetry.Delivery.Frame
import Telemetry.Delivery.Framing
import Telemetry.Proofs.Message.SpanEnvelope

namespace Telemetry.Delivery

open Wire Message

/-! Frames, requests and answers are read as they were written, unless they are too long to be
sent. -/

namespace Frame

/-- Whether the framing lets a frame through. -/
def fits (maxLength : Nat) (frame : Frame) : Bool := (wrap maxLength frame.encode).isOk

theorem fits_iff {maxLength : Nat} {frame : Frame} :
    frame.fits maxLength = true ↔ frame.encodedLength ≤ min maxLength (UInt32.size - 1) := by
  have length : frame.encode.length = frame.encodedLength := Nat.add_comm _ _
  rw [fits, wrap, length]
  split
  next long => exact ⟨nofun, fun short => absurd long (Nat.not_lt.mpr short)⟩
  next short => exact ⟨fun _ => Nat.not_lt.mp short, fun _ => rfl⟩

theorem reads_kind (kind : MessageKind) : Reader.Reads readKind [kind.code] kind := by
  cases kind <;> exact fun _ => rfl

@[simp] theorem decode_encode (frame : Frame) : decode frame.encode = .ok frame := by
  have content := Reader.readsAll_takeAll (Frame.mk frame.kind) frame.payload
  exact ((reads_kind frame.kind).bind_all content).front_eq

/-- A frame of a kind that is sent as a request is read with its id, others are refused. -/
theorem decodeRequest_encodeRequest (id : UInt64) (frame : Frame) :
    decodeRequest (frame.encodeRequest id) =
      if frame.kind.isRequest then .ok (id, frame)
      else .error (.invalidType (.notARequest frame.kind.name)) := by
  rcases frame with ⟨kind, payload⟩
  have opened : readRequest (encodeRequest id ⟨kind, payload⟩) =
      (if !kind.isRequest then Reader.unknownCode (.notARequest kind.name)
      else do
        let id ← Reader.vlong
        let payload ← Reader.takeAll
        pure (id, ⟨kind, payload⟩)) (putVlong id ++ payload) :=
    (reads_kind kind).run_bind _ _
  rw [decodeRequest]
  cases asked : kind.isRequest with
  | false =>
      rw [Reader.front, opened, asked]
      rfl
  | true =>
      have content : Reader.ReadsAll (do
          let id ← Reader.vlong
          let payload ← Reader.takeAll
          pure (id, Frame.mk kind payload)) (putVlong id ++ payload) (id, ⟨kind, payload⟩) :=
        (Reader.reads_vlong id).bind_all
          (Reader.readsAll_takeAll (fun payload => (id, Frame.mk kind payload)) payload)
      have whole : Reader.ReadsAll readRequest (encodeRequest id ⟨kind, payload⟩)
          (id, ⟨kind, payload⟩) := by
        rw [Reader.ReadsAll, opened, asked]
        exact content
      exact whole.front_eq

/-- A request is read as the request it is, if it is read at all. -/
theorem eq_of_decodeRequest_encodeRequest {id : UInt64} {frame : Frame} {result : UInt64 × Frame}
    (read : decodeRequest (frame.encodeRequest id) = .ok result) : result = (id, frame) := by
  rw [decodeRequest_encodeRequest] at read
  split at read
  next => exact (Except.ok.inj read).symm
  next => cases read

/-- An acknowledgement is taken for the answer to the request that it names and to no other. -/
theorem decodeAck_ofAck (ack : Ack) (id : UInt64) :
    decodeAck (ofAck ack).encode id =
      if ack.requestId = id then .ok ack else .error (.otherRequest ack.requestId id) := by
  rw [decodeAck, decode_encode]
  simp [ofAck, Ack.decode, (Ack.reads_encode ack).complete_eq]

end Frame

/-! ### Streams of frames -/

/-- A frame with its length in front. -/
def framed (frame : Bytes) : Bytes := bigEndian lengthWidth frame.length ++ frame

theorem wrap_eq_ok {maxLength : Nat} {frame stream : Bytes} :
    wrap maxLength frame = .ok stream ↔
      frame.length ≤ min maxLength (UInt32.size - 1) ∧ stream = framed frame := by
  rw [wrap]
  split
  next long => exact ⟨nofun, fun ⟨short, _⟩ => absurd long (Nat.not_lt.mpr short)⟩
  next short =>
    rw [Except.ok.injEq]
    exact ⟨fun same => ⟨Nat.not_lt.mp short, same.symm⟩, fun ⟨_, same⟩ => same.symm⟩

namespace Unwrapper

variable {maxLength : Nat} {frame rest : Bytes}

/-- A length that is there is taken off the buffer, unless it is above the maximum. -/
theorem takeLength_framed (narrow : frame.length < UInt32.size) :
    takeLength ⟨maxLength, none, framed frame ++ rest⟩ =
      if maxLength < frame.length then .error .tooBigToReceive
      else .ok ⟨maxLength, some frame.length, frame ++ rest⟩ := by
  have width : (bigEndian lengthWidth frame.length).length = lengthWidth := length_bigEndian _ _
  have announced : ofBigEndian (bigEndian lengthWidth frame.length) = frame.length :=
    ofBigEndian_bigEndian narrow
  have complete : ¬ (framed frame ++ rest).length < lengthWidth := by
    rw [framed, List.append_assoc, List.length_append, width]
    omega
  rw [takeLength]
  dsimp only
  rw [if_neg complete, framed, List.append_assoc, List.take_left' width, List.drop_left' width,
    announced]

theorem next_framed (short : frame.length ≤ maxLength) (narrow : frame.length < UInt32.size) :
    next ⟨maxLength, none, framed frame ++ rest⟩ = .ok (some frame, ⟨maxLength, none, rest⟩) := by
  rw [next, takeLength_framed narrow, if_neg (Nat.not_lt.mpr short)]
  change (if (frame ++ rest).length < frame.length then _ else _) = _
  rw [if_neg (by rw [List.length_append]; omega), List.take_left, List.drop_left]
  rfl

theorem next_long (long : maxLength < frame.length) (narrow : frame.length < UInt32.size) :
    next ⟨maxLength, none, framed frame ++ rest⟩ = .error .tooBigToReceive := by
  rw [next, takeLength_framed narrow, if_pos long]
  rfl

theorem drainWithin_framed {frames : List Bytes} {budget : Nat}
    (short : ∀ frame ∈ frames, frame.length ≤ maxLength ∧ frame.length < UInt32.size)
    (enough : frames.length < budget) :
    drainWithin budget ⟨maxLength, none, frames.flatMap framed⟩ =
      (frames, .ok ⟨maxLength, none, []⟩) := by
  induction frames generalizing budget with
  | nil =>
      cases budget with
      | zero => cases enough
      | succ budget => rfl
  | cons frame frames induction =>
      cases budget with
      | zero => cases enough
      | succ budget =>
          rcases short frame List.mem_cons_self with ⟨fits, narrow⟩
          rw [drainWithin, List.flatMap_cons, next_framed fits narrow]
          dsimp only
          rw [induction (fun other member => short other (List.mem_cons_of_mem _ member))
            (Nat.lt_of_succ_lt_succ enough)]

end Unwrapper

theorem length_le_flatMap_framed (frames : List Bytes) :
    frames.length ≤ (frames.flatMap framed).length := by
  induction frames with
  | nil => exact Nat.le_refl 0
  | cons frame frames induction =>
      have width : (framed frame).length = lengthWidth + frame.length := by
        rw [framed, List.length_append, length_bigEndian]
      rw [List.flatMap_cons, List.length_append, List.length_cons, width, lengthWidth]
      omega

/-- A stream is taken apart into the frames that it was put together from. -/
theorem unwrapAll_framed {maxLength : Nat} {frames : List Bytes}
    (short : ∀ frame ∈ frames, frame.length ≤ maxLength ∧ frame.length < UInt32.size) :
    unwrapAll maxLength (frames.flatMap framed) = (frames, .ok ()) := by
  have drained : ((Unwrapper.start maxLength).feed (frames.flatMap framed)).drain =
      (frames, .ok ⟨maxLength, none, []⟩) :=
    Unwrapper.drainWithin_framed short (Nat.lt_succ_of_le (length_le_flatMap_framed frames))
  rw [unwrapAll, drained]
  rfl

/-- Nothing comes of a stream that begins with a frame that is too long. -/
theorem unwrapAll_long {maxLength : Nat} {frame : Bytes} (long : maxLength < frame.length)
    (narrow : frame.length < UInt32.size) :
    unwrapAll maxLength (framed frame) = ([], .error .tooBigToReceive) := by
  have failed := @Unwrapper.next_long maxLength frame [] long narrow
  rw [List.append_nil] at failed
  have drained : ((Unwrapper.start maxLength).feed (framed frame)).drain =
      ([], .error .tooBigToReceive) := by
    change Unwrapper.drainWithin _ ⟨maxLength, none, framed frame⟩ = _
    rw [Unwrapper.drainWithin, failed]
  rw [unwrapAll, drained]
  rfl

end Telemetry.Delivery
