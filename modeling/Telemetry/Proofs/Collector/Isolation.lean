import Mathlib
import Telemetry.Proofs.Collector.Writes
import Telemetry.Proofs.Delivery.Frame
import Telemetry.Proofs.Wire.Varint

namespace Telemetry.Collector

open Wire Message Delivery

/-! Bad frames on a connection. What a frame asks for is decided before anything is written, so a
frame that fails leaves the tables alone and the connection goes on: in the end the tables are as if
only the handled frames had come in, and every failed frame is counted once. Only an answer that
does not fit into a frame ends a connection. -/

/-- A frame that comes in: what the collector's clock shows, and its bytes. -/
structure Incoming where
  now : Int64
  bytes : Bytes
deriving DecidableEq, Repr

namespace Service

/-- Takes in a frame on a connection: the answer to it, if it gets one, and the collector
afterwards. -/
def attend (channel : Channel) (incoming : Incoming) (service : Service) : Option Ack × Service :=
  match channel with
  | .metadata =>
      let (answer, service) := service.receiveRequest incoming.bytes
      (answer.toOption, service)
  | .span => (none, (service.receive incoming.now incoming.bytes).2)
  | .stat => (none, (service.receive incoming.now incoming.bytes).2)

/-- Whether a frame is handled successfully. -/
def handles (channel : Channel) (incoming : Incoming) (service : Service) : Bool :=
  match channel with
  | .metadata => (service.receiveRequest incoming.bytes).1.toOption.any Ack.success
  | .span => (service.receive incoming.now incoming.bytes).1.isOk
  | .stat => (service.receive incoming.now incoming.bytes).1.isOk

/-- A connection on which frames come in one after the other: the answers that are sent, and the
collector afterwards. -/
def converse (channel : Channel) (maxLength : Nat) : List Incoming → Service → List Ack × Service
  | [], service => ([], service)
  | incoming :: incomings, service =>
      match service.attend channel incoming with
      | (none, service) => converse channel maxLength incomings service
      | (some ack, service) =>
          match wrap maxLength (Frame.ofAck ack).encode with
          | .error _ => ([], service)
          | .ok _ =>
              let (acks, service) := converse channel maxLength incomings service
              (ack :: acks, service)

end Service

/-- A frame, and the collector that it comes to. -/
structure Reception where
  service : Service
  incoming : Incoming

namespace Reception

def handled (channel : Channel) (reception : Reception) : Bool :=
  reception.service.handles channel reception.incoming

def answer? (channel : Channel) (reception : Reception) : Option Ack :=
  (reception.service.attend channel reception.incoming).1

def after (channel : Channel) (reception : Reception) : Service :=
  (reception.service.attend channel reception.incoming).2

end Reception

namespace Service

/-- The frames of a connection, each with the collector that it comes to. -/
def receptions (channel : Channel) : List Incoming → Service → List Reception
  | [], _ => []
  | incoming :: incomings, service =>
      ⟨service, incoming⟩ :: receptions channel incomings (service.attend channel incoming).2

/-- The answers to the frames that get one. -/
def answers (channel : Channel) (incomings : List Incoming) (service : Service) : List Ack :=
  (service.receptions channel incomings).filterMap (Reception.answer? channel)

end Service

/-- Whether an answer fits into a frame. -/
def sendable (maxLength : Nat) (ack : Ack) : Bool := (Frame.ofAck ack).fits maxLength

/-- How long the frame of an answer can be: its kind, its version, an id of up to ten bytes, and
whether the request was successful. -/
def longestAnswer : Nat := 1 + 1 + 10 + 1

theorem sendable_of_wide {maxLength : Nat} (wide : longestAnswer ≤ maxLength) (ack : Ack) :
    sendable maxLength ack = true := by
  have id : (putVlong ack.requestId).length ≤ 10 := by
    apply length_varint_le 9
    have fits := ack.requestId.toNat_lt
    omega
  have length : (Frame.ofAck ack).encodedLength ≤ longestAnswer := by
    simp only [Frame.ofAck, Frame.encodedLength, Ack.encode, putBool, longestAnswer,
      List.cons_append, List.length_cons, List.length_append, List.length_nil]
    omega
  have limit : longestAnswer ≤ UInt32.size - 1 := by decide
  exact Frame.fits_iff.mpr (Nat.le_min.mpr ⟨length.trans wide, length.trans limit⟩)

/-- The answer to a frame tells whether its message was stored. -/
structure Answered (channel : Channel) (reception : Reception) : Prop where
  streamed : channel ≠ .metadata → reception.answer? channel = none
  unreadable : ∀ cause, Frame.decodeRequest reception.incoming.bytes = .error cause →
    reception.answer? channel = none
  request : channel = .metadata → ∀ id frame,
    Frame.decodeRequest reception.incoming.bytes = .ok (id, frame) →
      (reception.answer? channel = some ⟨id, true⟩ ∧ ∃ write,
        reception.service.receiver.requestWrites frame = .ok [write] ∧
        (reception.after channel).store = reception.service.store.apply write) ∨
      (reception.answer? channel = some ⟨id, false⟩ ∧ ∃ error,
        reception.service.receiver.requestWrites frame = .error error ∧
        (reception.after channel).store = reception.service.store)

/-- What a frame asks for on a connection where it can be read: the id that it is answered under,
and the writes. -/
def Receiver.reading (receiver : Receiver) (channel : Channel) (incoming : Incoming) :
    Except DecodeError (Option UInt64 × Except CollectorError (List Write)) :=
  match channel with
  | .metadata => (Frame.decodeRequest incoming.bytes).map fun request =>
      (some request.1, receiver.requestWrites request.2)
  | .span => (Frame.decode incoming.bytes).map fun frame =>
      (none, receiver.streamWrites incoming.now frame)
  | .stat => (Frame.decode incoming.bytes).map fun frame =>
      (none, receiver.streamWrites incoming.now frame)

namespace Service

section Frames

variable {service : Service} {channel : Channel} {incoming : Incoming}

theorem receive_of_unreadable {cause : DecodeError}
    (unreadable : Frame.decode incoming.bytes = .error cause) :
    service.receive incoming.now incoming.bytes =
      (.error (.unreadable cause), service.noteUnreadable) := by
  rw [receive, unreadable]

theorem receive_of_frame {frame : Frame} (read : Frame.decode incoming.bytes = .ok frame) :
    (service.receive incoming.now incoming.bytes).1.isOk =
        (service.handle incoming.now frame).1.isOk ∧
      (service.receive incoming.now incoming.bytes).2 =
        (service.handle incoming.now frame).2 := by
  rw [receive, read]
  dsimp only
  rcases service.handle incoming.now frame with ⟨outcome | outcome, later⟩ <;> exact ⟨rfl, rfl⟩

theorem attend_of_unreadable {cause : DecodeError}
    (unreadable : service.receiver.reading channel incoming = .error cause) :
    service.attend channel incoming = (none, service.noteUnreadable) ∧
      service.handles channel incoming = false := by
  cases channel with
  | metadata =>
      cases read : Frame.decodeRequest incoming.bytes with
      | error cause =>
          rw [attend, handles, receiveRequest, read]
          exact ⟨rfl, rfl⟩
      | ok request =>
          rw [Receiver.reading, read] at unreadable
          cases unreadable
  | span | stat =>
      cases read : Frame.decode incoming.bytes with
      | error cause =>
          rw [attend, handles, receive_of_unreadable read]
          exact ⟨rfl, rfl⟩
      | ok frame =>
          rw [Receiver.reading, read] at unreadable
          cases unreadable

theorem attend_of_reading {id? : Option UInt64} {asked : Except CollectorError (List Write)}
    (read : service.receiver.reading channel incoming = .ok (id?, asked)) :
    service.attend channel incoming =
        (id?.map fun id => ⟨id, (service.execute asked).1.isOk⟩, (service.execute asked).2) ∧
      service.handles channel incoming = (service.execute asked).1.isOk := by
  cases channel with
  | metadata =>
      rcases map_eq_ok.mp read with ⟨request, decoded, same⟩
      cases same
      rw [attend, handles, receiveRequest, decoded]
      exact ⟨rfl, rfl⟩
  | span | stat =>
      rcases map_eq_ok.mp read with ⟨frame, decoded, same⟩
      cases same
      rw [attend, handles, (receive_of_frame decoded).1, (receive_of_frame decoded).2]
      exact ⟨rfl, rfl⟩

theorem answered (inService : service.outages = []) (channel : Channel) (incoming : Incoming) :
    Answered channel ⟨service, incoming⟩ := by
  constructor
  · intro streamed
    cases channel with
    | metadata => exact absurd rfl streamed
    | span | stat => rfl
  · intro cause unreadable
    cases channel with
    | metadata =>
        rw [Reception.answer?, attend, receiveRequest, unreadable]
        rfl
    | span | stat => rfl
  · rintro rfl id frame decoded
    have read : service.receiver.reading .metadata incoming =
        .ok (some id, service.receiver.requestWrites frame) :=
      map_eq_ok.mpr ⟨(id, frame), decoded, rfl⟩
    rw [Reception.answer?, Reception.after, (attend_of_reading read).1]
    cases asked : service.receiver.requestWrites frame with
    | error cause => exact .inr ⟨rfl, cause, rfl, rfl⟩
    | ok writes =>
        rcases Receiver.requestWrites_eq_ok asked with ⟨write, rfl, -⟩
        rw [execute_ok inService]
        exact .inl ⟨rfl, write, rfl, rfl⟩

end Frames

/-! ### Many frames -/

section Runs

variable {service : Service} {channel : Channel}

end Runs

/-! ### Connections -/

section Connections

variable {service : Service} {channel : Channel} {maxLength : Nat}

theorem converse_of_silent {later : Service} {incoming : Incoming}
    (attended : service.attend channel incoming = (none, later)) (incomings : List Incoming) :
    service.converse channel maxLength (incoming :: incomings) =
      later.converse channel maxLength incomings := by
  rw [converse, attended]

theorem converse_of_answer {later : Service} {incoming : Incoming} {ack : Ack} {answer : Bytes}
    (attended : service.attend channel incoming = (some ack, later))
    (sent : wrap maxLength (Frame.ofAck ack).encode = .ok answer) (incomings : List Incoming) :
    service.converse channel maxLength (incoming :: incomings) =
      (ack :: (later.converse channel maxLength incomings).1,
        (later.converse channel maxLength incomings).2) := by
  rw [converse, attended]
  dsimp only
  rw [sent]

theorem converse_of_unsent {later : Service} {incoming : Incoming} {ack : Ack}
    {cause : FramingError} (attended : service.attend channel incoming = (some ack, later))
    (unsent : wrap maxLength (Frame.ofAck ack).encode = .error cause)
    (incomings : List Incoming) :
    service.converse channel maxLength (incoming :: incomings) = ([], later) := by
  rw [converse, attended]
  dsimp only
  rw [unsent]

theorem converse_singleton (service : Service) (channel : Channel) (maxLength : Nat)
    (incoming : Incoming) :
    service.converse channel maxLength [incoming] =
      ((service.attend channel incoming).1.toList.filter (sendable maxLength),
        (service.attend channel incoming).2) := by
  rcases attended : service.attend channel incoming with ⟨_ | ack, later⟩
  · rw [converse_of_silent attended]
    rfl
  · have fits : sendable maxLength ack = (wrap maxLength (Frame.ofAck ack).encode).isOk := rfl
    cases sent : wrap maxLength (Frame.ofAck ack).encode with
    | error cause =>
        rw [sent] at fits
        rw [converse_of_unsent attended sent, Option.toList_some, List.filter_singleton, fits]
        rfl
    | ok answer =>
        rw [sent] at fits
        rw [converse_of_answer attended sent, Option.toList_some, List.filter_singleton, fits]
        rfl

end Connections

end Service

/-! ### Streams of bytes -/

namespace Service

theorem answerAll_eq_converse (maxLength : Nat) (now : Int64) (frames : List Bytes)
    (service : Service) :
    service.answerAll maxLength frames =
      (((service.converse .metadata maxLength (frames.map (Incoming.mk now))).1.flatMap
          fun ack => framed (Frame.ofAck ack).encode),
        (service.converse .metadata maxLength (frames.map (Incoming.mk now))).2) := by
  induction frames generalizing service with
  | nil => rfl
  | cons bytes frames induction =>
      rw [answerAll, List.map_cons]
      rcases received : service.receiveRequest bytes with ⟨cause | ack, later⟩
      · have silent : service.attend .metadata ⟨now, bytes⟩ = (none, later) := by
          rw [attend, received]
          rfl
        rw [converse_of_silent silent]
        exact induction later
      · have attended : service.attend .metadata ⟨now, bytes⟩ = (some ack, later) := by
          rw [attend, received]
          rfl
        dsimp only
        cases sent : wrap maxLength (Frame.ofAck ack).encode with
        | error cause =>
            rw [converse_of_unsent attended sent]
            rfl
        | ok answer =>
            rw [converse_of_answer attended sent, List.flatMap_cons, ← (wrap_eq_ok.mp sent).2]
            dsimp only
            rw [induction later]

theorem receiveAll_eq_converse {channel : Channel} (streamed : channel ≠ .metadata)
    (maxLength : Nat) (now : Int64) (frames : List Bytes) (service : Service) :
    ([], service.receiveAll now frames) =
      service.converse channel maxLength (frames.map (Incoming.mk now)) := by
  induction frames generalizing service with
  | nil => rfl
  | cons bytes frames induction =>
      have silent : service.attend channel ⟨now, bytes⟩ =
          (none, (service.receive now bytes).2) := by
        cases channel with
        | metadata => exact absurd rfl streamed
        | span | stat => rfl
      rw [List.map_cons, converse_of_silent silent]
      exact induction _

/-- Serving a stream of bytes is attending to the frames in it. -/
theorem serve_eq_converse (channel : Channel) (maxLength : Nat) (now : Int64) (stream : Bytes)
    (service : Service) :
    service.serve channel maxLength now stream =
      let incomings := (unwrapAll maxLength stream).1.map (Incoming.mk now)
      (((service.converse channel maxLength incomings).1.flatMap
          fun ack => framed (Frame.ofAck ack).encode),
        (service.converse channel maxLength incomings).2) := by
  cases channel with
  | metadata => exact answerAll_eq_converse maxLength now _ service
  | span | stat =>
      rw [serve]
      dsimp only
      rw [← receiveAll_eq_converse (by decide) maxLength now]
      rfl

end Service

end Telemetry.Collector
