import Telemetry.Collector.Receiver
import Telemetry.Delivery.Framing

namespace Telemetry.Collector

open Wire Message RowKey Delivery

/-! A collector at work. Every frame is handled by itself: a bad one is counted and changes
nothing else, and its connection goes on. Only a connection whose framing breaks is given up. -/

structure Counters where
  received : Nat
  decodeErrors : Nat
  storeErrors : Nat
deriving DecidableEq, Repr

namespace Counters

def zero : Counters := ⟨0, 0, 0⟩

def count (outcome : Except CollectorError Unit) (counters : Counters) : Counters :=
  let counters := { counters with received := counters.received + 1 }
  match outcome with
  | .ok _ => counters
  | .error error =>
      if error.isDecodeError then { counters with decodeErrors := counters.decodeErrors + 1 }
      else { counters with storeErrors := counters.storeErrors + 1 }

/-- Counts a frame that is too broken to tell what it carries. -/
def countUnreadable (counters : Counters) : Counters :=
  { counters with
    received := counters.received + 1
    decodeErrors := counters.decodeErrors + 1 }

end Counters

structure Service where
  receiver : Receiver
  store : Store
  counters : Counters
  outages : List StoreCall

inductive Refusal where
  /-- It is no frame at all. -/
  | unreadable (cause : DecodeError)
  | rejected (cause : CollectorError)
deriving DecidableEq, Repr

namespace Service

def ofConfig (config : Config) (outages : List StoreCall) : Except RowKeyError Service := do
  let receiver ← Receiver.ofConfig config
  pure { receiver, store := .empty, counters := .zero, outages }

/-- Stores what a frame asks for and counts the frame. -/
def execute (writes : Except CollectorError (List Write)) (service : Service) :
    Except CollectorError Unit × Service :=
  let (outcome, store) :=
    match writes with
    | .ok writes => service.store.perform service.outages writes
    | .error error => (.error error, service.store)
  (outcome, { service with store, counters := service.counters.count outcome })

def handle (now : Int64) (frame : Frame) (service : Service) :
    Except CollectorError Unit × Service :=
  service.execute (service.receiver.streamWrites now frame)

def handleRequest (id : UInt64) (frame : Frame) (service : Service) : Ack × Service :=
  let (outcome, service) := service.execute (service.receiver.requestWrites frame)
  (⟨id, outcome.isOk⟩, service)

def noteUnreadable (service : Service) : Service :=
  { service with counters := service.counters.countUnreadable }

/-! ### Connections -/

/-- What a streaming connection does with the bytes of a frame. -/
def receive (now : Int64) (bytes : Bytes) (service : Service) : Except Refusal Unit × Service :=
  match Frame.decode bytes with
  | .error cause => (.error (.unreadable cause), service.noteUnreadable)
  | .ok frame =>
      match service.handle now frame with
      | (.ok _, service) => (.ok (), service)
      | (.error cause, service) => (.error (.rejected cause), service)

/-- What the metadata connection does with the bytes of a frame. A frame that is no request gets
no answer. -/
def receiveRequest (bytes : Bytes) (service : Service) : Except DecodeError Ack × Service :=
  match Frame.decodeRequest bytes with
  | .error cause => (.error cause, service.noteUnreadable)
  | .ok (id, frame) =>
      let (ack, service) := service.handleRequest id frame
      (.ok ack, service)

def receiveAll (now : Int64) (frames : List Bytes) (service : Service) : Service :=
  frames.foldl (fun service bytes => (service.receive now bytes).2) service

/-- Takes in the frames of a metadata connection; the framed answers to them. An answer that does
not fit into a frame ends the connection. -/
def answerAll (maxLength : Nat) : List Bytes → Service → Bytes × Service
  | [], service => ([], service)
  | bytes :: frames, service =>
      match service.receiveRequest bytes with
      | (.error _, service) => answerAll maxLength frames service
      | (.ok ack, service) =>
          match wrap maxLength (Frame.ofAck ack).encode with
          | .error _ => ([], service)
          | .ok answer =>
              let (answers, service) := answerAll maxLength frames service
              (answer ++ answers, service)

/-- Serves a whole connection: the bytes that are sent back, and the collector afterwards. -/
def serve (channel : Channel) (maxLength : Nat) (now : Int64) (stream : Bytes) (service : Service) :
    Bytes × Service :=
  let frames := (unwrapAll maxLength stream).1
  match channel with
  | .metadata => service.answerAll maxLength frames
  | .span => ([], service.receiveAll now frames)
  | .stat => ([], service.receiveAll now frames)

end Service

end Telemetry.Collector
