import Telemetry.Proofs.Collector.TraceIndex
import Telemetry.Proofs.Delivery.Sending

namespace Telemetry.Collector

open Wire Message Delivery

/-! A sender of metadata requests in touch with its collector. The sender, the client that exchanges
its requests, the connections and the collector take turns in any order. A connection delivers whole
frames in order until it breaks, and an answer may arrive when nobody waits for it any more. -/

/-- What is under way between the client and the collector. -/
structure Connection where
  requests : List Bytes
  answers : List Bytes
deriving DecidableEq, Repr

/-- The connection after the collector took its first request in. What is no request gets no
answer. -/
def Connection.answer (requests : List Bytes) (outcome : Except DecodeError Ack)
    (connection : Connection) : Connection :=
  match outcome with
  | .ok ack => ⟨requests, connection.answers ++ [(Frame.ofAck ack).encode]⟩
  | .error _ => ⟨requests, connection.answers⟩

/-- A request that was counted as flushed. -/
structure Flush where
  request : Request
  ack : Ack
  /-- How many writes the collector had done by then. -/
  writes : Nat
deriving DecidableEq, Repr

structure Dialogue where
  sender : Sender
  /-- All connections that were opened, those included that the client has given up. -/
  connections : List Connection
  /-- The connection that the client uses. -/
  current : Option Nat
  /-- Whether the request in flight was sent on it. -/
  awaiting : Bool
  service : Service
  /-- What the collector has written, in order. -/
  written : List Write
  flushes : List Flush

namespace Service

/-- The writes that the collector does for the bytes of a request. -/
def requestPerformed (service : Service) (bytes : Bytes) : List Write :=
  match Frame.decodeRequest bytes with
  | .error _ => []
  | .ok (_, frame) => service.performed (service.receiver.requestWrites frame)

def arrivalPerformed (service : Service) : Arrival → List Write
  | .streamed now frame => service.performed (service.receiver.streamWrites now frame)
  | .request _ frame => service.performed (service.receiver.requestWrites frame)

theorem store_takeIn (service : Service) (arrival : Arrival) :
    (service.takeIn arrival).store =
      service.store.applyAll (service.arrivalPerformed arrival) := by
  cases arrival <;> exact store_execute _ _

theorem receiveRequest_writes (service : Service) (bytes : Bytes) :
    (service.receiveRequest bytes).2.receiver = service.receiver ∧
      (service.receiveRequest bytes).2.store =
        service.store.applyAll (service.requestPerformed bytes) := by
  rw [receiveRequest, requestPerformed]
  cases Frame.decodeRequest bytes with
  | error cause => exact ⟨rfl, rfl⟩
  | ok result => exact ⟨rfl, store_execute _ _⟩

end Service

namespace Dialogue

inductive Move where
  | sender (move : Sender.Move)
  /-- The client opens a connection. -/
  | connect
  /-- The client sends the request in flight. -/
  | transmit
  /-- The client reads the answer it has been waiting for. -/
  | read
  /-- No answer came: the connection broke or could not be opened, or the time ran out. -/
  | fail
  /-- The client closes its connection after the last request. -/
  | release
  /-- The collector takes a request in and answers it. -/
  | serve (place : Nat)
  /-- A connection breaks: of what is under way on it, only the first parts still arrive. -/
  | lose (place requests answers : Nat)
  /-- The collector serves somebody else. -/
  | visit (arrival : Arrival)
  /-- Parts of the store go out of service or come back. -/
  | outage (calls : List StoreCall)
  /-- A move of the sender that looked at the shutdown flag before it was set. -/
  | unaware (move : Move)
deriving DecidableEq, Repr

def start (sender : Sender) (service : Service) : Dialogue where
  sender := sender
  connections := []
  current := none
  awaiting := false
  service := service
  written := []
  flushes := []

/-- What the worker does with the client's answer to the request in flight. Without an answer the
connection is given up. -/
def settle? (request : Request) (dialogue : Dialogue) : Option Ack → Option Dialogue
  | some ack =>
      if ack.success then
        (dialogue.sender.event? .acknowledged).map fun sender =>
          { dialogue with
            sender
            awaiting := false
            flushes := dialogue.flushes ++ [⟨request, ack, dialogue.written.length⟩] }
      else
        (dialogue.sender.event? .failed).map fun sender =>
          { dialogue with sender, awaiting := false }
  | none =>
      (dialogue.sender.event? .failed).map fun sender =>
        { dialogue with sender, awaiting := false, current := none }

def setShutdown (shutdown : Bool) (dialogue : Dialogue) : Dialogue :=
  { dialogue with
    sender := { dialogue.sender with channel := { dialogue.sender.channel with shutdown } } }

def move? (dialogue : Dialogue) : Move → Option Dialogue
  | .sender move => (dialogue.sender.move? move).map fun sender => { dialogue with sender }
  | .connect => do
      let _ ← dialogue.sender.inFlight?
      if dialogue.current.isSome then none
      else
        some { dialogue with
          connections := dialogue.connections ++ [⟨[], []⟩]
          current := some dialogue.connections.length }
  | .transmit => do
      let request ← dialogue.sender.inFlight?
      let place ← dialogue.current
      let connection ← dialogue.connections[place]?
      if dialogue.awaiting then none
      else
        let requests := connection.requests ++ [request.frame.encodeRequest request.id]
        some { dialogue with
          connections := dialogue.connections.set place { connection with requests }
          awaiting := true }
  | .read => do
      let request ← dialogue.sender.inFlight?
      let place ← dialogue.current
      let connection ← dialogue.connections[place]?
      match dialogue.awaiting, connection.answers with
      | true, bytes :: answers =>
          let connections := dialogue.connections.set place { connection with answers }
          settle? request { dialogue with connections }
            (Frame.decodeAck bytes request.id).toOption
      | _, _ => none
  | .fail => do
      let request ← dialogue.sender.inFlight?
      dialogue.settle? request none
  | .release =>
      if dialogue.sender.channel.phase = .finished then some { dialogue with current := none }
      else none
  | .serve place => do
      let connection ← dialogue.connections[place]?
      match connection.requests with
      | bytes :: requests =>
          let answered := dialogue.service.receiveRequest bytes
          some { dialogue with
            connections :=
              dialogue.connections.set place (connection.answer requests answered.1)
            service := answered.2
            written := dialogue.written ++ dialogue.service.requestPerformed bytes }
      | [] => none
  | .lose place requests answers => do
      let connection ← dialogue.connections[place]?
      let left := ⟨connection.requests.take requests, connection.answers.take answers⟩
      some { dialogue with connections := dialogue.connections.set place left }
  | .visit arrival =>
      some { dialogue with
        service := dialogue.service.takeIn arrival
        written := dialogue.written ++ dialogue.service.arrivalPerformed arrival }
  | .outage calls => some { dialogue with service := { dialogue.service with outages := calls } }
  | .unaware move =>
      (move? (dialogue.setShutdown false) move).map fun after =>
        after.setShutdown
          (dialogue.sender.channel.shutdown || after.sender.channel.shutdown)

def moveAll? (dialogue : Dialogue) : List Move → Option Dialogue
  | [] => some dialogue
  | move :: moves => (dialogue.move? move).bind fun next => next.moveAll? moves

end Dialogue

end Telemetry.Collector
