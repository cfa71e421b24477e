import Telemetry.Collector.Service
import Telemetry.Delivery.Transport

namespace Telemetry.Rehearsal

open Wire Message Delivery Collector

/-! Agents and their collector on one machine, talking over its own network. Whether the collector
can be reached at all is up to that network: without it nothing arrives and nothing is counted at
the collector's end. -/

inductive Network where
  | up
  /-- No address can be reached. -/
  | down
deriving DecidableEq, Repr

inductive DialError where
  | networkUnreachable
deriving DecidableEq, Repr

namespace DialError

def message : DialError → String
  | .networkUnreachable => "Network is unreachable"

end DialError

/-- Opens a connection to the collector, on one of its channels, sends bytes, ends the sending,
and reads what comes back. -/
def visit (network : Network) (maxLength : Nat) (now : Int64) (channel : Channel) (stream : Bytes)
    (service : Service) : Except DialError (Bytes × Service) :=
  match network with
  | .up => .ok (service.serve channel maxLength now stream)
  | .down => .error .networkUnreachable

/-- Opens connections one after the other. For each of them: the bytes that came back and the
collector's counters afterwards. -/
def visitAll (network : Network) (maxLength : Nat) (now : Int64) :
    List (Channel × Bytes) → Service →
      Except DialError (List (Bytes × Collector.Counters) × Service)
  | [], service => .ok ([], service)
  | (channel, stream) :: visits, service => do
      let (answer, service) ← visit network maxLength now channel stream service
      let (others, last) ← visitAll network maxLength now visits service
      pure ((answer, service.counters) :: others, last)

/-! ### A transport in front of the collector -/

/-- A transport and the collector that it is connected to. What a channel asks of its peer, the
network and the collector answer at once. -/
structure Pipeline where
  network : Network
  /-- The longest frame that the agent's end lets through. -/
  sendLimit : Nat
  /-- The longest frame that the collector's end lets through. -/
  receiveLimit : Nat
  /-- What the collector's clock shows. -/
  clock : Int64
  /-- How long the transport has been at work. -/
  elapsed : Nanos
  transport : Transport
  service : Service
  /-- The streams whose connection the collector has given up, which they have not noticed yet. -/
  abandoned : List Channel

namespace Pipeline

def start (network : Network) (agent : Delivery.Config) (collector : Collector.Config)
    (clock : Int64) (service : Service) : Pipeline where
  network := network
  sendLimit := agent.maxFrameLength
  receiveLimit := collector.maxFrameLength
  clock := clock
  elapsed := 0
  transport := .ofConfig agent
  service := service
  abandoned := []

/-- Sends a frame to the collector: what comes back and the collector afterwards, unless the frame
is too long to be sent or the collector cannot be reached. -/
def post? (channel : Channel) (frame : Bytes) (pipeline : Pipeline) : Option (Bytes × Service) := do
  let stream ← (wrap pipeline.sendLimit frame).toOption
  (visit pipeline.network pipeline.receiveLimit pipeline.clock channel stream
    pipeline.service).toOption

/-- What comes of writing a frame. A frame that is too long for the collector ends the connection,
but not before it was written. -/
def write (channel : Channel) (frame : Frame) (pipeline : Pipeline) : StreamEvent × Pipeline :=
  match pipeline.post? channel frame.encode with
  | none => (.writeFailed, pipeline)
  | some (_, service) =>
      if pipeline.receiveLimit < frame.encodedLength then
        (.written, { pipeline with service, abandoned := channel :: pipeline.abandoned })
      else (.written, { pipeline with service })

/-- What happens to a channel's stream next if it does not have to wait, and the surroundings it
then finds. -/
def streamEvent (channel : Channel) (stream : Stream) (pipeline : Pipeline) :
    StreamEvent × Pipeline :=
  match stream.phase with
  | .ready => (.begin, pipeline)
  | .connecting =>
      match pipeline.network with
      | .up => (.connected, pipeline)
      | .down => (.refused, pipeline)
  | .idle =>
      if channel ∈ pipeline.abandoned then
        (.peerClosed, { pipeline with
          abandoned := pipeline.abandoned.filter fun other => other ≠ channel })
      else (.take, pipeline)
  | .writing frame => pipeline.write channel frame
  | .completing => (.completed, pipeline)
  | .waiting => (.notified, pipeline)
  | .sleeping _ => (.slept, pipeline)
  | .finished => (.noticeShutdown, pipeline)

/-- Whether what came back is an answer to the request that reports success. -/
def confirms (maxLength : Nat) (id : UInt64) (answer : Bytes) : Bool :=
  match (unwrapAll maxLength answer).1 with
  | [] => false
  | bytes :: _ => (Frame.decodeAck bytes id).toOption.any Ack.success

/-- What comes of a request. -/
def exchange (request : Request) (pipeline : Pipeline) : RequestEvent × Pipeline :=
  match pipeline.post? .metadata (request.frame.encodeRequest request.id) with
  | none => (.failed, pipeline)
  | some (answer, service) =>
      let later := { pipeline with service }
      if confirms pipeline.sendLimit request.id answer then (.acknowledged, later)
      else (.failed, later)

/-- What happens to the metadata channel next if it does not have to wait. -/
def requestEvent (channel : RequestChannel) (pipeline : Pipeline) : RequestEvent × Pipeline :=
  match channel.phase with
  | .idle => (.take, pipeline)
  | .requesting request => pipeline.exchange request
  | .finished => (.noticeShutdown, pipeline)

/-! The steps of the channels, `none` where a channel has to wait. -/

def stepSpan? (pipeline : Pipeline) : Option Pipeline :=
  let transport := pipeline.transport
  let (event, later) := pipeline.streamEvent .span transport.span
  (transport.span.step? pipeline.elapsed (.reconnect .span) event transport.timer).map
    fun (span, timer) => { later with transport := { transport with span, timer } }

def stepStat? (pipeline : Pipeline) : Option Pipeline :=
  let transport := pipeline.transport
  let (event, later) := pipeline.streamEvent .stat transport.stat
  (transport.stat.step? pipeline.elapsed (.reconnect .stat) event transport.timer).map
    fun (stat, timer) => { later with transport := { transport with stat, timer } }

def stepMetadata? (pipeline : Pipeline) : Option Pipeline :=
  let transport := pipeline.transport
  let (event, later) := pipeline.requestEvent transport.metadata
  (transport.metadata.step? .retry event transport.timer).map
    fun (metadata, timer) => { later with transport := { transport with metadata, timer } }

/-- Time passes until the next tick of the timer. -/
def tick (pipeline : Pipeline) : Pipeline :=
  { pipeline with
    elapsed := pipeline.elapsed + pipeline.transport.timer.tick
    transport := pipeline.transport.advance }

/-- The first channel that can go on takes a step. The timer is advanced when all have to wait. -/
def turn (pipeline : Pipeline) : Pipeline :=
  (pipeline.stepSpan? <|> pipeline.stepStat? <|> pipeline.stepMetadata?).getD pipeline.tick

/-! ### Sending and waiting -/

/-- How many frames a channel is done with. -/
def settled (channel : Channel) (pipeline : Pipeline) : Nat :=
  let counters := pipeline.transport.counters channel
  counters.flushed + counters.dropped

/-- Takes turns until a channel is done with so many frames, but no more turns than given. -/
def settle (channel : Channel) (frames : Nat) : (turns : Nat) → Pipeline → Pipeline
  | 0, pipeline => pipeline
  | turns + 1, pipeline =>
      if frames ≤ pipeline.settled channel then pipeline
      else settle channel frames turns pipeline.turn

/-- How many turns there can be from one tick to the next one: both streams wake up, begin and are
refused, and the metadata channel takes a request that fails. -/
def turnsPerTick : Nat := 3 + 3 + 2 + 1

/-- The turns after which a request has been sent as often as it may be. -/
def patience (pipeline : Pipeline) : Nat :=
  let metadata := pipeline.transport.metadata
  (metadata.maxRetries + 1) * (pipeline.transport.timer.ticksOf metadata.retryDelay + 1) *
    turnsPerTick

/-- Hands a message over and waits until its channel is done with it, or patience is lost. -/
def send (message : TelemetryMessage) (pipeline : Pipeline) :
    Except EncodeError Bool × Pipeline :=
  match pipeline.transport.send message with
  | .error error => (.error error, pipeline)
  | .ok (accepted, transport) =>
      let sent := { pipeline with transport }
      match channel? message.kind with
      | none => (.ok accepted, sent)
      | some channel =>
          (.ok accepted, sent.settle channel (pipeline.settled channel + 1) pipeline.patience)

end Pipeline

end Telemetry.Rehearsal
