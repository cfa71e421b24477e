import Telemetry.Delivery.Config
import Telemetry.Delivery.Requests

namespace Telemetry.Delivery

open Wire Message

/-! The agent's end of all connections: a span stream, a stat stream and the metadata requests, all
on one timer. -/

/-- What the shared timer runs. -/
inductive Job where
  | reconnect (channel : Channel)
  | retry (request : Request)
  /-- Belongs to another user of the timer. -/
  | unrelated
deriving DecidableEq, Repr

structure Transport where
  span : Stream
  stat : Stream
  metadata : RequestChannel
  timer : Timer Job
  closed : Bool
deriving DecidableEq

namespace Transport

def ofConfig (config : Config) : Transport :=
  let backoff := Backoff.ofDelays config.reconnectDelay config.reconnectMaxDelay
  { span := .start .span config.spanQueueSize backoff
    stat := .start .stat config.statQueueSize backoff
    metadata :=
      .start config.metadataQueueSize config.metadataRetryDelay config.metadataRetryMaxCount
    timer := .start config.timerTick config.timerWheelSize config.timerMaxPendingTimeouts
    closed := false }

/-- Hands a frame to a channel, whatever the kind of the frame. -/
def sendOn (channel : Channel) (frame : Frame) (transport : Transport) : Bool × Transport :=
  match channel with
  | .span =>
      let (accepted, span) := transport.span.send frame
      (accepted, { transport with span })
  | .stat =>
      let (accepted, stat) := transport.stat.send frame
      (accepted, { transport with stat })
  | .metadata =>
      let (accepted, metadata) := transport.metadata.send frame
      (accepted, { transport with metadata })

/-- Hands a frame to the channel of its kind. Frames that only a collector sends are refused and
not counted. -/
def sendFrame (frame : Frame) (transport : Transport) : Bool × Transport :=
  match channel? frame.kind with
  | some channel => transport.sendOn channel frame
  | none => (false, transport)

def send (message : TelemetryMessage) (transport : Transport) :
    Except EncodeError (Bool × Transport) := do
  let frame ← Frame.ofMessage message
  pure (transport.sendFrame frame)

def run (job : Job) (transport : Transport) : Transport :=
  match job with
  | .reconnect .span => { transport with span := transport.span.wake }
  | .reconnect .stat => { transport with stat := transport.stat.wake }
  | .reconnect .metadata => transport
  | .retry request => { transport with metadata := transport.metadata.retry request }
  | .unrelated => transport

/-- Runs the tasks that have come due, each unless it was cancelled in the meantime. -/
def runDue : List (Entry Job) → Transport → Transport
  | [], transport => transport
  | entry :: entries, transport =>
      let (won, timer) := transport.timer.expire entry.id
      let transport := { transport with timer }
      runDue entries (if won then transport.run entry.task else transport)

/-- Advances the timer by one tick and runs what comes due. -/
def advance (transport : Transport) : Transport :=
  let (due, timer) := transport.timer.collectDue
  runDue due { transport with timer }

def counters (transport : Transport) : Channel → Counters
  | .span => transport.span.counters
  | .stat => transport.stat.counters
  | .metadata => transport.metadata.counters

/-- The state of a streaming channel; the metadata channel has none. -/
def state? (transport : Transport) : Channel → Option ChannelState
  | .span => some transport.span.state
  | .stat => some transport.stat.state
  | .metadata => none

def isFinished (transport : Transport) : Channel → Bool
  | .span => transport.span.phase = .finished
  | .stat => transport.stat.phase = .finished
  | .metadata => transport.metadata.phase = .finished

def shutdown (channel : Channel) (transport : Transport) : Transport :=
  match channel with
  | .span => { transport with span := transport.span.shutdown }
  | .stat => { transport with stat := transport.stat.shutdown }
  | .metadata => { transport with metadata := transport.metadata.close }

/-- The first part of closing: every channel is asked to end, then the timer is stopped. The
channels end by themselves after that, and the call waits for them. A second call changes nothing
and waits for nothing. -/
def close (transport : Transport) : Transport :=
  if transport.closed then transport
  else
    let transport := ((transport.shutdown .span).shutdown .stat).shutdown .metadata
    { transport with timer := transport.timer.stop.2, closed := true }

end Transport

end Telemetry.Delivery
