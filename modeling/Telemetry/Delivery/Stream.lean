import Telemetry.Delivery.ChannelState
import Telemetry.Delivery.Frame
import Telemetry.Delivery.Reconnector

namespace Telemetry.Delivery

/-! Streaming channels. Frames are queued without waiting and written in order by a dispatcher that
owns the connection. A frame whose write failed is held and written first on the next connection;
what has not been written when the channel closes is counted as dropped. A channel reacts to one
event at a time: `Stream.step?` tells what an event does and where it can happen. -/

/-- What happened to the frames of a channel. -/
structure Counters where
  flushed : Nat
  reconnects : Nat
  dropped : Nat
deriving DecidableEq, Repr

inductive Phase where
  /-- About to open a connection. -/
  | ready
  | connecting
  /-- Connected, and waiting for a frame, for the peer or for shutdown. -/
  | idle
  | writing (frame : Frame)
  /-- Closing the connection from this end. -/
  | completing
  /-- Waiting for a task of the timer. -/
  | waiting
  /-- Waiting without the timer. -/
  | sleeping (wakeAt : Nanos)
  | finished
deriving DecidableEq, Repr

structure Stream where
  channel : Channel
  capacity : Nat
  queue : List Frame
  /-- A frame that was not delivered on the last connection. -/
  held : Option Frame
  phase : Phase
  state : ChannelState
  cancelled : Bool
  reconnector : Reconnector
  flushed : Nat
  dropped : Nat
deriving DecidableEq

inductive StreamEvent where
  | begin
  | connected
  | refused
  | take
  | written
  | writeFailed
  | peerClosed
  /-- It goes on after a task of the timer woke it. -/
  | notified
  | slept
  | noticeShutdown
  /-- Closing the connection from this end is over, whether in good order, with an error or
  because it took too long. -/
  | completed
deriving DecidableEq, Repr

/-- How many failures in a row make a channel count as failing. -/
def failureLimit : Nat := 3

/-- How long a channel may fail before it counts as failing. -/
def failureWindow : Nanos := ofMillis 60000

def completionTimeout : Nanos := ofMillis 1000

namespace Stream

variable {τ : Type}

def start (channel : Channel) (capacity : Nat) (backoff : Backoff) : Stream where
  channel := channel
  capacity := max capacity 1
  queue := []
  held := none
  phase := .ready
  state := .disconnected
  cancelled := false
  reconnector := .start backoff (.start failureLimit failureWindow)
  flushed := 0
  dropped := 0

def counters (stream : Stream) : Counters :=
  ⟨stream.flushed, stream.reconnector.reconnects, stream.dropped⟩

/-- Queues a frame. A closed channel and a full queue refuse it, and it counts as dropped. -/
def send (frame : Frame) (stream : Stream) : Bool × Stream :=
  if stream.cancelled || stream.phase = .finished || stream.capacity ≤ stream.queue.length then
    (false, { stream with dropped := stream.dropped + 1 })
  else (true, { stream with queue := stream.queue ++ [frame] })

def shutdown (stream : Stream) : Stream := { stream with cancelled := true }

/-- Ends the dispatcher: nothing is left to wake it up, and everything undelivered is dropped. -/
def finish (stream : Stream) (timer : Timer τ) : Stream × Timer τ :=
  let (reconnector, timer) := stream.reconnector.close timer
  ({ stream with
      queue := []
      held := none
      phase := .finished
      state := .closed
      reconnector := reconnector
      dropped := stream.dropped + stream.held.toList.length + stream.queue.length }, timer)

/-- Goes over to waiting for the next attempt. A stopped timer ends the channel. -/
def scheduleReconnect (now : Nanos) (task : τ) (stream : Stream) (timer : Timer τ) :
    Stream × Timer τ :=
  let stream := { stream with state := stream.state.moveTo .reconnectScheduled }
  match stream.reconnector.schedule now task timer with
  | (.error _, reconnector, timer) =>
      finish { stream with reconnector, cancelled := true } timer
  | (.ok _, reconnector, timer) =>
      match reconnector.fallback with
      | some delay =>
          ({ stream with
              reconnector := { reconnector with fallback := none }
              phase := .sleeping (now + delay) }, timer)
      | none => ({ stream with reconnector := reconnector.listen, phase := .waiting }, timer)

def next? (stream : Stream) : Option (Frame × Stream) :=
  match stream.held, stream.queue with
  | some frame, _ => some (frame, { stream with held := none })
  | none, frame :: queue => some (frame, { stream with queue })
  | none, [] => none

/-- What an event does to a channel, `none` where it cannot happen. Shutdown comes before
everything else, and the end of a connection is noticed between writes only. The task is what the
timer is to run when the next attempt is due. -/
def step? (now : Nanos) (task : τ) (event : StreamEvent) (stream : Stream) (timer : Timer τ) :
    Option (Stream × Timer τ) :=
  match event, stream.phase with
  | .begin, .ready =>
      let stream := { stream with state := stream.state.moveTo .connecting }
      if stream.cancelled then some (stream.finish timer)
      else some ({ stream with phase := .connecting }, timer)
  | .connected, .connecting =>
      if stream.cancelled then none
      else some ({ stream with
        reconnector := stream.reconnector.reset
        state := stream.state.moveTo .streaming
        phase := .idle }, timer)
  | .refused, .connecting =>
      if stream.cancelled then none else some (stream.scheduleReconnect now task timer)
  | .take, .idle =>
      if stream.cancelled then none
      else stream.next?.map fun (frame, stream) => ({ stream with phase := .writing frame }, timer)
  | .written, .writing _ =>
      if stream.cancelled then none
      else some ({ stream with phase := .idle, flushed := stream.flushed + 1 }, timer)
  | .writeFailed, .writing frame =>
      if stream.cancelled then none
      else some (scheduleReconnect now task { stream with held := some frame } timer)
  | .peerClosed, .idle =>
      if stream.cancelled || stream.held.isSome then none
      else some (stream.scheduleReconnect now task timer)
  | .notified, .waiting =>
      if stream.cancelled then none
      else stream.reconnector.resume?.map fun reconnector =>
        ({ stream with reconnector, phase := .ready }, timer)
  | .slept, .sleeping wakeAt =>
      if stream.cancelled || now < wakeAt then none
      else some ({ stream with phase := .ready }, timer)
  | .noticeShutdown, .connecting =>
      if stream.cancelled then some (stream.finish timer) else none
  | .noticeShutdown, .idle =>
      if stream.cancelled then some ({ stream with phase := .completing }, timer) else none
  | .noticeShutdown, .writing frame =>
      if stream.cancelled then
        some ({ stream with held := some frame, phase := .completing }, timer)
      else none
  | .noticeShutdown, .waiting =>
      if stream.cancelled then some (stream.finish timer) else none
  | .noticeShutdown, .sleeping _ =>
      if stream.cancelled then some (stream.finish timer) else none
  | .completed, .completing => some (stream.finish timer)
  | _, _ => none

/-- The timer's task ran: the channel may connect again. -/
def wake (stream : Stream) : Stream := { stream with reconnector := stream.reconnector.fire }

end Stream

end Telemetry.Delivery
