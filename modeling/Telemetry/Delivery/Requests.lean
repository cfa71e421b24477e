import Telemetry.Delivery.Stream

namespace Telemetry.Delivery

/-! Metadata requests. Each request is sent under its own id and answered before the next one is
sent. A request that is rejected or lost waits on the shared timer and then joins the queue again,
under the same id; after its last retry it is dropped. -/

structure Request where
  id : UInt64
  frame : Frame
  /-- How often it has been sent before. -/
  attempt : Nat
deriving DecidableEq, Repr

inductive RequestPhase where
  | idle
  | requesting (request : Request)
  | finished
deriving DecidableEq, Repr

structure RequestChannel where
  capacity : Nat
  queue : List Request
  phase : RequestPhase
  shutdown : Bool
  nextId : UInt64
  retryDelay : Nanos
  maxRetries : Nat
  flushed : Nat
  dropped : Nat
deriving DecidableEq

inductive RequestEvent where
  | take
  | acknowledged
  /-- The collector rejected the request, or no answer to it came. -/
  | failed
  | noticeShutdown
deriving DecidableEq, Repr

namespace RequestChannel

variable {τ : Type}

def start (capacity : Nat) (retryDelay : Nanos) (maxRetries : Nat) : RequestChannel where
  capacity := max capacity 1
  queue := []
  phase := .idle
  shutdown := false
  nextId := 1
  retryDelay := retryDelay
  maxRetries := maxRetries
  flushed := 0
  dropped := 0

def counters (channel : RequestChannel) : Counters := ⟨channel.flushed, 0, channel.dropped⟩

def drop (channel : RequestChannel) : RequestChannel :=
  { channel with dropped := channel.dropped + 1 }

/-- Puts a request at the end of the queue; false when there is no room or no queue any more. -/
def enqueue (request : Request) (channel : RequestChannel) : Bool × RequestChannel :=
  if channel.phase = .finished || channel.capacity ≤ channel.queue.length then
    (false, channel.drop)
  else (true, { channel with queue := channel.queue ++ [request] })

/-- Sends a frame as a new request. A refused frame uses up an id, too. -/
def send (frame : Frame) (channel : RequestChannel) : Bool × RequestChannel :=
  let request : Request := ⟨channel.nextId, frame, 0⟩
  let channel := { channel with nextId := channel.nextId + 1 }
  if channel.shutdown then (false, channel.drop) else channel.enqueue request

/-- Accepts no more frames and asks the worker to end. -/
def close (channel : RequestChannel) : RequestChannel := { channel with shutdown := true }

def finish (channel : RequestChannel) : RequestChannel :=
  { channel with
    queue := []
    phase := .finished
    dropped := channel.dropped + channel.queue.length }

/-- Has a failed request wait for its next attempt, or gives it up. `task` is what the timer is to
run for a request. -/
def retryLater (task : Request → τ) (request : Request) (channel : RequestChannel)
    (timer : Timer τ) : RequestChannel × Timer τ :=
  let retry := { request with attempt := request.attempt + 1 }
  if channel.shutdown || channel.maxRetries < retry.attempt then (channel.drop, timer)
  else
    match timer.schedule channel.retryDelay (task retry) with
    | .ok (_, timer) => (channel, timer)
    | .error _ => (channel.drop, timer)

/-- The timer's task ran: the request joins the queue again, or is dropped. -/
def retry (request : Request) (channel : RequestChannel) : RequestChannel :=
  if channel.shutdown then channel.drop else (channel.enqueue request).2

/-- What an event does to the channel, `none` where it cannot happen. Shutdown comes before
everything else. -/
def step? (task : Request → τ) (event : RequestEvent) (channel : RequestChannel)
    (timer : Timer τ) : Option (RequestChannel × Timer τ) :=
  match event, channel.phase with
  | .take, .idle =>
      if channel.shutdown then none
      else
        match channel.queue with
        | request :: queue => some ({ channel with queue, phase := .requesting request }, timer)
        | [] => none
  | .acknowledged, .requesting _ =>
      if channel.shutdown then none
      else some ({ channel with phase := .idle, flushed := channel.flushed + 1 }, timer)
  | .failed, .requesting request =>
      if channel.shutdown then none
      else some (retryLater task request { channel with phase := .idle } timer)
  | .noticeShutdown, .idle =>
      if channel.shutdown then some (channel.finish, timer) else none
  | .noticeShutdown, .requesting _ =>
      if channel.shutdown then some (channel.drop.finish, timer) else none
  | _, _ => none

end RequestChannel

end Telemetry.Delivery
