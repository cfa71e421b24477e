import Telemetry.Delivery.Failures
import Telemetry.Delivery.Timer

namespace Telemetry.Delivery

/-! Reconnect attempts of one channel. An attempt waits on the shared timer; its task wakes the
channel that waits for it, or else leaves a permit that the next wait takes. Where the timer has no
room the attempt falls back on a plain sleep of the same delay. -/

/-- How the channel stands to the tasks of the timer. -/
inductive Listener where
  /-- It does not wait for them. -/
  | away
  | waiting
  /-- One of them ended its wait, which it has not noticed yet. -/
  | woken
deriving DecidableEq, Repr

structure Reconnector where
  backoff : Backoff
  failures : Failures
  shutdown : Bool
  listener : Listener
  /-- Left by a task of the timer that found nobody waiting. Permits do not add up. -/
  permit : Bool
  /-- The timeout scheduled last. -/
  scheduled : Option Nat
  /-- The delay of an attempt that the timer had no room for. -/
  fallback : Option Nanos
  reconnects : Nat
deriving DecidableEq

namespace Reconnector

variable {τ : Type}

def start (backoff : Backoff) (failures : Failures) : Reconnector where
  backoff := backoff
  failures := failures
  shutdown := false
  listener := .away
  permit := false
  scheduled := none
  fallback := none
  reconnects := 0

/-- Counts a failure and schedules the next attempt; `task` is what the timer is to run. Only a
stopped timer is an error, and then no reconnect is counted. -/
def schedule (now : Nanos) (task : τ) (reconnector : Reconnector) (timer : Timer τ) :
    Except TimerError Unit × Reconnector × Timer τ :=
  let failures := reconnector.failures.recordFailure now
  let failed := { reconnector with failures }
  let delay := reconnector.backoff.delay (failures.consecutive - 1)
  match timer.schedule delay task with
  | .ok (id, timer) =>
      (.ok (), { failed with scheduled := some id, reconnects := failed.reconnects + 1 }, timer)
  | .error .stopped => (.error .stopped, failed, timer)
  | .error (.tooManyPending _ _) =>
      (.ok (), { failed with fallback := some delay, reconnects := failed.reconnects + 1 }, timer)

/-- What the task on the timer does. -/
def fire (reconnector : Reconnector) : Reconnector :=
  if reconnector.shutdown then reconnector
  else
    match reconnector.listener with
    | .waiting => { reconnector with listener := .woken }
    | .away => { reconnector with permit := true }
    | .woken => { reconnector with permit := true }

/-- Starts to wait for a task of the timer. A permit that was left ends the wait at once. -/
def listen (reconnector : Reconnector) : Reconnector :=
  if reconnector.permit then { reconnector with listener := .woken, permit := false }
  else { reconnector with listener := .waiting }

/-- Ends the wait if a task of the timer has come. -/
def resume? (reconnector : Reconnector) : Option Reconnector :=
  if reconnector.listener = .woken then some { reconnector with listener := .away } else none

/-- Gives the wait up. A wake-up that was not noticed stays as a permit. -/
def abandon (reconnector : Reconnector) : Reconnector :=
  { reconnector with
    listener := .away
    permit := reconnector.permit || reconnector.listener = .woken }

/-- After a successful connection the delays start over. -/
def reset (reconnector : Reconnector) : Reconnector :=
  { reconnector with
    failures := reconnector.failures.recordSuccess
    scheduled := none
    fallback := none }

def isFailing (now : Nanos) (reconnector : Reconnector) : Bool :=
  reconnector.failures.isFailing now

/-- Cancels the pending attempt; one that is already firing does nothing any more. -/
def close (reconnector : Reconnector) (timer : Timer τ) : Reconnector × Timer τ :=
  let closed :=
    { reconnector.abandon with shutdown := true, fallback := none, scheduled := none }
  match reconnector.scheduled with
  | some id => (closed, (timer.cancel id).2)
  | none => (closed, timer)

end Reconnector

end Telemetry.Delivery
