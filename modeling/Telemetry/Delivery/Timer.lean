import Telemetry.Delivery.Backoff

namespace Telemetry.Delivery

/-! A timer for many coarse timeouts: a wheel of buckets that turns by one bucket per tick. A
timeout is put into the bucket of the tick it is due at and stays there through as many turns as
its delay takes. An advance first collects what is due and then runs it, one task after the other;
a timeout leaves the pending state once only, by running, by being cancelled or by the stop of the
timer. -/

inductive TimeoutStatus where
  | pending
  | cancelled
  | expired
deriving DecidableEq, Repr

inductive TimerError where
  | stopped
  | tooManyPending (pending limit : Nat)
deriving DecidableEq, Repr

namespace TimerError

def message : TimerError → String
  | .stopped => "timer is stopped"
  | .tooManyPending pending limit => s!"too many pending timeouts ({pending}), limit is {limit}"

end TimerError

structure Entry (τ : Type) where
  id : Nat
  deadline : Nat
  task : τ
deriving DecidableEq, Repr

structure Timer (τ : Type) where
  tick : Nanos
  maxPending : Nat
  ticks : Nat
  buckets : Array (List (Entry τ))
  /-- The status of every accepted timeout; a timeout's id is its place here. -/
  statuses : Array TimeoutStatus
  pending : Nat
  stopped : Bool
deriving DecidableEq, Repr

namespace Timer

variable {τ : Type}

def defaultTick : Nanos := ofMillis 100

def defaultWheelSize : Nat := 512

def defaultMaxPending : Nat := 4096

def maxTick : Nat := UInt64.size - 1

/-- A timer at rest. A tick lasts at least a millisecond and the wheel has at least one bucket. -/
def start (tick : Nanos) (wheelSize maxPending : Nat) : Timer τ where
  tick := max tick (ofMillis 1)
  maxPending := maxPending
  ticks := 0
  buckets := Array.replicate (max wheelSize 1) []
  statuses := #[]
  pending := 0
  stopped := false

/-- How many whole ticks cover a delay, at least one. -/
def ticksOf (timer : Timer τ) (delay : Nanos) : Nat :=
  min (max ((delay + timer.tick - 1) / timer.tick) 1) maxTick

def bucketOf (timer : Timer τ) (tick : Nat) : Nat := tick % timer.buckets.size

def schedule (timer : Timer τ) (delay : Nanos) (task : τ) : Except TimerError (Nat × Timer τ) :=
  if timer.stopped then .error .stopped
  else if timer.maxPending ≤ timer.pending then
    .error (.tooManyPending timer.pending timer.maxPending)
  else
    let id := timer.statuses.size
    let deadline := min (timer.ticks + timer.ticksOf delay) maxTick
    .ok (id, { timer with
      buckets := timer.buckets.modify (timer.bucketOf deadline) (· ++ [⟨id, deadline, task⟩])
      statuses := timer.statuses.push .pending
      pending := timer.pending + 1 })

/-- Whether a timeout has neither run nor been cancelled. -/
def isPending (timer : Timer τ) (id : Nat) : Bool := timer.statuses[id]? = some .pending

/-- Moves a timeout out of the pending state, and tells whether it was in it. -/
def settle (timer : Timer τ) (id : Nat) (status : TimeoutStatus) : Bool × Timer τ :=
  if timer.isPending id then
    (true, { timer with
      statuses := timer.statuses.setIfInBounds id status
      pending := timer.pending - 1 })
  else (false, timer)

/-- Cancels a timeout; false when it has run or was cancelled before. Its entry stays in its bucket
until the wheel comes by. -/
def cancel (timer : Timer τ) (id : Nat) : Bool × Timer τ := timer.settle id .cancelled

/-- Claims a timeout for being run. -/
def expire (timer : Timer τ) (id : Nat) : Bool × Timer τ := timer.settle id .expired

/-- Advances the wheel by one tick and takes the due entries out of its bucket. Entries that are no
longer pending are forgotten, the others wait for a later turn. -/
def collectDue (timer : Timer τ) : List (Entry τ) × Timer τ :=
  let now := timer.ticks + 1
  let place := timer.bucketOf now
  let live := (timer.buckets.getD place []).filter fun entry => timer.isPending entry.id
  let (due, later) := live.partition fun entry => entry.deadline ≤ now
  (due, { timer with ticks := now, buckets := timer.buckets.setIfInBounds place later })

def cancelAll (timer : Timer τ) : List (Entry τ) → Nat × Timer τ
  | [] => (0, timer)
  | entry :: entries =>
      let (won, timer) := timer.cancel entry.id
      let (count, timer) := timer.cancelAll entries
      (if won then count + 1 else count, timer)

/-- Stops the timer and cancels every timeout on the wheel; the number of those. -/
def stop (timer : Timer τ) : Nat × Timer τ :=
  if timer.stopped then (0, timer)
  else
    let entries := timer.buckets.toList.flatten
    { timer with stopped := true, buckets := timer.buckets.map fun _ => [] }.cancelAll entries

end Timer

end Telemetry.Delivery
