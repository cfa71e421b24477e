import Telemetry.Delivery.Timer

namespace Telemetry.Rehearsal

open Delivery

/-! A timer alone on a virtual clock. Its tasks write down that they ran and may then schedule a
further one. -/

/-- A task to be scheduled, with the one it schedules in turn. -/
inductive Plan where
  | last (id : String) (delay : Nanos)
  | before (id : String) (delay : Nanos) (next : Plan)
deriving DecidableEq, Repr

namespace Plan

def id : Plan → String
  | .last id _ => id
  | .before id _ _ => id

def delay : Plan → Nanos
  | .last _ delay => delay
  | .before _ delay _ => delay

def next? : Plan → Option Plan
  | .last _ _ => none
  | .before _ _ next => some next

end Plan

inductive TimerNote where
  | fired (id : String)
  | failed (error : TimerError)
deriving DecidableEq, Repr

structure TimerStage where
  now : Nanos
  nextTick : Nanos
  timer : Timer Plan
  /-- The timeouts by the names of their tasks, the last one first. -/
  timeouts : List (String × Nat)
  /-- What the tasks wrote down, the last note first. -/
  log : List (Nanos × TimerNote)

namespace TimerStage

def start (timer : Timer Plan) : TimerStage := ⟨0, timer.tick, timer, [], []⟩

def schedule (plan : Plan) (stage : TimerStage) : Except TimerError Unit × TimerStage :=
  match stage.timer.schedule plan.delay plan with
  | .ok (id, timer) =>
      (.ok (), { stage with timer, timeouts := (plan.id, id) :: stage.timeouts })
  | .error error => (.error error, stage)

def note (entry : TimerNote) (stage : TimerStage) : TimerStage :=
  { stage with log := (stage.now, entry) :: stage.log }

def run (plan : Plan) (stage : TimerStage) : TimerStage :=
  let stage := stage.note (.fired plan.id)
  match plan.next? with
  | none => stage
  | some next =>
      match stage.schedule next with
      | (.ok _, stage) => stage
      | (.error error, stage) => stage.note (.failed error)

def runDue : List (Entry Plan) → TimerStage → TimerStage
  | [], stage => stage
  | entry :: entries, stage =>
      let (won, timer) := stage.timer.expire entry.id
      let stage := { stage with timer }
      runDue entries (if won then stage.run entry.task else stage)

def advance (stage : TimerStage) : TimerStage :=
  let (due, timer) := stage.timer.collectDue
  runDue due
    { stage with
      timer
      now := max stage.now stage.nextTick
      nextTick := stage.nextTick + timer.tick }

def ticksUntil (stop : Nanos) : (count : Nat) → TimerStage → TimerStage
  | 0, stage => stage
  | count + 1, stage =>
      if stage.timer.stopped || stop ≤ stage.nextTick then stage
      else ticksUntil stop count stage.advance

/-- Waits; a tick lasts at least a millisecond, so there are no more ticks than milliseconds. -/
def sleep (millis : Nat) (stage : TimerStage) : TimerStage :=
  let stop := stage.now + ofMillis millis
  { stage.ticksUntil stop (millis + 1) with now := stop }

def status? (id : String) (stage : TimerStage) : Option TimeoutStatus :=
  (stage.timeouts.lookup id).bind fun timeout => stage.timer.statuses[timeout]?

def cancel (id : String) (stage : TimerStage) : Bool × TimerStage :=
  match stage.timeouts.lookup id with
  | some timeout =>
      let (won, timer) := stage.timer.cancel timeout
      (won, { stage with timer })
  | none => (false, stage)

def stop (stage : TimerStage) : Nat × TimerStage :=
  let (count, timer) := stage.timer.stop
  (count, { stage with timer })

end TimerStage

end Telemetry.Rehearsal
