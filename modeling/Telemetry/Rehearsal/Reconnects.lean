import Telemetry.Delivery.Transport

namespace Telemetry.Rehearsal

open Delivery

/-! A reconnector alone on a virtual clock. -/

structure ReconnectStage where
  now : Nanos
  nextTick : Nanos
  timer : Timer Job
  reconnector : Reconnector

namespace ReconnectStage

def start (timer : Timer Job) (reconnector : Reconnector) : ReconnectStage :=
  ⟨0, timer.tick, timer, reconnector⟩

def runDue : List (Entry Job) → ReconnectStage → ReconnectStage
  | [], stage => stage
  | entry :: entries, stage =>
      let (won, timer) := stage.timer.expire entry.id
      let stage := { stage with timer }
      if won && entry.task ≠ .unrelated then
        runDue entries { stage with reconnector := stage.reconnector.fire }
      else runDue entries stage

def advance (stage : ReconnectStage) : ReconnectStage :=
  let (due, timer) := stage.timer.collectDue
  runDue due
    { stage with
      timer
      now := max stage.now stage.nextTick
      nextTick := stage.nextTick + timer.tick }

/-- Advances the timer at every tick before `stop`, but no further than to a tick after which
`done` holds. -/
def ticksUntil (done : ReconnectStage → Bool) (stop : Nanos) :
    (count : Nat) → ReconnectStage → ReconnectStage
  | 0, stage => stage
  | count + 1, stage =>
      if done stage || stage.timer.stopped || stop ≤ stage.nextTick then stage
      else ticksUntil done stop count stage.advance

def sleep (millis : Nat) (stage : ReconnectStage) : ReconnectStage :=
  let stop := stage.now + ofMillis millis
  { stage.ticksUntil (fun _ => false) stop (millis + 1) with now := stop }

def schedule (stage : ReconnectStage) : Except TimerError Unit × ReconnectStage :=
  let (outcome, reconnector, timer) :=
    stage.reconnector.schedule stage.now (Job.reconnect .span) stage.timer
  (outcome, { stage with reconnector, timer })

/-- Waits for the next attempt to come due, for at most a number of milliseconds, and tells
whether it did. A fallback delay is used up even where the wait is cut off. -/
def wait (millis : Nat) (stage : ReconnectStage) : Bool × ReconnectStage :=
  let stop := stage.now + ofMillis millis
  match stage.reconnector.fallback with
  | some delay =>
      let stage := { stage with reconnector := { stage.reconnector with fallback := none } }
      let wakeAt := min (stage.now + delay) stop
      (stage.now + delay ≤ stop,
        { stage.ticksUntil (fun _ => false) wakeAt (millis + 1) with now := wakeAt })
  | none =>
      let stage := { stage with reconnector := stage.reconnector.listen }
      let stage :=
        stage.ticksUntil (fun stage => stage.reconnector.resume?.isSome) stop (millis + 1)
      match stage.reconnector.resume? with
      | some reconnector => (true, { stage with reconnector })
      | none => (false, { stage with now := stop, reconnector := stage.reconnector.abandon })

def reset (stage : ReconnectStage) : ReconnectStage :=
  { stage with reconnector := stage.reconnector.reset }

def close (stage : ReconnectStage) : ReconnectStage :=
  let (reconnector, timer) := stage.reconnector.close stage.timer
  { stage with reconnector, timer }

/-- Puts a timeout on the timer that belongs to nobody. -/
def occupy (delay : Nanos) (stage : ReconnectStage) : Except TimerError Unit × ReconnectStage :=
  match stage.timer.schedule delay Job.unrelated with
  | .ok (_, timer) => (.ok (), { stage with timer })
  | .error error => (.error error, stage)

def stop (stage : ReconnectStage) : Nat × ReconnectStage :=
  let (count, timer) := stage.timer.stop
  (count, { stage with timer })

end ReconnectStage

end Telemetry.Rehearsal
