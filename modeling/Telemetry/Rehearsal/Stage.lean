import Telemetry.Rehearsal.RequestPeer
import Telemetry.Rehearsal.StreamPeer

namespace Telemetry.Rehearsal

open Wire Delivery

/-! A whole transport on a virtual clock. The tasks of the transport run one at a time, in the
order in which they were woken up, and only while the rehearsal waits; when all of them have to
wait, the clock jumps to the next time one of them asked for. -/

inductive Actor where
  | clockwork
  | channel (channel : Channel)
deriving DecidableEq, Repr

structure Stage where
  now : Nanos
  transport : Transport
  spanPeer : StreamPeer
  statPeer : StreamPeer
  metadataPeer : RequestPeer
  /-- The tasks that take part. -/
  cast : List Actor
  awake : List Actor
  /-- The times that tasks wait for, in the order in which they began to wait. -/
  alarms : List (Nanos × Actor)
  /-- The channels that found their queue empty and that the next frame wakes up. -/
  listening : List Channel

namespace Stage

def start (cast : List Actor) (transport : Transport) (span stat : List ConnectionScript)
    (metadata : List Answer) : Stage where
  now := 0
  transport := transport
  spanPeer := .start span
  statPeer := .start stat
  metadataPeer := .start metadata
  cast := cast
  awake := cast
  alarms := []
  listening := []

/-- Puts a task at the end of those that can run, unless it is one of them already. -/
def wake (actor : Actor) (stage : Stage) : Stage :=
  if stage.cast.contains actor && !stage.awake.contains actor then
    { stage with awake := stage.awake ++ [actor] }
  else stage

/-- A channel that found its queue empty is to be woken up by the next frame. -/
def setListening (channel : Channel) (empty : Bool) (stage : Stage) : Stage :=
  if empty && !stage.listening.contains channel then
    { stage with listening := channel :: stage.listening }
  else stage

/-- A frame was queued. Its channel is woken up if it listens, and then does not any more. It goes
on listening while it is busy with its connection. -/
def wakeByFrame (channel : Channel) (stage : Stage) : Stage :=
  if stage.listening.contains channel then
    wake (.channel channel)
      { stage with listening := stage.listening.filter fun other => other ≠ channel }
  else stage

/-- Sets the time that a task waits for, behind those that wait already. -/
def setAlarm (actor : Actor) (time : Option Nanos) (stage : Stage) : Stage :=
  let others := stage.alarms.filter fun alarm => alarm.2 ≠ actor
  { stage with alarms := others ++ (time.map fun time => (time, actor)).toList }

def alarmOf (actor : Actor) (stage : Stage) : Option Nanos :=
  (stage.alarms.find? fun alarm => alarm.2 = actor).map Prod.fst

/-- Sets the time that a stream waits for after it has been run. One that did nothing and goes on
waiting for the same time keeps its place. -/
def setStreamAlarm (channel : Channel) (idle : Bool) (time : Option Nanos) (stage : Stage) :
    Stage :=
  if idle && stage.alarmOf (.channel channel) = time then stage
  else stage.setAlarm (.channel channel) time

/-! ### Running tasks -/

def wakeByJob (job : Job) (stage : Stage) : Stage :=
  match job with
  | .reconnect channel => stage.wake (.channel channel)
  | .retry _ => stage.wakeByFrame .metadata
  | .unrelated => stage

/-- Runs the due tasks of the timer, each unless it was cancelled in the meantime. -/
def runDue : List (Entry Job) → Stage → Stage
  | [], stage => stage
  | entry :: entries, stage =>
      let (won, timer) := stage.transport.timer.expire entry.id
      let stage := { stage with transport := { stage.transport with timer } }
      if won then
        runDue entries
          (wakeByJob entry.task { stage with transport := stage.transport.run entry.task })
      else runDue entries stage

/-- The first run of the clockwork only sets its alarm; every later one advances the timer. -/
def runClockwork (stage : Stage) : Stage :=
  let timer := stage.transport.timer
  if timer.stopped then stage.setAlarm .clockwork none
  else
    match stage.alarmOf .clockwork with
    | none => stage.setAlarm .clockwork (some (stage.now + timer.tick))
    | some time =>
        if time ≤ stage.now then
          let (due, timer) := timer.collectDue
          let stage := runDue due { stage with transport := { stage.transport with timer } }
          stage.setAlarm .clockwork (some (time + timer.tick))
        else stage

def runSpan (stage : Stage) : Stage :=
  let play := StreamPlay.run stage.now
    ⟨stage.transport.span, stage.transport.timer, stage.spanPeer⟩
  let idle := play.peer.log.length = stage.spanPeer.log.length
  let stage := { stage with
    transport := { stage.transport with span := play.stream, timer := play.timer }
    spanPeer := play.peer }
  (stage.setStreamAlarm .span idle play.alarm).setListening .span (play.stream.phase = .idle)

def runStat (stage : Stage) : Stage :=
  let play := StreamPlay.run stage.now
    ⟨stage.transport.stat, stage.transport.timer, stage.statPeer⟩
  let idle := play.peer.log.length = stage.statPeer.log.length
  let stage := { stage with
    transport := { stage.transport with stat := play.stream, timer := play.timer }
    statPeer := play.peer }
  (stage.setStreamAlarm .stat idle play.alarm).setListening .stat (play.stream.phase = .idle)

def runMetadata (stage : Stage) : Stage :=
  let play := RequestPlay.run stage.now
    ⟨stage.transport.metadata, stage.transport.timer, stage.metadataPeer⟩
  let stage := { stage with
    transport := { stage.transport with metadata := play.channel, timer := play.timer }
    metadataPeer := play.peer }
  stage.setListening .metadata (play.channel.phase = .idle)

def runActor (actor : Actor) (stage : Stage) : Stage :=
  match actor with
  | .clockwork => stage.runClockwork
  | .channel .span => stage.runSpan
  | .channel .stat => stage.runStat
  | .channel .metadata => stage.runMetadata

def runAwake (stage : Stage) : Stage :=
  stage.awake.foldl (fun stage actor => stage.runActor actor) { stage with awake := [] }

/-- Runs tasks until all have to wait. Only the clockwork wakes other tasks up, so those it woke
up are run in a second round. -/
def settle (stage : Stage) : Stage := stage.runAwake.runAwake

def nextAlarm (stage : Stage) : Option Nanos :=
  (stage.alarms.map Prod.fst).min?

/-- Moves the clock to a time, and wakes up the tasks that waited for it. -/
def jumpTo (time : Nanos) (stage : Stage) : Stage :=
  let stage := { stage with now := max stage.now time }
  let due := (stage.alarms.filter fun alarm => alarm.1 ≤ stage.now).map Prod.snd
  due.foldl (fun stage actor => stage.wake actor) stage

/-! ### Waiting -/

/-- Lets the tasks run up to the time `stop`. Those that are due at that very time are woken up,
but do not run before the next wait. Each jump of the clock uses up one of `jumps`. -/
def waitUntilWithin (stop : Nanos) : (jumps : Nat) → Stage → Stage
  | 0, stage => stage.jumpTo stop
  | jumps + 1, stage =>
      let stage := stage.settle
      match stage.nextAlarm with
      | none => stage.jumpTo stop
      | some time =>
          if time < stop then waitUntilWithin stop jumps (stage.jumpTo time)
          else stage.jumpTo stop

/-- How often streams may connect again without letting any time pass: each such attempt follows
the next script. -/
def spareJumps (stage : Stage) : Nat :=
  stage.spanPeer.scripts.length + stage.statPeer.scripts.length

/-- Waits for a number of milliseconds. Alarms fall on whole milliseconds, so the clock makes no
more jumps than that, apart from those to the time it already shows. -/
def sleep (millis : Nat) (stage : Stage) : Stage :=
  if millis = 0 then stage
  else stage.waitUntilWithin (stage.now + ofMillis millis) (millis + 1 + stage.spareJumps)

/-- Lets the tasks run until something holds. -/
def waitForWithin (done : Stage → Bool) : (jumps : Nat) → Stage → Stage
  | 0, stage => stage
  | jumps + 1, stage =>
      if done stage then stage
      else
        let stage := stage.settle
        if done stage then stage
        else
          match stage.nextAlarm with
          | none => stage
          | some time => waitForWithin done jumps (stage.jumpTo time)

/-- Waits for the end of a channel that was asked to end, which takes no longer than closing its
connection may take. -/
def waitFor (channel : Channel) (stage : Stage) : Stage :=
  stage.waitForWithin (fun stage => stage.transport.isFinished channel)
    (toMillis completionTimeout + 2)

/-! ### What a script can do -/

/-- Puts timeouts on the timer that belong to nobody. -/
def occupy (delay : Nanos) : (count : Nat) → Stage → Stage
  | 0, stage => stage
  | count + 1, stage =>
      match stage.transport.timer.schedule delay Job.unrelated with
      | .ok (_, timer) =>
          occupy delay count { stage with transport := { stage.transport with timer } }
      | .error _ => occupy delay count stage

def stopTimer (stage : Stage) : Nat × Stage :=
  let (count, timer) := stage.transport.timer.stop
  (count, ({ stage with transport := { stage.transport with timer } }.setAlarm .clockwork none))

def sendOn (channel : Channel) (frame : Frame) (stage : Stage) : Bool × Stage :=
  let (accepted, transport) := stage.transport.sendOn channel frame
  let stage := { stage with transport }
  (accepted, if accepted then stage.wakeByFrame channel else stage)

def sendFrame (frame : Frame) (stage : Stage) : Bool × Stage :=
  match channel? frame.kind with
  | some channel => stage.sendOn channel frame
  | none => (false, stage)

def sendMessage (message : Message.TelemetryMessage) (stage : Stage) :
    Except EncodeError (Bool × Stage) := do
  let frame ← Frame.ofMessage message
  pure (stage.sendFrame frame)

def shutdown (channel : Channel) (stage : Stage) : Stage :=
  wake (.channel channel) { stage with transport := stage.transport.shutdown channel }

/-- Ends a channel and waits for its end. The metadata channel then releases its connection. -/
def closeChannel (channel : Channel) (stage : Stage) : Stage :=
  let stage := (stage.shutdown channel).waitFor channel
  if channel = .metadata then
    { stage with metadataPeer := stage.metadataPeer.closeClient stage.now }
  else stage

def log (stage : Stage) : Channel → Log
  | .span => stage.spanPeer.log
  | .stat => stage.statPeer.log
  | .metadata => stage.metadataPeer.log

/-- Closes the whole transport: the streams end first, then the metadata channel. -/
def close (stage : Stage) : Stage :=
  if stage.transport.closed then stage
  else
    let stage := setAlarm .clockwork none { stage with transport := stage.transport.close }
    let stage :=
      ((stage.wake (.channel .span)).wake (.channel .stat)).wake (.channel .metadata)
    ((stage.waitFor .span).waitFor .stat).closeChannel .metadata

end Stage

end Telemetry.Rehearsal
