import Telemetry.Rehearsal.Script

namespace Telemetry.Rehearsal

open Wire Delivery

/-! A streaming channel with a scripted peer at the other end. -/

structure StreamPeer where
  scripts : List ConnectionScript
  current : ConnectionScript
  closesAt : Option Nanos
  completesBy : Nanos
  log : Log
deriving DecidableEq, Repr

structure StreamPlay where
  stream : Stream
  timer : Timer Job
  peer : StreamPeer

namespace StreamPeer

def start (scripts : List ConnectionScript) : StreamPeer :=
  ⟨scripts, .smooth, none, 0, []⟩

def note (now : Nanos) (event : PeerEvent) (peer : StreamPeer) : StreamPeer :=
  { peer with log := (now, event) :: peer.log }

end StreamPeer

namespace StreamPlay

/-- Applies an event where it can happen. -/
def apply (now : Nanos) (event : StreamEvent) (play : StreamPlay) : StreamPlay :=
  match play.stream.step? now (.reconnect play.stream.channel) event play.timer with
  | some (stream, timer) => { play with stream, timer }
  | none => play

/-- Applies an event and has the peer write something down. -/
def applyNoting (now : Nanos) (event : StreamEvent) (noted : PeerEvent) (play : StreamPlay) :
    StreamPlay :=
  let play := play.apply now event
  { play with peer := play.peer.note now noted }

def resume (now : Nanos) (play : StreamPlay) : StreamPlay :=
  match play.stream.phase with
  | .waiting =>
      if play.stream.cancelled then play.apply now .noticeShutdown else play.apply now .notified
  | .sleeping _ =>
      if play.stream.cancelled then play.apply now .noticeShutdown else play.apply now .slept
  | _ => play

def connect (now : Nanos) (play : StreamPlay) : StreamPlay :=
  match play.stream.phase with
  | .ready =>
      if play.stream.cancelled then play.apply now .begin
      else
        let (current, scripts) := nextOf .smooth play.peer.scripts
        let peer := { play.peer with
          scripts, current, closesAt := current.closeAfter.map (now + ·) }
        let play := applyNoting now .begin (.connect current.connect) { play with peer }
        match current.connect with
        | .ok => play.apply now .connected
        | .fail => play.apply now .refused
        | .never => play
  | .connecting => play.apply now .noticeShutdown
  | _ => play

def beginCompletion (now : Nanos) (play : StreamPlay) : StreamPlay :=
  let play := play.applyNoting now .noticeShutdown (.complete play.peer.current.complete)
  { play with peer := { play.peer with completesBy := now + completionTimeout } }

/-- Writes frames until the channel has to wait, at most `budget` of them. -/
def pump (now : Nanos) : (budget : Nat) → StreamPlay → StreamPlay
  | 0, play => play
  | budget + 1, play =>
      match play.stream.phase with
      | .idle =>
          if play.stream.cancelled then play.beginCompletion now
          else if play.stream.held.isNone && play.peer.closesAt.any (· ≤ now) then
            play.apply now .peerClosed
          else
            match play.stream.next? with
            | none => play
            | some (frame, _) =>
                let reaction := play.peer.current.writes.headD .ok
                let current := { play.peer.current with
                  writes := play.peer.current.writes.tail }
                let play := applyNoting now .take (.write reaction frame.encode)
                  { play with peer := { play.peer with current } }
                match reaction with
                | .ok => pump now budget (play.apply now .written)
                | .fail => play.apply now .writeFailed
                | .never => play
      | .writing _ => if play.stream.cancelled then play.beginCompletion now else play
      | _ => play

/-- Closes the connection, as far as the peer lets it. -/
def complete (now : Nanos) (play : StreamPlay) : StreamPlay :=
  match play.stream.phase with
  | .completing =>
      if play.peer.current.complete = .never && now < play.peer.completesBy then play
      else play.apply now .completed
  | _ => play

/-- Runs the dispatcher until it has to wait. Each frame at hand takes one round of writing, and
one more finds that nothing is left. -/
def run (now : Nanos) (play : StreamPlay) : StreamPlay :=
  let play := (play.resume now).connect now
  (play.pump now (play.stream.queue.length + 2)).complete now

/-- When the dispatcher has to be run again, if nobody else wakes it up. -/
def alarm (play : StreamPlay) : Option Nanos :=
  match play.stream.phase with
  | .idle => play.peer.closesAt
  | .sleeping wakeAt => some wakeAt
  | .completing => some play.peer.completesBy
  | _ => none

end StreamPlay

end Telemetry.Rehearsal
