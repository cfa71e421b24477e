import Telemetry.Rehearsal.Script

namespace Telemetry.Rehearsal

open Wire Delivery

/-! The metadata channel with a scripted collector at the other end. -/

structure RequestPeer where
  answers : List Answer
  clientClosed : Bool
  log : Log
deriving DecidableEq, Repr

structure RequestPlay where
  channel : RequestChannel
  timer : Timer Job
  peer : RequestPeer

namespace RequestPeer

def start (answers : List Answer) : RequestPeer := ⟨answers, false, []⟩

def note (now : Nanos) (event : PeerEvent) (peer : RequestPeer) : RequestPeer :=
  { peer with log := (now, event) :: peer.log }

/-- The connection is released, the first time it is asked for. -/
def closeClient (now : Nanos) (peer : RequestPeer) : RequestPeer :=
  if peer.clientClosed then peer else { peer.note now .clientClosed with clientClosed := true }

end RequestPeer

namespace RequestPlay

/-- Applies an event where it can happen. -/
def apply (event : RequestEvent) (play : RequestPlay) : RequestPlay :=
  match play.channel.step? Job.retry event play.timer with
  | some (channel, timer) => { play with channel, timer }
  | none => play

/-- Sends requests until the channel has to wait, at most `budget` of them. -/
def runWithin (now : Nanos) : (budget : Nat) → RequestPlay → RequestPlay
  | 0, play => play
  | budget + 1, play =>
      if play.channel.shutdown then play.apply .noticeShutdown
      else
        match play.channel.phase, play.channel.queue with
        | .idle, request :: _ =>
            let (answer, answers) := nextOf .ok play.peer.answers
            let peer := { play.peer with answers }.note now
              (.request request.id request.frame.encode answer)
            let play := RequestPlay.apply .take { play with peer }
            match answer with
            | .ok => runWithin now budget (play.apply .acknowledged)
            | .reject => runWithin now budget (play.apply .failed)
            | .error => runWithin now budget (play.apply .failed)
            | .stall => play
        | _, _ => play

def run (now : Nanos) (play : RequestPlay) : RequestPlay :=
  play.runWithin now (play.channel.queue.length + 1)

end RequestPlay

end Telemetry.Rehearsal
