import Telemetry.Delivery.Transport

namespace Telemetry.Rehearsal

open Wire Delivery

/-! Scripts for the peers of a rehearsal. A rehearsal runs delivery on a virtual clock against peers
that do as they are told and write down what they were asked for. -/

inductive Reaction where
  | ok
  | fail
  | never
deriving DecidableEq, Repr

structure ConnectionScript where
  connect : Reaction
  /-- The reactions to the writes, in order; later writes succeed. -/
  writes : List Reaction
  /-- How long after the connection the peer closes it. -/
  closeAfter : Option Nanos
  complete : Reaction
deriving DecidableEq, Repr

def ConnectionScript.smooth : ConnectionScript := ⟨.ok, [], none, .ok⟩

inductive Answer where
  | ok
  | reject
  | error
  | stall
deriving DecidableEq, Repr

inductive PeerEvent where
  | connect (reaction : Reaction)
  | write (reaction : Reaction) (frame : Bytes)
  | complete (reaction : Reaction)
  | request (id : UInt64) (frame : Bytes) (answer : Answer)
  | clientClosed
deriving DecidableEq, Repr

/-- The events of a peer, the last one first, each with its time. -/
abbrev Log := List (Nanos × PeerEvent)

/-- The first of the scripted items, and the script from then on. The last item stays. -/
def nextOf {α : Type} (otherwise : α) : List α → α × List α
  | [] => (otherwise, [])
  | [last] => (last, [last])
  | item :: items => (item, items)

end Telemetry.Rehearsal
