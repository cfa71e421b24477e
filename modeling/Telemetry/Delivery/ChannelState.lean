namespace Telemetry.Delivery

/-! The life of a streaming channel, as its observers see it. A closed channel stays closed. -/

inductive ChannelState where
  | disconnected
  | connecting
  | streaming
  | reconnectScheduled
  | closed
deriving DecidableEq, Repr

namespace ChannelState

def name : ChannelState → String
  | .disconnected => "disconnected"
  | .connecting => "connecting"
  | .streaming => "streaming"
  | .reconnectScheduled => "reconnect_scheduled"
  | .closed => "closed"

def all : List ChannelState :=
  [.disconnected, .connecting, .streaming, .reconnectScheduled, .closed]

def moveTo (current next : ChannelState) : ChannelState :=
  if current = .closed then .closed else next

end ChannelState

end Telemetry.Delivery
