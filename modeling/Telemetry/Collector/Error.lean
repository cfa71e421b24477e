import Telemetry.Message.Kind
import Telemetry.RowKey.Error

namespace Telemetry.Collector

open Wire Message RowKey

/-! Why the collector refuses a frame or cannot answer a query. -/

/-- The parts of the store that can fail on their own. -/
inductive StoreCall where
  | trace
  | traceIndex
  | agentStat
  | metadata
  | scan
deriving DecidableEq, Repr

namespace StoreCall

def name : StoreCall → String
  | .trace => "trace"
  | .traceIndex => "trace_index"
  | .agentStat => "agent_stat"
  | .metadata => "metadata"
  | .scan => "scan"

def all : List StoreCall := [.trace, .traceIndex, .agentStat, .metadata, .scan]

end StoreCall

inductive CollectorError where
  | decode (cause : DecodeError)
  | rowKey (cause : RowKeyError)
  | unavailable (call : StoreCall)
  /-- The frame belongs on another connection. -/
  | unexpectedKind (kind : MessageKind)
deriving DecidableEq, Repr

namespace CollectorError

def message : CollectorError → String
  | .decode cause => cause.message
  | .rowKey cause => cause.message
  | .unavailable call => s!"store write failed: {call.name} unavailable"
  | .unexpectedKind kind => s!"{kind.name} frames are not accepted on this connection"

/-- Whether the frame itself was bad, rather than the attempt to store it. -/
def isDecodeError : CollectorError → Bool
  | .decode _ => true
  | .unexpectedKind _ => true
  | .rowKey _ => false
  | .unavailable _ => false

end CollectorError

def decoded {α : Type} : Except DecodeError α → Except CollectorError α
  | .ok value => .ok value
  | .error cause => .error (.decode cause)

def keyed {α : Type} : Except RowKeyError α → Except CollectorError α
  | .ok value => .ok value
  | .error cause => .error (.rowKey cause)

end Telemetry.Collector
