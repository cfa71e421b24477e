import Telemetry.Collector.Error
import Telemetry.Collector.Table
import Telemetry.Message.Envelope

namespace Telemetry.Collector

open Wire Trace Stat Message

/-! The store of a collector, and the writes that change it. A write names its row; what goes into
which row is decided before anything is written. -/

structure TraceIndexEntry where
  transactionId : TransactionId
  elapsed : Int32
deriving DecidableEq, Repr

inductive Write where
  | trace (key : Bytes) (record : Record)
  | traceIndex (key : Bytes) (entry : TraceIndexEntry)
  | agentStat (key : Bytes) (batch : StatBatch)
  | agent (key : Bytes) (info : AgentInfo)
  | apiMetadata (metadata : ApiMetadata)
  | sqlMetadata (metadata : SqlMetadata)
  | stringMetadata (metadata : StringMetadata)
deriving DecidableEq

namespace Write

def call : Write → StoreCall
  | .trace _ _ => .trace
  | .traceIndex _ _ => .traceIndex
  | .agentStat _ _ => .agentStat
  | .agent _ _ => .metadata
  | .apiMetadata _ => .metadata
  | .sqlMetadata _ => .metadata
  | .stringMetadata _ => .metadata

end Write

structure Store where
  traces : Table (List Record)
  traceIndex : Table (List TraceIndexEntry)
  agentStats : Table (List StatBatch)
  /-- One row for each start of an agent; the last registration of a start counts. -/
  agents : Table AgentInfo
  apiMetadata : List ApiMetadata
  sqlMetadata : List SqlMetadata
  stringMetadata : List StringMetadata

namespace Store

def empty : Store := ⟨.empty, .empty, .empty, .empty, [], [], []⟩

def apply (write : Write) (store : Store) : Store :=
  match write with
  | .trace key record => { store with traces := store.traces.append key record }
  | .traceIndex key entry => { store with traceIndex := store.traceIndex.append key entry }
  | .agentStat key batch => { store with agentStats := store.agentStats.append key batch }
  | .agent key info => { store with agents := store.agents.insert key info }
  | .apiMetadata metadata => { store with apiMetadata := store.apiMetadata ++ [metadata] }
  | .sqlMetadata metadata => { store with sqlMetadata := store.sqlMetadata ++ [metadata] }
  | .stringMetadata metadata =>
      { store with stringMetadata := store.stringMetadata ++ [metadata] }

/-- Executes writes one after the other, up to the first one that falls to a part of the store that
is out of service. What was written before that one stays. -/
def perform (outages : List StoreCall) :
    List Write → Store → Except CollectorError Unit × Store
  | [], store => (.ok (), store)
  | write :: writes, store =>
      if write.call ∈ outages then (.error (.unavailable write.call), store)
      else perform outages writes (store.apply write)

end Store

end Telemetry.Collector
