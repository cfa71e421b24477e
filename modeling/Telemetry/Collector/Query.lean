import Telemetry.Collector.Service

namespace Telemetry.Collector

open Wire Trace Message RowKey

/-! Queries over the indexes. Entries of the trace index are spread over all buckets, so a query
scans every bucket and merges what it finds by the keys without their buckets, which puts the
newest traces first. Agents are not spread and are found by one scan. -/

structure TraceHit where
  transactionId : TransactionId
  acceptedTime : Int64
  elapsed : Int32
deriving DecidableEq, Repr

/-- Which elapsed times a query asks for: those between two bounds, which may come in either
order. -/
structure ElapsedRange where
  oneEnd : Int32
  otherEnd : Int32
deriving DecidableEq, Repr

namespace ElapsedRange

def contains (range : ElapsedRange) (elapsed : Int32) : Bool :=
  min range.oneEnd.toInt range.otherEnd.toInt ≤ elapsed.toInt &&
    elapsed.toInt ≤ max range.oneEnd.toInt range.otherEnd.toInt

def meets (range : ElapsedRange) (slot : UInt8) : Bool :=
  let (first, last) := elapsedSlots range.oneEnd.toInt range.otherEnd.toInt
  first ≤ slot && slot ≤ last

end ElapsedRange

/-- The traces in one row of the index, each with its key without the bucket. -/
def rowHits (range : ElapsedRange) (key : Bytes) (entries : List TraceIndexEntry) :
    Except RowKeyError (List (Bytes × TraceHit)) := do
  let row ← TraceIndexKeys.decode key
  if range.meets row.elapsedSlot then
    pure ((entries.filter fun entry => range.contains entry.elapsed).map fun entry =>
      (undistributed key, ⟨entry.transactionId, row.acceptedTime, entry.elapsed⟩))
  else pure []

namespace Service

/-- The index rows under each of some beginnings, unless the index is out of service. -/
def scanIndex (service : Service) (beginnings : List Bytes) :
    Except CollectorError (List (Bytes × List TraceIndexEntry)) :=
  if .scan ∈ service.outages then .error (.unavailable .scan)
  else .ok (beginnings.flatMap service.store.traceIndex.scan)

/-- The newest traces of an application within a range of elapsed times, at most `limit`. -/
def recentTraces (service : Service) (applicationName : String) (range : ElapsedRange)
    (limit : Nat) : Except CollectorError (List TraceHit) := do
  let beginnings ← keyed (service.receiver.traceIndexKeys.scanPrefixes applicationName)
  let rows ← service.scanIndex beginnings
  let hits ← keyed (rows.mapM fun row => rowHits range row.1 row.2)
  let newestFirst := hits.flatten.mergeSort fun left right => left.1 ≤ right.1
  pure ((newestFirst.take limit).map Prod.snd)

def scanAgents (service : Service) (beginning : Except RowKeyError Bytes) :
    Except CollectorError (List AgentInfo) := do
  let beginning ← keyed beginning
  if .scan ∈ service.outages then throw (.unavailable .scan)
  pure ((service.store.agents.scan beginning).map Prod.snd)

/-- Every start of every agent of an application. -/
def applicationAgents (service : Service) (applicationName : String) :
    Except CollectorError (List AgentInfo) :=
  service.scanAgents (AgentKey.applicationPart service.receiver.serviceUid applicationName)

def serviceTypeAgents (service : Service) (applicationName : String) (serviceTypeCode : Int16) :
    Except CollectorError (List AgentInfo) :=
  service.scanAgents (AgentKey.serviceTypePart service.receiver.serviceUid applicationName
    serviceTypeCode.toInt32)

/-- When an agent was started, the last start first. -/
def agentStarts (service : Service) (applicationName : String) (serviceTypeCode : Int16)
    (agentId : String) : Except CollectorError (List Int64) := do
  let infos ← service.scanAgents (AgentKey.agentPart service.receiver.serviceUid applicationName
    serviceTypeCode.toInt32 agentId)
  pure (infos.map AgentInfo.agentStartTime)

end Service

end Telemetry.Collector
