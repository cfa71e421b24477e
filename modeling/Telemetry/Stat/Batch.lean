import Telemetry.Stat.Layout

namespace Telemetry.Stat

open Wire

/-! Batches of samples of one kind from one agent. A written batch holds neither the agent id nor
the first timestamp: both are known from the row it is stored in and come back through a
`BatchContext`. -/

structure StatPoint (α : Type) where
  agentId : String
  startTimestamp : Int64
  timestamp : Int64
  value : α
deriving DecidableEq, Repr

structure StatBatch where
  kind : StatKind
  points : List (StatPoint kind.Value)

instance : DecidableEq StatBatch := fun left right =>
  match left, right with
  | ⟨kind, points⟩, ⟨otherKind, otherPoints⟩ =>
      if equal : kind = otherKind then by
        subst equal
        exact decidable_of_iff (points = otherPoints)
          ⟨fun same => by rw [same], fun same => by injection same⟩
      else isFalse fun same => equal (by injection same)

/-! ### Contexts -/

/-- What is known about a batch apart from its bytes. -/
structure BatchContext where
  agentId : String
  /-- Where the row begins. -/
  baseTimestamp : Int64
  /-- How long after the row's beginning the first sample was taken. -/
  timestampDelta : Int64
deriving DecidableEq, Repr

namespace BatchContext

/-- The context of a batch that begins at `firstTimestamp`, in rows of `timespan` millis that begin
at the multiples of it. -/
def aligned (agentId : String) (firstTimestamp timespan : Int64) :
    Except EncodeError BatchContext :=
  if timespan.toInt ≤ 0 then .error (.invalidValue (.timespanNotPositive timespan))
  else
    let delta := firstTimestamp.toInt % timespan.toInt
    .ok { agentId
          baseTimestamp := Int64.ofInt (firstTimestamp.toInt - delta)
          timestampDelta := Int64.ofInt delta }

def initialTimestamp (context : BatchContext) : Int64 :=
  context.baseTimestamp + context.timestampDelta

end BatchContext

/-! ### Writing -/

def batchVersion : UInt8 := 2

/-- The steps from each timestamp to the next, which must not go back nor leave 64 bits. -/
def timestampDeltas : List Int64 → Except EncodeError (List Int64)
  | previous :: current :: others => do
      if current < previous then throw (.nonMonotonicTimestamp previous current)
      if Int64.maxValue.toInt < current.toInt - previous.toInt then
        throw (.invalidValue (.timestampGapTooLong previous current))
      let deltas ← timestampDeltas (current :: others)
      pure ((current - previous) :: deltas)
  | _ => .ok []

namespace StatBatch

def length (batch : StatBatch) : Nat := batch.points.length

def first? (batch : StatBatch) : Option (String × Int64) :=
  batch.points.head?.map fun point => (point.agentId, point.timestamp)

/-- The bytes of a batch. Samples must be there, in order of time and from a single agent. -/
def put (batch : StatBatch) : Except EncodeError Bytes :=
  match batch.points with
  | [] => .error (.emptyBatch "stat data points")
  | first :: others => do
      let points := first :: others
      let deltas ← timestampDeltas (points.map StatPoint.timestamp)
      match points.find? fun point => point.agentId ≠ first.agentId with
      | some other => throw (.mixedAgentIds first.agentId other.agentId)
      | none =>
          let columns ← Column.putSet (batch.kind.columns (points.map StatPoint.value))
          let starts ← Strategy.put .unsigned (points.map StatPoint.startTimestamp) .runs
          pure (batchVersion :: putCount points.length ++ starts ++
            deltas.flatMap (fun delta => putVlong delta.toUInt64) ++ columns)

/-! ### Reading -/

/-- The timestamps that the given steps lead to. -/
def timestampsFrom : Int64 → List Int64 → List Int64
  | timestamp, [] => [timestamp]
  | timestamp, delta :: deltas => timestamp :: timestampsFrom (timestamp + delta) deltas

def combine {α : Type} (agentId : String) (starts timestamps : List Int64) (values : List α) :
    List (StatPoint α) :=
  applyEach (applyEach (starts.map fun start => StatPoint.mk agentId start) timestamps) values

def readHeader : Reader Bytes := do
  match ← Reader.optionalBytes with
  | some header => pure header
  | none => Reader.malformed .missingStatHeader

/-- Reads a batch of the given kind. Every point after the first takes at least one byte, so a
count that the rest cannot hold is refused before anything is read. -/
def read (kind : StatKind) (context : BatchContext) : Reader StatBatch := do
  let version ← Reader.byte
  if version ≠ batchVersion then throw (.unknownVersion version)
  else
    let count ← (fun count => count.toNat) <$> Reader.vint
    let remaining ← Reader.remaining
    if count = 0 ∨ remaining < count - 1 then
      Reader.malformed (.statPointCount count remaining)
    else
      let starts ← Strategy.read .unsigned count .runs
      let deltas ← Reader.many Reader.vlong (count - 1)
      let timestamps :=
        timestampsFrom context.initialTimestamp (deltas.map fun delta => delta.toInt64)
      let header ← readHeader
      let values ← ColumnReader.run header (kind.read count)
      pure ⟨kind, combine context.agentId starts timestamps values⟩

end StatBatch

end Telemetry.Stat
