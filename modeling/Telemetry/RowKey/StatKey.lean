import Telemetry.RowKey.Descending
import Telemetry.RowKey.TransactionKey
import Telemetry.Stat.Batch

namespace Telemetry.RowKey

open Wire Stat

/-! Keys of statistics rows: agent id, kind, beginning of the row newest first. -/

def statKeyLength : Nat := agentIdWidth + 1 + 8

structure StatRow where
  agentId : String
  kind : StatKind
  /-- Where the row begins, a multiple of its timespan. -/
  baseTimestamp : Int64
deriving DecidableEq, Repr

namespace StatRow

def ofContext (kind : StatKind) (context : BatchContext) : StatRow :=
  ⟨context.agentId, kind, context.baseTimestamp⟩

end StatRow

structure StatKeys where
  distributor : Distributor

namespace StatKeys

def ofBuckets (buckets : Nat) : Except RowKeyError StatKeys :=
  StatKeys.mk <$> Distributor.ofBuckets fnv1a .whole buckets

/-- The key without its bucket. -/
def undistributedKey (row : StatRow) : Except RowKeyError Bytes := do
  let agentId ← written (putPadded agentIdWidth row.agentId)
  let time ← invertedBytes row.baseTimestamp
  pure (agentId ++ row.kind.code :: time)

def encode (keys : StatKeys) (row : StatRow) : Except RowKeyError Bytes :=
  keys.distributor.distribute <$> undistributedKey row

def decode (key : Bytes) : Except RowKeyError StatRow :=
  readUndistributed statKeyLength key fun undistributed => do
    let (agentId, kind, inverted) ← readBack (Reader.front (do
      let agentId ← Reader.padded agentIdWidth
      let code ← Reader.byte
      let kind ← Reader.lift (StatKind.ofCode code)
      let inverted ← Reader.int64
      pure (agentId, kind, inverted)) undistributed)
    let baseTimestamp ← restore inverted
    pure ⟨agentId, kind, baseTimestamp⟩

/-- The context of a batch in the row at `key` whose first sample was taken `timestampDelta`
millis after the row's beginning. -/
def context (key : Bytes) (timestampDelta : Int64) : Except RowKeyError BatchContext := do
  let row ← decode key
  pure ⟨row.agentId, row.baseTimestamp, timestampDelta⟩

end StatKeys

end Telemetry.RowKey
