import Telemetry.RowKey.Distribution
import Telemetry.Trace.TransactionId
import Telemetry.Wire.Padded

namespace Telemetry.RowKey

open Wire Trace

/-! Keys of trace rows: agent id, agent start time and sequence, spread over the buckets by the
sequence alone, since an agent hands out its sequences one after the other. -/

def agentIdWidth : Nat := 24

def transactionKeyLength : Nat := agentIdWidth + 8 + 8

def sequencePart : HashedPart := .range (agentIdWidth + 8) transactionKeyLength

structure TransactionKeys where
  distributor : Distributor

namespace TransactionKeys

def ofBuckets (buckets : Nat) : Except RowKeyError TransactionKeys :=
  TransactionKeys.mk <$> Distributor.ofBuckets fnv1a sequencePart buckets

def undistributedKey (id : TransactionId) : Except RowKeyError Bytes := do
  let agentId ← written (putPadded agentIdWidth id.agentId)
  pure (agentId ++ putInt64 id.agentStartTime ++ putInt64 id.sequence)

def encode (keys : TransactionKeys) (id : TransactionId) : Except RowKeyError Bytes :=
  keys.distributor.distribute <$> undistributedKey id

def readKey : Reader TransactionId := do
  let agentId ← Reader.padded agentIdWidth
  let agentStartTime ← Reader.int64
  let sequence ← Reader.int64
  pure ⟨agentId, agentStartTime, sequence⟩

def decode (key : Bytes) : Except RowKeyError TransactionId :=
  readUndistributed transactionKeyLength key fun undistributed =>
    readBack (Reader.front readKey undistributed)

end TransactionKeys

end Telemetry.RowKey
