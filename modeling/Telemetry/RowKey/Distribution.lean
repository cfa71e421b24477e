import Telemetry.RowKey.Error
import Telemetry.Wire.Bytes

namespace Telemetry.RowKey

open Wire

/-! Distribution of keys over buckets. Keys that follow each other would all land in one region of
the store, so a byte computed from the key is put in front of it. A reader that does not know the
bytes that were hashed scans under every bucket; the number of buckets is therefore part of the
stored layout. -/

/-- The largest number of buckets that one byte can tell apart. -/
def maxBuckets : Nat := 256

inductive HashedPart where
  | whole
  /-- The bytes from `start` up to, not including, `stop`, as far as the key has them. -/
  | range (start stop : Nat)
deriving DecidableEq, Repr

structure Distributor where
  hash : Bytes → UInt64
  part : HashedPart
  buckets : Nat
  buckets_pos : 0 < buckets
  buckets_le : buckets ≤ maxBuckets

/-- The 64-bit FNV-1a hash, which the keys of all tables are spread with: every byte is mixed in by
exclusive or, then the whole is multiplied. -/
def fnv1a (bytes : Bytes) : UInt64 :=
  bytes.foldl (fun hash byte => (hash ^^^ byte.toUInt64) * 0x100000001b3) 0xcbf29ce484222325

namespace HashedPart

def select : HashedPart → Bytes → Bytes
  | .whole, key => key
  | .range start stop, key =>
      let stop := min stop key.length
      let start := min start stop
      (key.take stop).drop start

end HashedPart

namespace Distributor

def ofBuckets (hash : Bytes → UInt64) (part : HashedPart) (buckets : Nat) :
    Except RowKeyError Distributor :=
  if positive : 0 < buckets then
    if bounded : buckets ≤ maxBuckets then .ok ⟨hash, part, buckets, positive, bounded⟩
    else .error (.invalidBucketCount buckets)
  else .error (.invalidBucketCount buckets)

def bucket (distributor : Distributor) (key : Bytes) : UInt8 :=
  UInt8.ofNat ((distributor.hash (distributor.part.select key)).toNat % distributor.buckets)

def distribute (distributor : Distributor) (key : Bytes) : Bytes :=
  distributor.bucket key :: key

/-- The key behind every bucket in turn. -/
def distributeAll (distributor : Distributor) (key : Bytes) : List Bytes :=
  (List.range distributor.buckets).map fun bucket => UInt8.ofNat bucket :: key

end Distributor

def undistributed (distributed : Bytes) : Bytes := distributed.drop 1

/-- Reads a key that has exactly `length` bytes without its bucket. -/
def readUndistributed {α : Type} (length : Nat) (distributed : Bytes)
    (item : Bytes → Except RowKeyError α) : Except RowKeyError α :=
  let key := undistributed distributed
  if key.length = length then item key else .error (.invalidKeyLength length key.length)

end Telemetry.RowKey
