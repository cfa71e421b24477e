import Telemetry.RowKey.Descending
import Telemetry.RowKey.Distribution
import Telemetry.RowKey.ElapsedSlot
import Telemetry.Trace.Span
import Telemetry.Wire.Padded

namespace Telemetry.RowKey

open Wire Trace

/-! Keys of the trace index: application, accept time newest first, elapsed slot. The slot comes
last, so that a scan over an application can be restricted to slow traces. -/

def applicationNameWidth : Nat := 254

def traceIndexKeyLength : Nat := applicationNameWidth + 8 + 1

structure TraceIndexRow where
  applicationName : String
  acceptedTime : Int64
  elapsedSlot : UInt8
deriving DecidableEq, Repr

structure TraceIndexKeys where
  distributor : Distributor

namespace TraceIndexKeys

def ofBuckets (buckets : Nat) : Except RowKeyError TraceIndexKeys :=
  TraceIndexKeys.mk <$> Distributor.ofBuckets fnv1a .whole buckets

def undistributedKey (applicationName : String) (acceptedTime : Int64) (slot : UInt8) :
    Except RowKeyError Bytes := do
  let application ← written (putPadded applicationNameWidth applicationName)
  let time ← invertedBytes acceptedTime
  pure (application ++ time ++ [slot])

def encode (keys : TraceIndexKeys) (applicationName : String) (acceptedTime : Int64)
    (elapsed : Int32) : Except RowKeyError Bytes :=
  keys.distributor.distribute <$>
    undistributedKey applicationName acceptedTime (elapsedSlot elapsed.toInt)

def encodeSpan (keys : TraceIndexKeys) (span : Span) : Except RowKeyError Bytes :=
  keys.encode span.applicationName span.collectorAcceptTime span.elapsed

/-- One beginning per bucket; together they cover every trace of the application. -/
def scanPrefixes (keys : TraceIndexKeys) (applicationName : String) :
    Except RowKeyError (List Bytes) :=
  keys.distributor.distributeAll <$> written (putPadded applicationNameWidth applicationName)

def decode (key : Bytes) : Except RowKeyError TraceIndexRow :=
  readUndistributed traceIndexKeyLength key fun undistributed => do
    let (applicationName, inverted, slot) ← readBack (Reader.front (do
      let applicationName ← Reader.padded applicationNameWidth
      let inverted ← Reader.int64
      let slot ← Reader.byte
      pure (applicationName, inverted, slot)) undistributed)
    let acceptedTime ← restore inverted
    pure ⟨applicationName, acceptedTime, slot⟩

end TraceIndexKeys

end Telemetry.RowKey
