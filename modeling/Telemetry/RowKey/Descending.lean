import Telemetry.RowKey.Error
import Telemetry.Wire.Reader

namespace Telemetry.RowKey

open Wire

/-! Times in descending order. A time is turned round in the range of non-negative 64-bit integers
before it is written, so that keys in ascending byte order are newest first. -/

def maxTimestamp : Int64 := Int64.maxValue

/-- Turns a time round. -/
def invert (timestamp : Int64) : Except RowKeyError Int64 :=
  if timestamp < 0 then .error (.negativeTimestamp timestamp)
  else .ok (maxTimestamp - timestamp)

def restore (inverted : Int64) : Except RowKeyError Int64 :=
  if inverted < 0 then .error (.negativeTimestamp inverted)
  else .ok (maxTimestamp - inverted)

def invertedBytes (timestamp : Int64) : Except RowKeyError Bytes :=
  putInt64 <$> invert timestamp

end Telemetry.RowKey
