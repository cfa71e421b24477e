import Telemetry.Wire.Error

namespace Telemetry.RowKey

inductive RowKeyError where
  /-- Only times from the epoch on can be put in descending order. -/
  | negativeTimestamp (timestamp : Int64)
  | invalidBucketCount (count : Nat)
  | invalidKeyLength (expected actual : Nat)
  | encode (cause : Wire.EncodeError)
  | decode (cause : Wire.DecodeError)
deriving DecidableEq, Repr

namespace RowKeyError

def message : RowKeyError → String
  | .negativeTimestamp timestamp => s!"timestamp {timestamp.toInt} is negative"
  | .invalidBucketCount count => s!"bucket count must be between 1 and 256, got {count}"
  | .invalidKeyLength expected actual => s!"row key has {actual} bytes, expected {expected}"
  | .encode cause => cause.message
  | .decode cause => cause.message

end RowKeyError

def written {α : Type} : Except Wire.EncodeError α → Except RowKeyError α
  | .ok value => .ok value
  | .error cause => .error (.encode cause)

def readBack {α : Type} : Except Wire.DecodeError α → Except RowKeyError α
  | .ok value => .ok value
  | .error cause => .error (.decode cause)

end Telemetry.RowKey
