import Telemetry.Wire.Bytes

namespace Telemetry.Wire

/-! Variable-length integers: groups of seven bits, lowest first, every byte but the last with its
high bit set. Signed integers go through the zigzag map, which keeps numbers near zero short. -/

/-- A number as groups of seven bits. -/
def varint (value : Nat) : Bytes :=
  if value < 128 then [UInt8.ofNat value]
  else UInt8.ofNat (value % 128 + 128) :: varint (value / 128)
termination_by value
decreasing_by omega

/-- Maps 0, -1, 1, -2, … to 0, 1, 2, 3, … -/
def zigzag : Int → Nat
  | .ofNat value => 2 * value
  | .negSucc value => 2 * value + 1

/-- The integer at place `value` of 0, -1, 1, -2, … -/
def unzigzag (value : Nat) : Int :=
  if value % 2 = 0 then .ofNat (value / 2) else .negSucc (value / 2)

def putVint (value : UInt32) : Bytes := varint value.toNat

def putVlong (value : UInt64) : Bytes := varint value.toNat

def putSvint (value : Int32) : Bytes := varint (zigzag value.toInt)

def putSvlong (value : Int64) : Bytes := varint (zigzag value.toInt)

end Telemetry.Wire
