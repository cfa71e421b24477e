namespace Telemetry.Wire

/-! Byte strings and fixed-width big-endian integers. Big-endian bytes of unsigned numbers compare
like the numbers, which is what sorted keys rely on. -/

abbrev Bytes := List UInt8

/-- The lowest `width` bytes of `value`, most significant first. -/
def bigEndian : (width value : Nat) → Bytes
  | 0, _ => []
  | width + 1, value => UInt8.ofNat (value >>> (8 * width)) :: bigEndian width value

/-- The number whose bytes, most significant first, are given. -/
def ofBigEndian (bytes : Bytes) : Nat :=
  bytes.foldl (fun value byte => value * 256 + byte.toNat) 0

def putUInt16 (value : UInt16) : Bytes := bigEndian 2 value.toNat

def putInt16 (value : Int16) : Bytes := bigEndian 2 value.toUInt16.toNat

def putInt32 (value : Int32) : Bytes := bigEndian 4 value.toUInt32.toNat

def putUInt64 (value : UInt64) : Bytes := bigEndian 8 value.toNat

def putInt64 (value : Int64) : Bytes := bigEndian 8 value.toUInt64.toNat

def putBool (value : Bool) : Bytes := [if value then 1 else 0]

end Telemetry.Wire
