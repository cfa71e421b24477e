import Telemetry.Wire.Reader

namespace Telemetry.Wire.Words

/-! Varints on machine words, one group of seven bits after the other. A shift drops what does not
fit its word, and a group is put in its place by setting bits, so these loops give the right number
only where no bit is dropped and none is set twice. -/

/-! ### Writing -/

def putVlong (value : UInt64) : Bytes :=
  if _last : value < 0x80 then [value.toUInt8]
  else (value.toUInt8 &&& 0x7f ||| 0x80) :: putVlong (value >>> 7)
termination_by value.toNat
decreasing_by
  rw [UInt64.lt_iff_toNat_lt] at _last
  have long : 128 ≤ value.toNat := Nat.le_of_not_lt _last
  have shifted : (value >>> 7).toNat = value.toNat / 128 := by
    rw [UInt64.toNat_shiftRight]
    exact Nat.shiftRight_eq_div_pow _ 7
  omega

def putVint (value : UInt32) : Bytes := putVlong value.toUInt64

/-- The sign becomes the lowest bit. The other bits move up and are flipped below zero. -/
def zigzag32 (value : Int32) : UInt32 := (value <<< 1 ^^^ value >>> 31).toUInt32

def zigzag64 (value : Int64) : UInt64 := (value <<< 1 ^^^ value >>> 63).toUInt64

def putSvint (value : Int32) : Bytes := putVint (zigzag32 value)

def putSvlong (value : Int64) : Bytes := putVlong (zigzag64 value)

/-! ### Reading -/

def unzigzag32 (value : UInt32) : Int32 := (value >>> 1).toInt32 ^^^ -(value &&& 1).toInt32

def unzigzag64 (value : UInt64) : Int64 := (value >>> 1).toInt64 ^^^ -(value &&& 1).toInt64

/-- Reads up to `budget` more groups and sets their bits in `value`, those of the next group from
`shift` on. -/
def groups (limit : Nat) : (budget : Nat) → (shift value : UInt64) → Reader UInt64
  | 0, _, _ => Reader.malformed (.varintTooLong limit)
  | budget + 1, shift, value => do
      let next ← Reader.byte
      let bits := (next &&& 0x7f).toUInt64
      if shift = 63 ∧ 1 < bits then Reader.malformed .varintOverflow
      else
        let value := value ||| bits <<< shift
        if next &&& 0x80 = 0 then pure value else groups limit budget (shift + 7) value

def vint : Reader UInt32 := do
  let value ← groups Reader.maxVintBytes Reader.maxVintBytes 0 0
  if value ≤ 0xffffffff then pure value.toUInt32
  else Reader.malformed (.vintOutOfRange value.toNat)

def vlong : Reader UInt64 := groups Reader.maxVlongBytes Reader.maxVlongBytes 0 0

def svint : Reader Int32 := unzigzag32 <$> vint

def svlong : Reader Int64 := unzigzag64 <$> vlong

end Telemetry.Wire.Words
