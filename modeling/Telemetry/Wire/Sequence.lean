import Telemetry.Wire.Prefixed

namespace Telemetry.Wire

/-! Optional parts, repeated parts and the flag words that announce which parts follow. -/

def putIfPresent {α : Type} (put : α → Except EncodeError Bytes) :
    Option α → Except EncodeError Bytes
  | some value => put value
  | none => .ok []

def putEach {α : Type} (put : α → Except EncodeError Bytes) :
    List α → Except EncodeError Bytes
  | [] => .ok []
  | item :: items => do
      let first ← put item
      let others ← putEach put items
      pure (first ++ others)

/-- The element count in front of a list. Lists are shorter than 2 ^ 32. -/
def putCount (count : Nat) : Bytes := putVint (UInt32.ofNat count)

/-- The number that a list of flags spells, the first flag in the lowest bit. -/
def packFlags : List Bool → Nat
  | [] => 0
  | flag :: flags => flag.toNat + 2 * packFlags flags

def putFlags (flags : List Bool) : Bytes := putUInt16 (UInt16.ofNat (packFlags flags))

namespace Reader

/-- Reads a flag word of which only the lowest `width` bits have a meaning. -/
def flags (what : String) (width : Nat) : Reader Nat := do
  let word ← uint16
  let bits := word.toNat
  if bits >>> width = 0 then pure bits
  else malformed (.unknownFlags what (bits >>> width <<< width))

end Reader

end Telemetry.Wire
