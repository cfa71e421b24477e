import Telemetry.Wire.Error
import Telemetry.Wire.Varint

namespace Telemetry.Wire

/-! Reading values off the front of a byte string. The state of a reader is what has not been read
yet; a reader that fails leaves the state where the failure was noticed, so the bytes of the parts
read before it stay consumed. -/

abbrev Reader := EStateM DecodeError Bytes

namespace Reader

def underflow {α : Type} (needed : Nat) : Reader α :=
  fun rest => .error (.bufferUnderflow needed rest.length) rest

def malformed {α : Type} (cause : FormatError) : Reader α :=
  throw (.invalidFormat cause)

def unknownCode {α : Type} (cause : CodeError) : Reader α :=
  throw (.invalidType cause)

def lift {α : Type} : Except DecodeError α → Reader α
  | .ok value => pure value
  | .error error => throw error

/-- What is left when reading starts from `bytes`, whether it succeeds or not. -/
def restOf {α : Type} : EStateM.Result DecodeError Bytes α → Bytes
  | .ok _ rest => rest
  | .error _ rest => rest

def remaining : Reader Nat :=
  fun rest => .ok rest.length rest

def takeAll : Reader Bytes :=
  fun rest => .ok rest []

/-- Succeeds only where nothing is left. -/
def expectEnd : Reader Unit := do
  let count ← remaining
  if count > 0 then malformed (.trailingBytes count)

/-- The next `count` bytes; where fewer are left, none of them is consumed. -/
def take (count : Nat) : Reader Bytes := fun rest =>
  if count ≤ rest.length then .ok (rest.take count) (rest.drop count)
  else .error (.bufferUnderflow count rest.length) rest

def byte : Reader UInt8
  | [] => .error (.bufferUnderflow 1 0) []
  | first :: rest => .ok first rest

def bool : Reader Bool := do
  match ← byte with
  | 0 => pure false
  | 1 => pure true
  | other => malformed (.invalidBoolean other)

def bigEndian (width : Nat) : Reader Nat :=
  ofBigEndian <$> take width

def uint16 : Reader UInt16 := UInt16.ofNat <$> bigEndian 2

def int16 : Reader Int16 := (fun value => (UInt16.ofNat value).toInt16) <$> bigEndian 2

def int32 : Reader Int32 := (fun value => (UInt32.ofNat value).toInt32) <$> bigEndian 4

def uint64 : Reader UInt64 := UInt64.ofNat <$> bigEndian 8

def int64 : Reader Int64 := (fun value => (UInt64.ofNat value).toInt64) <$> bigEndian 8

/-- Reads up to `budget` more groups of a number of at most `limit` groups. The groups read so far
have the value `value` and occupy `bits` bits. -/
def groups (limit : Nat) : (budget bits value : Nat) → Reader Nat
  | 0, _, _ => malformed (.varintTooLong limit)
  | budget + 1, bits, value => do
      let next ← byte
      let group := next.toNat % 128
      if bits = 63 ∧ 1 < group then malformed .varintOverflow
      else
        let value := value + group <<< bits
        if next.toNat < 128 then pure value else groups limit budget (bits + 7) value

/-- The most groups a 32-bit number can take. -/
def maxVintBytes : Nat := 5

/-- The most groups a 64-bit number can take. -/
def maxVlongBytes : Nat := 10

def vint : Reader UInt32 := do
  let value ← groups maxVintBytes maxVintBytes 0 0
  if value < UInt32.size then pure (UInt32.ofNat value) else malformed (.vintOutOfRange value)

def vlong : Reader UInt64 :=
  UInt64.ofNat <$> groups maxVlongBytes maxVlongBytes 0 0

def svint : Reader Int32 :=
  (fun value => Int32.ofInt (unzigzag value.toNat)) <$> vint

def svlong : Reader Int64 :=
  (fun value => Int64.ofInt (unzigzag value.toNat)) <$> vlong

def narrow16 (field : String) : Reader Int16 := do
  let value ← svint
  if -32768 ≤ value.toInt ∧ value.toInt ≤ 32767 then pure (Int16.ofInt value.toInt)
  else malformed (.outOfRange field value.toInt)

def many {α : Type} (item : Reader α) : Nat → Reader (List α)
  | 0 => pure []
  | count + 1 => do
      let first ← item
      let others ← many item count
      pure (first :: others)

/-- Reads a value only where a flag announced it. -/
def optional {α : Type} (present : Bool) (item : Reader α) : Reader (Option α) :=
  if present then some <$> item else pure none

/-- Reads a value where a flag announced it, and falls back on `absent` elsewhere. -/
def orElseValue {α : Type} (present : Bool) (absent : α) (item : Reader α) : Reader α :=
  if present then item else pure absent

/-- The value that `item` reads from exactly these bytes. -/
def complete {α : Type} (item : Reader α) (bytes : Bytes) : Except DecodeError α :=
  match (do let value ← item; expectEnd; pure value : Reader α) bytes with
  | .ok value _ => .ok value
  | .error error _ => .error error

/-- The value that `item` reads from the front of these bytes. -/
def front {α : Type} (item : Reader α) (bytes : Bytes) : Except DecodeError α :=
  match item bytes with
  | .ok value _ => .ok value
  | .error error _ => .error error

end Reader

end Telemetry.Wire
