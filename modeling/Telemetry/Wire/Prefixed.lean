import Telemetry.Wire.Reader

namespace Telemetry.Wire

/-! Byte strings and texts behind a length. The length is a signed varint; -1 in its place stands
for a value that is not there, and every other negative length is refused. -/

/-- The length in front of an absent value. -/
def nullLength : Int32 := -1

/-- The length field of `length` bytes, which has to fit a signed 32-bit integer. -/
def putLength (length : Nat) : Except EncodeError Bytes :=
  if length ≤ maxPrefixedLength then .ok (putSvint (Int32.ofNat length))
  else .error (.tooLong length)

def putBytes (bytes : Bytes) : Except EncodeError Bytes := do
  let length ← putLength bytes.length
  pure (length ++ bytes)

def putOptionalBytes : Option Bytes → Except EncodeError Bytes
  | some bytes => putBytes bytes
  | none => .ok (putSvint nullLength)

def putText (text : String) : Except EncodeError Bytes :=
  putBytes (Text.utf8 text)

def putOptionalText : Option String → Except EncodeError Bytes
  | some text => putText text
  | none => .ok (putSvint nullLength)

namespace Reader

def optionalBytes : Reader (Option Bytes) := do
  let length ← svint
  if length = nullLength then pure none
  else if length.toInt < 0 then malformed (.negativeLength length)
  else some <$> take length.toInt.toNat

def ofUtf8 (bytes : Bytes) : Reader String :=
  match Text.ofUtf8? bytes with
  | .ok text => pure text
  | .error cause => throw (.invalidText cause)

def optionalText : Reader (Option String) := do
  match ← optionalBytes with
  | some bytes => some <$> ofUtf8 bytes
  | none => pure none

/-- A text that has to be there; `field` names it in the error. -/
def text (field : String) : Reader String := do
  match ← optionalText with
  | some value => pure value
  | none => malformed (.fieldMissing field)

end Reader

end Telemetry.Wire
