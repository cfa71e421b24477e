import Telemetry.Wire.Prefixed

namespace Telemetry.Wire

/-! Text fields of a fixed width, filled up with NUL bytes. Fields of one width compare as bytes
like their texts, so they can stand inside sorted keys. Reading strips trailing NULs and spaces;
`PaddedText` is the type of texts that come back unchanged. -/

/-- Fills `text` up to `width` bytes. A text that does not fit is refused and not cut: a cut key
would merge distinct entities. -/
def putPadded (width : Nat) (text : String) : Except EncodeError Bytes :=
  let bytes := Text.utf8 text
  if width < bytes.length then .error (.padOverflow bytes.length width)
  else .ok (bytes ++ List.replicate (width - bytes.length) 0)

def isPadding (byte : UInt8) : Bool :=
  byte = 0 || byte = 32

def trimPadding (bytes : Bytes) : Bytes :=
  (bytes.reverse.dropWhile isPadding).reverse

namespace Reader

/-- The text in a field of `width` bytes, without the padding at its end. -/
def padded (width : Nat) : Reader String := do
  let bytes ← take width
  ofUtf8 (trimPadding bytes)

end Reader

def endsWithPadding (text : String) : Bool :=
  match (Text.utf8 text).getLast? with
  | some last => isPadding last
  | none => false

/-- Texts that fit a field of `width` bytes and do not end in a padding byte. -/
structure PaddedText (width : Nat) where
  text : String
  length_le : (Text.utf8 text).length ≤ width
  not_endsWithPadding : endsWithPadding text = false
deriving DecidableEq

namespace PaddedText

variable {width : Nat}

/-- Padded texts are in the order of their texts. -/
instance : LT (PaddedText width) := ⟨fun left right => left.text < right.text⟩

/-- Accepts exactly the texts that a field of this width gives back; too long a text is reported
before a padding byte at its end. -/
def ofText (width : Nat) (text : String) : Except EncodeError (PaddedText width) :=
  if fits : (Text.utf8 text).length ≤ width then
    if clean : endsWithPadding text = false then .ok ⟨text, fits, clean⟩
    else .error (.invalidValue (.endsWithPadding text))
  else .error (.padOverflow (Text.utf8 text).length width)

def put (value : PaddedText width) : Bytes :=
  Text.utf8 value.text ++ List.replicate (width - (Text.utf8 value.text).length) 0

end PaddedText

end Telemetry.Wire
