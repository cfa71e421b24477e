import Telemetry.Text.Quoted
import Telemetry.Text.Utf8
import Telemetry.Text.Decimal

namespace Telemetry.Wire

/-! Everything that can be wrong with a value to be written or with bytes to be read. Each
constructor is one cause; the wording of all of them is in the `message` functions. -/

/-- A value that its format has no place for. -/
inductive ValueError where
  | endsWithPadding (value : String)
  | timestampGapTooLong (previous current : Int64)
  | timespanNotPositive (timespan : Int64)
  | agentIdRequired
  | applicationNameRequired
  | malformedTransactionId (text : String)
  | transactionWithoutAgent (text : String)
  | transactionNumber (text part : String) (cause : Text.IntegerError)
deriving DecidableEq, Repr

inductive EncodeError where
  | emptyBatch (what : String)
  | mixedAgentIds (expected found : String)
  | nonMonotonicTimestamp (previous current : Int64)
  | padOverflow (length width : Nat)
  | tooLong (length : Nat)
  | invalidValue (cause : ValueError)
deriving DecidableEq, Repr

/-- The largest length that a signed 32-bit length field can announce. -/
def maxPrefixedLength : Nat := 2147483647

inductive FormatError where
  | trailingBytes (count : Nat)
  | invalidBoolean (byte : UInt8)
  | vintOutOfRange (value : Nat)
  | varintOverflow
  | varintTooLong (maxBytes : Nat)
  | negativeLength (length : Int32)
  | fieldMissing (field : String)
  | outOfRange (field : String) (value : Int)
  | unknownFlags (what : String) (bits : Nat)
  | annotationCount (count : Nat)
  | nullAnnotationBytes
  | eventCount (count : Nat)
  | firstEventComparesBack
  | firstSequenceMismatch (announced found : Int32)
  | spanWithAsyncId
  | missingSpanQualifier
  | statPointCount (count remaining : Nat)
  | missingStatHeader
  | statHeaderExhausted
  | repeatCount (run decoded count : Nat)
  | unusableContext (cause : EncodeError)
deriving DecidableEq, Repr

inductive CodeError where
  | annotationType (code : UInt8)
  | spanQualifierType (code : UInt8)
  | statKind (code : UInt8)
  | gcKind (code : Int64)
  | columnStrategy (code : UInt8)
  | messageKind (code : UInt8)
  | notARequest (kind : String)
deriving DecidableEq, Repr

inductive DecodeError where
  | bufferUnderflow (needed remaining : Nat)
  | unknownVersion (version : UInt8)
  | invalidFormat (cause : FormatError)
  | invalidType (cause : CodeError)
  | invalidText (cause : Text.Utf8Error)
deriving DecidableEq, Repr

namespace ValueError

def message : ValueError → String
  | .endsWithPadding value => s!"padded value {Text.quoted value} ends with a padding byte"
  | .timestampGapTooLong previous current =>
      s!"timestamp delta from {previous.toInt} to {current.toInt} overflows"
  | .timespanNotPositive timespan => s!"timespan must be positive, got {timespan.toInt}"
  | .agentIdRequired => "agent id is required"
  | .applicationNameRequired => "application name is required"
  | .malformedTransactionId text => s!"malformed transaction id {Text.quoted text}"
  | .transactionWithoutAgent text => s!"transaction id {Text.quoted text} has an empty agent id"
  | .transactionNumber text part cause =>
      s!"transaction id {Text.quoted text}: {Text.quoted part} {cause.message}"

end ValueError

namespace EncodeError

def message : EncodeError → String
  | .emptyBatch what => s!"{what} must not be empty"
  | .mixedAgentIds expected found =>
      s!"mixed agent ids in batch: expected {expected}, found {found}"
  | .nonMonotonicTimestamp previous current =>
      s!"timestamps must be non-decreasing: {previous.toInt} followed by {current.toInt}"
  | .padOverflow length width => s!"value of {length} bytes exceeds fixed width {width}"
  | .tooLong length =>
      s!"value of {length} bytes exceeds the length prefix limit of {maxPrefixedLength}"
  | .invalidValue cause => s!"invalid value: {cause.message}"

end EncodeError

namespace FormatError

/-- Four hexadecimal digits after `0x`, more where the number needs them. -/
def hexWord (bits : Nat) : String :=
  let digits := Text.hexDigits bits
  String.ofList ('0' :: 'x' :: List.replicate (4 - digits.length) '0' ++ digits)

def message : FormatError → String
  | .trailingBytes count => s!"{count} trailing bytes"
  | .invalidBoolean byte => s!"invalid boolean byte {byte.toNat}"
  | .vintOutOfRange value => s!"vint out of range: {value}"
  | .varintOverflow => "varint overflows 64 bits"
  | .varintTooLong maxBytes => s!"varint longer than {maxBytes} bytes"
  | .negativeLength length => s!"negative length {length.toInt}"
  | .fieldMissing field => s!"{field} is missing"
  | .outOfRange field value => s!"{field} {value} out of range"
  | .unknownFlags what bits => s!"unknown {what} flags {hexWord bits}"
  | .annotationCount count => s!"annotation count {count} exceeds payload"
  | .nullAnnotationBytes => "null annotation bytes"
  | .eventCount count => s!"span event count {count} exceeds payload"
  | .firstEventComparesBack => "first span event refers to a previous event"
  | .firstSequenceMismatch announced found =>
      s!"qualifier first event sequence {announced.toInt} does not match column value {found.toInt}"
  | .spanWithAsyncId => "span qualifier carries a local async id"
  | .missingSpanQualifier => "missing span qualifier"
  | .statPointCount count remaining =>
      s!"stat point count {count} with {remaining} bytes remaining"
  | .missingStatHeader => "missing stat header"
  | .statHeaderExhausted => "stat header exhausted"
  | .repeatCount run decoded count =>
      s!"repeat count {run} with {decoded} of {count} values decoded"
  | .unusableContext cause => cause.message

end FormatError

namespace CodeError

def message : CodeError → String
  | .annotationType code => s!"annotation type code {code.toNat}"
  | .spanQualifierType code => s!"span qualifier type {code.toNat}"
  | .statKind code => s!"agent stat type {code.toNat}"
  | .gcKind code => s!"jvm gc type {code.toInt}"
  | .columnStrategy code => s!"encoding strategy code {code.toNat}"
  | .messageKind code => s!"message kind {code.toNat}"
  | .notARequest kind => s!"{kind} is not a request"

end CodeError

namespace DecodeError

def message : DecodeError → String
  | .bufferUnderflow needed remaining =>
      s!"buffer underflow: needed {needed} bytes, {remaining} remaining"
  | .unknownVersion version => s!"unknown format version {version.toNat}"
  | .invalidFormat cause => s!"invalid format: {cause.message}"
  | .invalidType cause => s!"invalid type: {cause.message}"
  | .invalidText cause => s!"failed to read utf8 value: {cause.message}"

end DecodeError

end Telemetry.Wire
