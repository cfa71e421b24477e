import Telemetry.Wire.Sequence

namespace Telemetry.Trace

open Wire

/-! Annotations: typed values that instrumentation attaches to a span or span event under a
numeric key. Floating-point values are kept as their bits, so that every value, the ones that are
no number included, is stored and compared exactly. -/

inductive AnnotationValue where
  | null
  | text (value : String)
  | bool (value : Bool)
  | int (value : Int32)
  | long (value : Int64)
  | double (bits : UInt64)
  | bytes (value : Bytes)
deriving DecidableEq, Repr

structure Annotation where
  key : Int32
  value : AnnotationValue
deriving DecidableEq, Repr

namespace AnnotationValue

def put : AnnotationValue → Except EncodeError Bytes
  | .null => .ok [0]
  | .text value => (1 :: ·) <$> putText value
  | .bool value => .ok (2 :: putBool value)
  | .int value => .ok (3 :: putSvint value)
  | .long value => .ok (4 :: putSvlong value)
  | .double bits => .ok (5 :: putUInt64 bits)
  | .bytes value => (6 :: ·) <$> putBytes value

def read : Reader AnnotationValue := do
  match ← Reader.byte with
  | 0 => pure .null
  | 1 => .text <$> Reader.text "annotation value"
  | 2 => .bool <$> Reader.bool
  | 3 => .int <$> Reader.svint
  | 4 => .long <$> Reader.svlong
  | 5 => .double <$> Reader.uint64
  | 6 =>
      match ← Reader.optionalBytes with
      | some value => pure (.bytes value)
      | none => Reader.malformed .nullAnnotationBytes
  | code => Reader.unknownCode (.annotationType code)

end AnnotationValue

namespace Annotation

def put (entry : Annotation) : Except EncodeError Bytes := do
  let value ← entry.value.put
  pure (putSvint entry.key ++ value)

def read : Reader Annotation := do
  let key ← Reader.svint
  let value ← AnnotationValue.read
  pure ⟨key, value⟩

def putList (annotations : List Annotation) : Except EncodeError Bytes := do
  let items ← putEach put annotations
  pure (putCount annotations.length ++ items)

/-- Every annotation takes at least two bytes, so a count that the rest cannot hold is refused
before anything is read. -/
def readList : Reader (List Annotation) := do
  let count ← Reader.vint
  let remaining ← Reader.remaining
  if remaining / 2 < count.toNat then Reader.malformed (.annotationCount count.toNat)
  else Reader.many read count.toNat

end Annotation

end Telemetry.Trace
