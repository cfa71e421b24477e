namespace Telemetry.Text

/-! Where and how a byte string stops being UTF-8. Acceptance itself is the library's
`String.fromUTF8?`; this module only words the refusal. -/

inductive Utf8Error where
  /-- The bytes from `index` start no character; `length` of them form the longest beginning of
  one that can be told apart from what follows. -/
  | invalid (length index : Nat)
  /-- The data ends inside a character that starts at `index`. -/
  | incomplete (index : Nat)
deriving DecidableEq, Repr

namespace Utf8Error

def message : Utf8Error → String
  | .invalid length index => s!"invalid utf-8 sequence of {length} bytes from index {index}"
  | .incomplete index => s!"incomplete utf-8 byte sequence from index {index}"

end Utf8Error

/-- The second bytes that may follow a lead byte, and how many continuation bytes it calls for.
Lead bytes that start no character have no entry. The narrowed ranges keep out overlong forms,
surrogates and code points above U+10FFFF. -/
def sequenceShape (lead : Nat) : Option (Nat × Nat × Nat) :=
  if lead < 0x80 then some (0, 0, 0)
  else if lead < 0xc2 then none
  else if lead < 0xe0 then some (1, 0x80, 0xbf)
  else if lead = 0xe0 then some (2, 0xa0, 0xbf)
  else if lead = 0xed then some (2, 0x80, 0x9f)
  else if lead < 0xf0 then some (2, 0x80, 0xbf)
  else if lead = 0xf0 then some (3, 0x90, 0xbf)
  else if lead < 0xf4 then some (3, 0x80, 0xbf)
  else if lead = 0xf4 then some (3, 0x80, 0x8f)
  else none

/-- How far the continuation bytes of one character reach. -/
inductive Continuation where
  | complete
  | brokenAfter (good : Nat)
  | endsEarly
deriving DecidableEq, Repr

/-- Checks `count` continuation bytes, the first against `low` and `high` and the others against
the full continuation range; `good` bytes of the character have been accepted before. -/
def checkContinuation : (count low high good : Nat) → List UInt8 → Continuation
  | 0, _, _, _, _ => .complete
  | _ + 1, _, _, _, [] => .endsEarly
  | count + 1, low, high, good, byte :: rest =>
      if low ≤ byte.toNat ∧ byte.toNat ≤ high then
        checkContinuation count 0x80 0xbf (good + 1) rest
      else .brokenAfter good

/-- The first fault in `bytes`, whose first byte stands at `index`. The number of pending bytes of
the current character is skipped before the next lead byte is looked at. -/
def diagnoseFrom : (pending index : Nat) → List UInt8 → Option Utf8Error
  | _, _, [] => none
  | pending + 1, index, _ :: rest => diagnoseFrom pending (index + 1) rest
  | 0, index, lead :: rest =>
      match sequenceShape lead.toNat with
      | none => some (.invalid 1 index)
      | some (count, low, high) =>
          match checkContinuation count low high 1 rest with
          | .complete => diagnoseFrom count (index + 1) rest
          | .brokenAfter good => some (.invalid good index)
          | .endsEarly => some (.incomplete index)

/-- The first fault of a byte string, `none` when it is UTF-8. -/
def diagnose (bytes : List UInt8) : Option Utf8Error :=
  diagnoseFrom 0 0 bytes

def utf8 (text : String) : List UInt8 :=
  text.toUTF8.data.toList

def ofUtf8? (bytes : List UInt8) : Except Utf8Error String :=
  match String.fromUTF8? (ByteArray.mk bytes.toArray) with
  | some text => .ok text
  | none => .error ((diagnose bytes).getD (.incomplete 0))

end Telemetry.Text
