namespace Telemetry.Text

/-! Decimal integers within bounds: an optional sign, then ASCII digits only. -/

inductive IntegerError where
  | empty
  | invalidDigit
  | tooLarge
  | tooSmall
deriving DecidableEq, Repr

namespace IntegerError

def message : IntegerError → String
  | .empty => "cannot parse integer from empty string"
  | .invalidDigit => "invalid digit found in string"
  | .tooLarge => "number too large to fit in target type"
  | .tooSmall => "number too small to fit in target type"

end IntegerError

def digitValue? (character : Char) : Option Nat :=
  if '0' ≤ character ∧ character ≤ '9' then some (character.toNat - '0'.toNat) else none

/-- What the digits do to a number in progress: a digit out of place, or one that leaves the range,
ends the reading, whichever comes first. -/
def readDigits (low high : Int) (negative : Bool) : Int → List Char → Except IntegerError Int
  | value, [] => .ok value
  | value, character :: rest =>
      match digitValue? character with
      | none => .error .invalidDigit
      | some digit =>
          let next := if negative then value * 10 - digit else value * 10 + digit
          if high < next then .error .tooLarge
          else if next < low then .error .tooSmall
          else readDigits low high negative next rest

/-- Reads an integer between `low` and `high`. A minus sign is only a sign where the range has
negative numbers. -/
def parseInteger (low high : Int) (text : List Char) : Except IntegerError Int :=
  match text with
  | [] => .error .empty
  | ['+'] => .error .invalidDigit
  | ['-'] => .error .invalidDigit
  | '+' :: digits => readDigits low high false 0 digits
  | '-' :: digits =>
      if low < 0 then readDigits low high true 0 digits else .error .invalidDigit
  | digits => readDigits low high false 0 digits

/-- A natural number of at most `bits` bits. -/
def natural? (bits : Nat) (text : List Char) : Option Nat :=
  match parseInteger 0 ((1 <<< bits : Nat) - 1) text with
  | .ok value => some value.toNat
  | .error _ => none

def signed? (bits : Nat) (text : List Char) : Option Int :=
  let bound : Nat := 1 <<< (bits - 1)
  match parseInteger (-bound) (bound - 1) text with
  | .ok value => some value
  | .error _ => none

def renderInteger : Int → List Char
  | .ofNat value => Nat.toDigits 10 value
  | .negSucc value => '-' :: Nat.toDigits 10 (value + 1)

end Telemetry.Text
