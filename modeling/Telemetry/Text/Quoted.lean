import Telemetry.Text.Shapeless

namespace Telemetry.Text

/-! Quoted text, as error messages show a string: double quotes around it, the usual short escapes
inside, and a code point number for every character that would not show as a shape of its own. -/

def hexDigits (number : Nat) : List Char :=
  Nat.toDigits 16 number

def escapeChar (character : Char) : List Char :=
  if character = '"' then ['\\', '"']
  else if character = '\\' then ['\\', '\\']
  else if character = '\n' then ['\\', 'n']
  else if character = '\r' then ['\\', 'r']
  else if character = '\t' then ['\\', 't']
  else if character = Char.ofNat 0 then ['\\', '0']
  else if isShapeless character then
    ['\\', 'u', Char.ofNat 123] ++ hexDigits character.toNat ++ [Char.ofNat 125]
  else [character]

/-- The text between double quotes, escaped so that it can be read back unambiguously. -/
def quoted (text : String) : String :=
  String.ofList ('"' :: text.toList.flatMap escapeChar ++ ['"'])

end Telemetry.Text
