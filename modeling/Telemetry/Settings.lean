import Telemetry.Text.Blank
import Telemetry.Text.Decimal

namespace Telemetry

/-! Settings: texts under names, as the environment of a process gives them. -/

abbrev Settings := List (String × String)

def address (host : String) (port : Nat) : String := s!"{host}:{port}"

namespace Settings

def text? (name : String) (settings : Settings) : Option String := settings.lookup name

/-- What `read` makes of a setting; `default` where there is none or `read` has no use for it. -/
def valueOr {α : Type} (default : α) (read : List Char → Option α) (name : String)
    (settings : Settings) : α :=
  ((settings.text? name).bind fun text => read text.toList).getD default

/-- A natural number of at most `bits` bits, without anything around it. -/
def plainNatural (default bits : Nat) (name : String) (settings : Settings) : Nat :=
  settings.valueOr default (Text.natural? bits) name

/-- A natural number of at most `bits` bits, with or without blanks around it. -/
def natural (default bits : Nat) (name : String) (settings : Settings) : Nat :=
  settings.valueOr default (fun text => Text.natural? bits (Text.trim text)) name

end Settings

end Telemetry
