import Telemetry.Wire.Sequence

namespace Telemetry.Wire

/-! Writing to the end of a buffer. A writer that fails leaves the buffer as it was when the failure
was noticed, so the parts written before it stay. -/

abbrev Writer := EStateM EncodeError Bytes

namespace Writer

def append (bytes : Bytes) : Writer Unit := fun buffer => .ok () (buffer ++ bytes)

/-- A check, or a part that is worked out before any of it is written. -/
def lift {σ α : Type} : Except EncodeError α → EStateM EncodeError σ α
  | .ok value => pure value
  | .error cause => throw cause

/-- One value. Where it cannot be written, nothing of it is. -/
def value {α : Type} (put : α → Except EncodeError Bytes) (item : α) : Writer Unit := do
  append (← lift (put item))

end Writer

end Telemetry.Wire
