namespace Telemetry.Delivery

/-! Durations are exact counts of nanoseconds. A backoff doubles its delay with every attempt. -/

abbrev Nanos := Nat

/-- The longest representable duration: the seconds fill 64 bits. -/
def maxDuration : Nanos := (UInt64.size - 1) * 1000000000 + 999999999

def nanosPerMilli : Nat := 1000000

def ofMillis (millis : Nat) : Nanos := millis * nanosPerMilli

def toMillis (duration : Nanos) : Nat := duration / nanosPerMilli

/-- A first delay and the bound that its doublings stay below. -/
structure Backoff where
  base : Nanos
  max : Nanos
  base_le_max : base ≤ max
deriving DecidableEq

namespace Backoff

/-- A bound below the first delay is raised to it. -/
def ofDelays (base limit : Nanos) : Backoff where
  base := base
  max := Nat.max limit base
  base_le_max := Nat.le_max_right limit base

/-- The factor of an attempt has 32 bits, so it stops doubling at the thirty-first. -/
def factor (attempt : Nat) : Nat := 1 <<< min attempt 31

/-- The delay before attempt `attempt`, counted from zero. A delay that no duration can hold is
the bound. -/
def delay (backoff : Backoff) (attempt : Nat) : Nanos :=
  let product := backoff.base * factor attempt
  if maxDuration < product then backoff.max else min product backoff.max

end Backoff

end Telemetry.Delivery
