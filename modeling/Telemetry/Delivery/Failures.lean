import Telemetry.Delivery.Backoff

namespace Telemetry.Delivery

/-! Failures in a row. A channel counts as failing after `limit` failed attempts without a success
between them, or once its first failure lies `window` back. -/

structure Failures where
  limit : Nat
  window : Nanos
  consecutive : Nat
  /-- When the first of the failures happened. -/
  since : Option Nanos
deriving DecidableEq, Repr

namespace Failures

/-- The largest number of failures that is counted. -/
def maxConsecutive : Nat := UInt32.size - 1

def start (limit : Nat) (window : Nanos) : Failures := ⟨max limit 1, window, 0, none⟩

def recordFailure (now : Nanos) (failures : Failures) : Failures :=
  { failures with
    consecutive := min (failures.consecutive + 1) maxConsecutive
    since := some (failures.since.getD now) }

def recordSuccess (failures : Failures) : Failures :=
  { failures with consecutive := 0, since := none }

def isFailing (now : Nanos) (failures : Failures) : Bool :=
  failures.limit ≤ failures.consecutive ||
    failures.since.any fun since => failures.window ≤ now - since

end Failures

end Telemetry.Delivery
