namespace Telemetry.RowKey

/-! Elapsed times in sixteen slots, slow traces in the high ones. A slot stands in the key of a
trace, so that a scan can leave out fast traces without reading them. -/

/-- The exclusive upper bounds, in millis, of all slots but the last. -/
def elapsedBounds : List Int :=
  [100, 200, 300, 500, 1000, 2000, 3000, 5000, 8000, 10000, 20000, 30000, 60000, 120000, 300000]

/-- How many of the given bounds an elapsed time reaches before the first one above it. -/
def slotWithin (elapsed : Int) : List Int → Nat
  | [] => 0
  | bound :: bounds => if elapsed < bound then 0 else slotWithin elapsed bounds + 1

def elapsedSlot (elapsed : Int) : UInt8 := UInt8.ofNat (slotWithin elapsed elapsedBounds)

/-- The first and the last slot of the times between two bounds, which may come in either order. -/
def elapsedSlots (oneEnd otherEnd : Int) : UInt8 × UInt8 :=
  (elapsedSlot (min oneEnd otherEnd), elapsedSlot (max oneEnd otherEnd))

end Telemetry.RowKey
