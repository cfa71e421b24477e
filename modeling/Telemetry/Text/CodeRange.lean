namespace Telemetry.Text

/-! Sets of characters, as runs of code points in ascending order. -/

structure CodeRange where
  first : Nat
  last : Nat
deriving DecidableEq, Repr

namespace CodeRange

/-- Whether one of the ranges holds the code point. The ranges ascend, so the search ends at the
first one that begins beyond it. -/
def cover (code : Nat) : List CodeRange → Bool
  | [] => false
  | range :: ranges => range.first ≤ code && (code ≤ range.last || cover code ranges)

end CodeRange

end Telemetry.Text
