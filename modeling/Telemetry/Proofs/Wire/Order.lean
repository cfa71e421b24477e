import Telemetry.Proofs.Wire.Reading

namespace Telemetry.Wire

/-! The order of byte strings that are put together from fields. Fields of one width compare one
after the other, so do their beginnings, and big-endian numbers compare like the numbers. -/

theorem append_lt_append_iff {left right : Bytes} (width : left.length = right.length)
    (leftRest rightRest : Bytes) :
    left ++ leftRest < right ++ rightRest ↔ left < right ∨ left = right ∧ leftRest < rightRest := by
  induction left generalizing right with
  | nil =>
      cases right with
      | nil => simp
      | cons first right => simp at width
  | cons head tail induction =>
      cases right with
      | nil => simp at width
      | cons first right =>
          have tails := induction (Nat.succ.inj width)
          simp only [List.cons_append, List.cons_lt_cons_iff, List.cons.injEq, tails]
          grind

/-- A field is the beginning of what starts with a field of its width if the two are the same. -/
theorem prefix_append_iff {beginning front : Bytes} (width : beginning.length = front.length)
    (rest : Bytes) : beginning <+: front ++ rest ↔ front = beginning := by
  constructor
  · intro begins
    have whole := List.prefix_of_prefix_length_le begins (List.prefix_append front rest)
      (Nat.le_of_eq width)
    exact (whole.eq_of_length width).symm
  · rintro rfl
    exact List.prefix_append front rest

theorem prefix_append_append_iff {first front : Bytes} (width : first.length = front.length)
    (second rest : Bytes) :
    first ++ second <+: front ++ rest ↔ front = first ∧ second <+: rest := by
  constructor
  · intro begins
    have same := (prefix_append_iff width rest).mp ((List.prefix_append _ second).trans begins)
    rw [same, List.prefix_append_right_inj] at begins
    exact ⟨same, begins⟩
  · rintro ⟨rfl, begins⟩
    exact (List.prefix_append_right_inj front).mpr begins

/-- Digits of one weight compare before what stands behind them. -/
theorem mul_add_lt_mul_add_iff {weight low otherLow : Nat} (fits : low < weight)
    (otherFits : otherLow < weight) (high otherHigh : Nat) :
    low + weight * high < otherLow + weight * otherHigh ↔
      high < otherHigh ∨ high = otherHigh ∧ low < otherLow := by
  rcases Nat.lt_trichotomy high otherHigh with below | rfl | above
  · have step := Nat.mul_le_mul_left weight below
    rw [Nat.mul_succ] at step
    omega
  · omega
  · have step := Nat.mul_le_mul_left weight above
    rw [Nat.mul_succ] at step
    omega

theorem bigEndian_lt_bigEndian_iff (width left right : Nat) :
    bigEndian width left < bigEndian width right ↔ left % 256 ^ width < right % 256 ^ width := by
  induction width with
  | zero => simp [bigEndian, Nat.mod_one]
  | succ width induction =>
      have byte (value : Nat) : (UInt8.ofNat value).toNat = value % 256 := UInt8.toNat_ofNat'
      have weight : 0 < 256 ^ width := Nat.pow_pos (by decide)
      rw [bigEndian_succ, bigEndian_succ, List.cons_lt_cons_iff, induction, UInt8.lt_iff_toNat_lt,
        ← UInt8.toNat_inj, byte, byte, Nat.pow_succ, Nat.mod_mul, Nat.mod_mul,
        mul_add_lt_mul_add_iff (Nat.mod_lt _ weight) (Nat.mod_lt _ weight)]

theorem bigEndian_inj {width left right : Nat} (leftFits : left < 256 ^ width)
    (rightFits : right < 256 ^ width) :
    bigEndian width left = bigEndian width right ↔ left = right := by
  refine ⟨fun same => ?_, fun same => by rw [same]⟩
  rw [← ofBigEndian_bigEndian leftFits, ← ofBigEndian_bigEndian rightFits, same]

end Telemetry.Wire
