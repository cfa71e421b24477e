import Mathlib.Algebra.Group.Nat.Defs
import Telemetry.Delivery.Backoff

namespace Telemetry.Delivery

/-! How the delays of a backoff grow. They double from one attempt to the next until they reach the
bound, but stop doubling at the thirty-first attempt: a bound that is further away is never
reached. -/

/-- A delay that is doubled as many times as there were attempts, up to the bound. -/
def doubled (base bound attempt : Nat) : Nat := min (base * 2 ^ attempt) bound

theorem doubled_mono (base bound : Nat) {earlier later : Nat} (order : earlier ≤ later) :
    doubled base bound earlier ≤ doubled base bound later := by
  have powers : 2 ^ earlier ≤ 2 ^ later := Nat.pow_le_pow_right (by decide) order
  have products := Nat.mul_le_mul_left base powers
  rw [doubled, doubled]
  omega

theorem le_doubled {base bound : Nat} (bounded : base ≤ bound) (attempt : Nat) :
    base ≤ doubled base bound attempt := by
  have first := doubled_mono base bound (Nat.zero_le attempt)
  rwa [doubled, Nat.pow_zero, Nat.mul_one, Nat.min_eq_left bounded] at first

/-- More doublings make no difference where there is nothing to double or the bound is reached. -/
theorem doubled_eq_iff (base bound : Nat) {earlier later : Nat} (order : earlier < later) :
    doubled base bound earlier = doubled base bound later ↔
      base = 0 ∨ bound ≤ base * 2 ^ earlier := by
  have step : 2 ^ (earlier + 1) ≤ 2 ^ later := Nat.pow_le_pow_right (by decide) order
  rw [Nat.pow_succ] at step
  have products := Nat.mul_le_mul_left base step
  have positive : 0 < 2 ^ earlier := Nat.two_pow_pos earlier
  rw [doubled, doubled]
  rcases Nat.eq_zero_or_pos base with none | some
  · simp [none]
  · have grows : 0 < base * 2 ^ earlier := Nat.mul_pos some positive
    rw [← Nat.mul_assoc] at products
    omega

/-- A product that no duration can hold lies above the bound. -/
theorem delay_eq_doubled {backoff : Backoff} (fits : backoff.max ≤ maxDuration) (attempt : Nat) :
    backoff.delay attempt = doubled backoff.base backoff.max (min attempt 31) := by
  rw [Backoff.delay, Backoff.factor, Nat.one_shiftLeft, doubled]
  split
  next overflows => rw [Nat.min_eq_right (Nat.le_of_lt (Nat.lt_of_le_of_lt fits overflows))]
  next => rfl

/-- The delays of a backoff, attempt by attempt. -/
structure Grows (base bound : Nanos) (delay : Nat → Nanos) : Prop where
  eq_doubled : ∀ attempt, delay attempt = doubled base bound (min attempt 31)
  /-- A late attempt waits for less than its doublings where these have not reached the bound. -/
  doubles_iff : ∀ attempt, delay attempt = doubled base bound attempt ↔
    attempt ≤ 31 ∨ base = 0 ∨ bound ≤ base * 2 ^ 31
  mono : ∀ {earlier later}, earlier ≤ later → delay earlier ≤ delay later
  base_le : ∀ attempt, base ≤ delay attempt
  le_bound : ∀ attempt, delay attempt ≤ bound

/-- Delays never shrink and stay between the first one and the bound; they are exactly the doublings
of the first one up to the bound, unless the bound is more than thirty-one doublings away. -/
theorem delay_grows {base limit : Nanos} (baseFits : base ≤ maxDuration)
    (limitFits : limit ≤ maxDuration) :
    Grows base (max base limit) (Backoff.ofDelays base limit).delay := by
  let backoff := Backoff.ofDelays base limit
  have raised : backoff.max = max base limit := Nat.max_comm limit base
  have fits : backoff.max ≤ maxDuration := raised ▸ Nat.max_le.mpr ⟨baseFits, limitFits⟩
  have delays (attempt : Nat) :
      backoff.delay attempt = doubled base (max base limit) (min attempt 31) := by
    rw [delay_eq_doubled fits, raised]
    rfl
  refine ⟨delays, fun attempt => ?_, fun order => ?_, fun attempt => ?_, fun attempt => ?_⟩
  · rw [delays]
    rcases Nat.lt_or_ge 31 attempt with late | early
    · rw [Nat.min_eq_right (Nat.le_of_lt late), doubled_eq_iff _ _ late]
      exact (or_iff_right (Nat.not_le.mpr late)).symm
    · simp [early]
  · rw [delays, delays]
    exact doubled_mono base _ (by omega)
  · rw [delays]
    exact le_doubled (Nat.le_max_left base limit) _
  · rw [delays]
    exact Nat.min_le_right _ _

theorem delay_grows_distantBound :
    1 ≤ maxDuration ∧ 2 ^ 33 ≤ maxDuration ∧
      Grows 1 (max 1 (2 ^ 33)) (Backoff.ofDelays 1 (2 ^ 33)).delay ∧
      [0, 10, 31, 32, 200].map (Backoff.ofDelays 1 (2 ^ 33)).delay =
        [1, 1024, 2 ^ 31, 2 ^ 31, 2 ^ 31] :=
  ⟨by decide, by decide, delay_grows (by decide) (by decide), by decide⟩

/-- A backoff that starts with a nanosecond stops at half of a bound of `2 ^ 32` nanoseconds. -/
theorem distant_bound_not_reached :
    ¬ ∀ base limit attempt, base ≤ maxDuration → limit ≤ maxDuration → attempt < 2 ^ 32 →
      (Backoff.ofDelays base limit).delay attempt = min (base * 2 ^ attempt) (max base limit) := by
  intro doubles
  have late := doubles 1 (2 ^ 32) 32 (by decide) (by decide) (by decide)
  exact absurd late (by decide)

end Telemetry.Delivery
