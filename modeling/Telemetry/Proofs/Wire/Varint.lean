import Telemetry.Proofs.Wire.Reading

namespace Telemetry.Wire

/-! Reading back varints. The reader collects groups of seven bits into a number that never
leaves 64 bits; the zigzag map and its inverse carry this over to signed integers. -/

theorem unzigzag_zigzag (value : Int) : unzigzag (zigzag value) = value := by
  cases value with
  | ofNat value =>
      have even : 2 * value % 2 = 0 := by omega
      have half : 2 * value / 2 = value := by omega
      rw [zigzag, unzigzag, if_pos even, half]
  | negSucc value =>
      have odd : ¬ (2 * value + 1) % 2 = 0 := by omega
      have half : (2 * value + 1) / 2 = value := by omega
      rw [zigzag, unzigzag, if_neg odd, half]

theorem zigzag_lt (bound : Nat) {value : Int} (low : -(bound : Int) ≤ value)
    (high : value < bound) : zigzag value < 2 * bound := by
  cases value with
  | ofNat value =>
      simp only [zigzag, Int.ofNat_eq_natCast] at *
      omega
  | negSucc value =>
      simp only [zigzag] at *
      omega

theorem length_varint_pos (value : Nat) : 0 < (varint value).length := by
  rw [varint]
  split <;> simp

theorem length_varint_le (groups : Nat) {value : Nat} (fits : value < 128 ^ (groups + 1)) :
    (varint value).length ≤ groups + 1 := by
  induction groups generalizing value with
  | zero =>
      have last : value < 128 := by simpa using fits
      rw [varint, if_pos last]
      exact Nat.le_refl 1
  | succ groups induction =>
      rw [varint]
      split
      · simp
      · have others : value / 128 < 128 ^ (groups + 1) := by
          rw [Nat.pow_succ] at fits
          omega
        have rest := induction others
        rw [List.length_cons]
        omega

/-- A group more, above those that are there. -/
theorem add_group_lt {bits value group : Nat} (free : value < 2 ^ bits) (short : group < 128) :
    value + group <<< bits < 2 ^ (bits + 7) := by
  have weight := Nat.mul_le_mul_right (2 ^ bits) short
  rw [Nat.succ_mul] at weight
  rw [Nat.shiftLeft_eq, Nat.pow_add]
  omega

namespace Reader

section Groups

variable {limit budget bits value number : Nat}

/-- Only at bit 63 can a group be too large, and there a number below 2 ^ 64 has one bit left. -/
private theorem group_fits (fits : number * 2 ^ bits < 2 ^ 64) :
    ¬ (bits = 63 ∧ 1 < number % 128) := by
  rintro ⟨rfl, large⟩
  omega

private theorem reads_lastGroup (last : number < 128) (fits : number * 2 ^ bits < 2 ^ 64) :
    Reads (groups limit (budget + 1) bits value) [UInt8.ofNat number]
      (value + number * 2 ^ bits) := by
  have byte : (UInt8.ofNat number).toNat = number := by
    rw [UInt8.toNat_ofNat', Nat.mod_eq_of_lt (by omega)]
  have group : number % 128 = number := Nat.mod_eq_of_lt last
  intro rest
  rw [groups, (reads_byte _).run_bind, byte, if_neg (group_fits fits), if_pos last, group,
    Nat.shiftLeft_eq]
  rfl

private theorem reads_nextGroup {bytes : Bytes} {result : Nat}
    (fits : number * 2 ^ bits < 2 ^ 64)
    (others : Reads (groups limit budget (bits + 7) (value + number % 128 * 2 ^ bits)) bytes
      result) :
    Reads (groups limit (budget + 1) bits value) (UInt8.ofNat (number % 128 + 128) :: bytes)
      result := by
  have byte : (UInt8.ofNat (number % 128 + 128)).toNat = number % 128 + 128 := by
    rw [UInt8.toNat_ofNat', Nat.mod_eq_of_lt (by omega)]
  have group : (number % 128 + 128) % 128 = number % 128 := by omega
  have continues : ¬ number % 128 + 128 < 128 := by omega
  intro rest
  change groups limit (budget + 1) bits value ([_] ++ (bytes ++ rest)) = _
  rw [groups, (reads_byte _).run_bind, byte, group, if_neg (group_fits fits), if_neg continues,
    Nat.shiftLeft_eq]
  exact others rest

/-- The invariant of the loop: what the remaining groups spell, weighted by the bits before them,
is added to what has been read. -/
theorem reads_groups (short : number < 128 ^ (budget + 1)) (fits : number * 2 ^ bits < 2 ^ 64) :
    Reads (groups limit (budget + 1) bits value) (varint number) (value + number * 2 ^ bits) := by
  induction budget generalizing bits value number with
  | zero =>
      have last : number < 128 := by simpa using short
      rw [varint, if_pos last]
      exact reads_lastGroup last fits
  | succ budget induction =>
      by_cases last : number < 128
      · rw [varint, if_pos last]
        exact reads_lastGroup last fits
      · have weight : number / 128 * 2 ^ (bits + 7) + number % 128 * 2 ^ bits =
            number * 2 ^ bits := by
          have parts := Nat.div_add_mod number 128
          rw [Nat.pow_add]
          grind
        have others : Reads
            (groups limit (budget + 1) (bits + 7) (value + number % 128 * 2 ^ bits))
            (varint (number / 128))
            (value + number % 128 * 2 ^ bits + number / 128 * 2 ^ (bits + 7)) :=
          induction (by rw [Nat.pow_succ] at short; omega) (by omega)
        rw [Nat.add_assoc, Nat.add_comm (_ * _), weight] at others
        rw [varint, if_neg last]
        exact reads_nextGroup fits others

end Groups

/-- A number of 32 bits takes at most five groups. -/
private theorem reads_vint_ofNat {number : Nat} (fits : number < 2 ^ 32) :
    Reads vint (varint number) (UInt32.ofNat number) := by
  have reads : Reads (groups maxVintBytes maxVintBytes 0 0) (varint number)
      (0 + number * 2 ^ 0) := by
    rw [maxVintBytes]
    exact reads_groups (by omega) (by omega)
  rw [Nat.pow_zero, Nat.mul_one, Nat.zero_add] at reads
  have small : number < UInt32.size := fits
  intro rest
  rw [vint, reads.run_bind, if_pos small]
  rfl

/-- A number of 64 bits takes at most ten groups. -/
private theorem reads_vlong_ofNat {number : Nat} (fits : number < 2 ^ 64) :
    Reads vlong (varint number) (UInt64.ofNat number) := by
  have reads : Reads (groups maxVlongBytes maxVlongBytes 0 0) (varint number)
      (0 + number * 2 ^ 0) := by
    rw [maxVlongBytes]
    exact reads_groups (by omega) (by omega)
  rw [Nat.pow_zero, Nat.mul_one, Nat.zero_add] at reads
  exact reads.map UInt64.ofNat

theorem reads_vint (value : UInt32) : Reads vint (putVint value) value := by
  have reads := reads_vint_ofNat value.toNat_lt
  rwa [UInt32.ofNat_toNat] at reads

theorem reads_vlong (value : UInt64) : Reads vlong (putVlong value) value := by
  have reads := reads_vlong_ofNat value.toNat_lt
  rwa [UInt64.ofNat_toNat] at reads

theorem reads_svint (value : Int32) : Reads svint (putSvint value) value := by
  have fits : zigzag value.toInt < 2 ^ 32 :=
    zigzag_lt (2 ^ 31) value.le_toInt value.toInt_lt
  have reads := (reads_vint_ofNat fits).map fun bits => Int32.ofInt (unzigzag bits.toNat)
  rwa [UInt32.toNat_ofNat_of_lt' fits, unzigzag_zigzag, Int32.ofInt_toInt] at reads

theorem reads_svlong (value : Int64) : Reads svlong (putSvlong value) value := by
  have fits : zigzag value.toInt < 2 ^ 64 :=
    zigzag_lt (2 ^ 63) value.le_toInt value.toInt_lt
  have reads := (reads_vlong_ofNat fits).map fun bits => Int64.ofInt (unzigzag bits.toNat)
  rwa [UInt64.toNat_ofNat_of_lt' fits, unzigzag_zigzag, Int64.ofInt_toInt] at reads

theorem readsBack_svint : ReadsBack (fun value => .ok (putSvint value)) svint := by
  intro value bytes written
  cases written
  exact reads_svint value

/-- A number of sixteen bits stands where a signed integer of 32 bits is written. -/
theorem reads_narrow16 (field : String) (value : Int16) :
    Reads (narrow16 field) (putSvint value.toInt32) value := by
  have same : value.toInt32.toInt = value.toInt := by simp
  have fits : -32768 ≤ value.toInt ∧ value.toInt ≤ 32767 := by
    have low := value.le_toInt
    have high := value.toInt_lt
    omega
  intro rest
  rw [narrow16, (reads_svint _).run_bind, same, if_pos fits, Int16.ofInt_toInt]
  rfl

end Reader

end Telemetry.Wire
