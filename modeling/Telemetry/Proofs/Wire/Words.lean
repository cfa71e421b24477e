import Mathlib.Data.Nat.Bitwise
import Telemetry.Proofs.Wire.Varint
import Telemetry.Wire.Words

namespace Telemetry.Wire.Words

/-! Shifts, masks and exclusive or on machine words compute what division, remainder and addition
compute on numbers. The groups of a number never overlap and never leave the word: the only group
that could, the tenth one, is refused before it is put in place. -/

/-! ### Groups -/

theorem toNat_and_127 (byte : UInt8) : (byte &&& 0x7f).toNat = byte.toNat % 128 := by
  rw [UInt8.toNat_and]
  exact Nat.and_two_pow_sub_one_eq_mod byte.toNat 7

/-- The high bit is clear in the bytes below 128. -/
theorem and_128_eq_zero_iff {byte : UInt8} : byte &&& 0x80 = 0 ↔ byte.toNat < 128 := by
  have masked : (byte &&& 0x80).toNat = byte.toNat / 128 % 2 * 128 := by
    rw [UInt8.toNat_and, ← Nat.toNat_testBit byte.toNat 7]
    exact Nat.and_two_pow byte.toNat 7
  have small := byte.toNat_lt
  rw [← UInt8.toNat_inj, masked]
  change byte.toNat / 128 % 2 * 128 = 0 ↔ _
  omega

/-- Setting bits above all those that are set is an addition. -/
theorem toNat_or_shiftLeft {value group shift : UInt64} (inside : shift.toNat < 64)
    (free : value.toNat < 2 ^ shift.toNat) (fits : group.toNat * 2 ^ shift.toNat < 2 ^ 64) :
    (value ||| group <<< shift).toNat = value.toNat + group.toNat <<< shift.toNat := by
  rw [UInt64.toNat_or, UInt64.toNat_shiftLeft, Nat.mod_eq_of_lt inside, Nat.shiftLeft_eq,
    Nat.mod_eq_of_lt fits, ← Nat.shiftLeft_eq, Nat.or_comm, ← Nat.shiftLeft_add_eq_or_of_lt free,
    Nat.add_comm]

/-! ### Writing -/

/-- The low seven bits under a set high bit. -/
theorem or_128_eq (byte : UInt8) :
    byte &&& 0x7f ||| 0x80 = UInt8.ofNat (byte.toNat % 128 + 128) := by
  have short : byte.toNat % 128 < 128 := Nat.mod_lt _ (by decide)
  have disjoint : 128 + byte.toNat % 128 = 128 ||| byte.toNat % 128 :=
    @Nat.two_pow_add_eq_or_of_lt 7 _ short 1
  have small : byte.toNat % 128 + 128 < 2 ^ 8 := by omega
  rw [← UInt8.toNat_inj, UInt8.toNat_or, toNat_and_127, Nat.or_comm, UInt8.toNat_ofNat',
    Nat.mod_eq_of_lt small, Nat.add_comm]
  exact disjoint.symm

theorem putVlong_eq (value : UInt64) : putVlong value = Wire.putVlong value := by
  rw [Wire.putVlong]
  fun_induction putVlong value with
  | case1 value last =>
      have small : value.toNat < 128 := UInt64.lt_iff_toNat_lt.mp last
      rw [varint, if_pos small, UInt8.ofNat_uInt64ToNat]
  | case2 value long induction =>
      have large : ¬ value.toNat < 128 := fun small => long (UInt64.lt_iff_toNat_lt.mpr small)
      have group : value.toUInt8.toNat % 128 = value.toNat % 128 := by
        rw [UInt64.toNat_toUInt8]
        exact Nat.mod_mod_of_dvd value.toNat (by decide)
      have others : (value >>> 7).toNat = value.toNat / 128 := by
        rw [UInt64.toNat_shiftRight]
        exact Nat.shiftRight_eq_div_pow value.toNat 7
      rw [varint, if_neg large, induction, others, or_128_eq, group]

theorem putVint_eq (value : UInt32) : putVint value = Wire.putVint value := by
  rw [putVint, putVlong_eq, Wire.putVlong, UInt32.toNat_toUInt64, Wire.putVint]

section Zigzag

variable {width : Nat}

/-- A shift by all places but one leaves the sign in every place. -/
theorem sshiftRight_sign (value : BitVec (width + 1)) :
    value.sshiftRight width = if value.msb then BitVec.allOnes (width + 1) else 0 := by
  have none (value : BitVec (width + 1)) (positive : value.msb = false) : value >>> width = 0 := by
    rw [BitVec.msb_eq_false_iff_two_mul_lt, Nat.pow_succ] at positive
    rw [← BitVec.toNat_inj, BitVec.toNat_ushiftRight, Nat.shiftRight_eq_div_pow,
      Nat.div_eq_of_lt (by omega)]
    rfl
  cases sign : value.msb with
  | false => rw [BitVec.sshiftRight_eq_of_msb_false sign, none value sign, if_neg nofun]
  | true =>
      have flipped : (~~~value).msb = false := by rw [BitVec.msb_not]; simp [sign]
      rw [BitVec.sshiftRight_eq_of_msb_true sign, none _ flipped, if_pos rfl]
      exact BitVec.not_zero

/-- Moved up by one place, a number is doubled; below zero, where the sign is in every place,
exclusive or flips all bits. -/
theorem toNat_zigzag (value : BitVec (width + 1)) :
    (value <<< 1 ^^^ value.sshiftRight width).toNat = zigzag value.toInt := by
  have small := value.isLt
  have doubled : (value <<< 1).toNat = value.toNat * 2 % 2 ^ (width + 1) := by
    rw [BitVec.toNat_shiftLeft, Nat.shiftLeft_eq, Nat.pow_one]
  rw [sshiftRight_sign, BitVec.toInt_eq_msb_cond]
  cases sign : value.msb with
  | false =>
      rw [BitVec.msb_eq_false_iff_two_mul_lt] at sign
      rw [if_neg nofun, if_neg nofun]
      change (value <<< 1 ^^^ 0#_).toNat = 2 * value.toNat
      rw [BitVec.xor_zero, doubled, Nat.mod_eq_of_lt (by omega), Nat.mul_comm]
  | true =>
      rw [BitVec.msb_eq_true_iff_two_mul_ge] at sign
      rw [if_pos rfl, if_pos rfl, BitVec.xor_allOnes, BitVec.toNat_not, doubled]
      have below : (value.toNat : Int) - (2 ^ (width + 1) : Nat) =
          .negSucc (2 ^ (width + 1) - value.toNat - 1) := by
        omega
      rw [below, zigzag]
      have wrapped : value.toNat * 2 % 2 ^ (width + 1) = value.toNat * 2 - 2 ^ (width + 1) := by
        rw [Nat.mod_eq_sub_mod (by omega), Nat.mod_eq_of_lt (by omega)]
      omega

theorem toNat_and_one (value : BitVec (width + 1)) : (value &&& 1).toNat = value.toNat % 2 := by
  have one : (1 : BitVec (width + 1)).toNat = 1 := BitVec.toNat_one (Nat.succ_pos width)
  rw [BitVec.toNat_and, one, Nat.and_one_is_mod]

/-- The lowest bit, negated, is in every place what exclusive or needs to flip the other bits. -/
theorem toInt_unzigzag (value : BitVec (width + 1)) :
    (value >>> 1 ^^^ -(value &&& 1)).toInt = unzigzag value.toNat := by
  have lowest := toNat_and_one value
  have small := value.isLt
  have halved : (value >>> 1).toNat = value.toNat / 2 := by
    rw [BitVec.toNat_ushiftRight, Nat.shiftRight_eq_div_pow, Nat.pow_one]
  rw [unzigzag]
  split
  next even =>
    have clear : value &&& 1 = 0#(width + 1) := by
      rw [← BitVec.toNat_inj, lowest, even]
      rfl
    rw [clear, BitVec.neg_zero, BitVec.xor_zero, BitVec.toInt_eq_toNat_cond, halved,
      if_pos (by omega)]
    rfl
  next odd =>
    have set : value &&& 1 = 1#(width + 1) := by
      rw [← BitVec.toNat_inj, lowest, BitVec.toNat_one (Nat.succ_pos width)]
      omega
    have complement : (~~~(value >>> 1)).toNat = 2 ^ (width + 1) - 1 - value.toNat / 2 := by
      rw [BitVec.toNat_not, halved]
    rw [set, BitVec.neg_one_eq_allOnes, BitVec.xor_allOnes, BitVec.toInt_eq_toNat_cond, complement,
      if_neg (by omega)]
    omega

end Zigzag

theorem toNat_zigzag32 (value : Int32) : (zigzag32 value).toNat = zigzag value.toInt := by
  have bits : (zigzag32 value).toBitVec =
      value.toBitVec <<< 1 ^^^ value.toBitVec.sshiftRight 31 := by
    rw [zigzag32, Int32.toBitVec_toUInt32, Int32.toBitVec_xor, Int32.toBitVec_shiftLeft,
      Int32.toBitVec_shiftRight]
    rfl
  exact (congrArg BitVec.toNat bits).trans (toNat_zigzag value.toBitVec)

theorem toNat_zigzag64 (value : Int64) : (zigzag64 value).toNat = zigzag value.toInt := by
  have bits : (zigzag64 value).toBitVec =
      value.toBitVec <<< 1 ^^^ value.toBitVec.sshiftRight 63 := by
    rw [zigzag64, Int64.toBitVec_toUInt64, Int64.toBitVec_xor, Int64.toBitVec_shiftLeft,
      Int64.toBitVec_shiftRight]
    rfl
  exact (congrArg BitVec.toNat bits).trans (toNat_zigzag value.toBitVec)

theorem putSvint_eq (value : Int32) : putSvint value = Wire.putSvint value := by
  rw [putSvint, putVint_eq, Wire.putVint, toNat_zigzag32, Wire.putSvint]

theorem putSvlong_eq (value : Int64) : putSvlong value = Wire.putSvlong value := by
  rw [putSvlong, putVlong_eq, Wire.putVlong, toNat_zigzag64, Wire.putSvlong]

/-! ### Reading -/

theorem unzigzag32_eq (value : UInt32) : unzigzag32 value = Int32.ofInt (unzigzag value.toNat) := by
  have bits : (unzigzag32 value).toBitVec =
      value.toBitVec >>> 1 ^^^ -(value.toBitVec &&& 1) := by
    rw [unzigzag32, Int32.toBitVec_xor, Int32.toBitVec_neg, UInt32.toBitVec_toInt32,
      UInt32.toBitVec_toInt32, UInt32.toBitVec_shiftRight, UInt32.toBitVec_and]
    rfl
  have number := (congrArg BitVec.toInt bits).trans (toInt_unzigzag value.toBitVec)
  exact (Int32.ofInt_toInt _).symm.trans (congrArg Int32.ofInt number)

theorem unzigzag64_eq (value : UInt64) : unzigzag64 value = Int64.ofInt (unzigzag value.toNat) := by
  have bits : (unzigzag64 value).toBitVec =
      value.toBitVec >>> 1 ^^^ -(value.toBitVec &&& 1) := by
    rw [unzigzag64, Int64.toBitVec_xor, Int64.toBitVec_neg, UInt64.toBitVec_toInt64,
      UInt64.toBitVec_toInt64, UInt64.toBitVec_shiftRight, UInt64.toBitVec_and]
    rfl
  have number := (congrArg BitVec.toInt bits).trans (toInt_unzigzag value.toBitVec)
  exact (Int64.ofInt_toInt _).symm.trans (congrArg Int64.ofInt number)

section Groups

variable {limit budget index : Nat} {shift value group : UInt64}

/-- A group that is not refused stays inside the word. -/
theorem group_fits (place : index ≤ 9) (short : group.toNat < 128)
    (passed : ¬ (7 * index = 63 ∧ 1 < group.toNat)) :
    group.toNat * 2 ^ (7 * index) < 2 ^ 64 := by
  rcases Nat.eq_or_lt_of_le place with rfl | before
  · omega
  · have weight : 2 ^ (7 * index) ≤ 2 ^ 56 := Nat.pow_le_pow_right (by decide) (by omega)
    have bound := Nat.mul_le_mul (Nat.le_of_lt short) weight
    omega

/-- The invariant of the loop: the bits set so far lie below the place of the next group. -/
theorem groups_eq (place : shift.toNat = 7 * index) (inside : index + budget ≤ 10)
    (free : value.toNat < 2 ^ (7 * index)) :
    UInt64.toNat <$> groups limit budget shift value =
      Reader.groups limit budget (7 * index) value.toNat := by
  induction budget generalizing index shift value with
  | zero => rfl
  | succ budget induction =>
      rw [groups, Reader.groups, map_bind]
      refine bind_congr fun next => ?_
      have group : (next &&& 0x7f).toUInt64.toNat = next.toNat % 128 := by
        rw [UInt8.toNat_toUInt64, toNat_and_127]
      have short : next.toNat % 128 < 128 := Nat.mod_lt _ (by decide)
      have top : shift = 63 ∧ 1 < (next &&& 0x7f).toUInt64 ↔
          7 * index = 63 ∧ 1 < next.toNat % 128 := by
        rw [← UInt64.toNat_inj, UInt64.lt_iff_toNat_lt, group, place]
        rfl
      simp only [top, and_128_eq_zero_iff]
      split
      next => rfl
      next passed =>
        rw [← group] at short passed
        have fits := group_fits (by omega) short passed
        rw [← place] at free fits
        have set := toNat_or_shiftLeft (by omega) free fits
        rw [group, place] at set
        rw [← set]
        split
        next => rw [map_pure]
        next =>
          have shifted : (shift + 7).toNat = 7 * (index + 1) := by
            rw [UInt64.toNat_add, place]
            change (7 * index + 7) % 2 ^ 64 = _
            omega
          refine induction shifted (by omega) ?_
          rw [set]
          rw [place] at free
          exact add_group_lt free (group ▸ short)

end Groups

theorem vlong_eq : vlong = Reader.vlong := by
  have loop := @groups_eq Reader.maxVlongBytes Reader.maxVlongBytes 0 0 0 rfl (by decide)
    (by decide)
  rw [Reader.vlong]
  change _ = UInt64.ofNat <$> Reader.groups _ _ (7 * 0) (0 : UInt64).toNat
  rw [← loop, Functor.map_map]
  simp only [UInt64.ofNat_toNat, id_map']
  rfl

theorem vint_eq : vint = Reader.vint := by
  have loop := @groups_eq Reader.maxVintBytes Reader.maxVintBytes 0 0 0 rfl (by decide)
    (by decide)
  rw [Reader.vint]
  change _ = Reader.groups _ _ (7 * 0) (0 : UInt64).toNat >>= _
  rw [← loop, bind_map_left, vint]
  refine bind_congr fun value => ?_
  have range : value ≤ 0xffffffff ↔ value.toNat < UInt32.size := by
    rw [UInt64.le_iff_toNat_le]
    exact Nat.lt_succ_iff.symm
  simp only [range, UInt32.ofNat_uInt64ToNat]

theorem svlong_eq : svlong = Reader.svlong := by
  rw [svlong, vlong_eq, Reader.svlong, funext unzigzag64_eq]

theorem svint_eq : svint = Reader.svint := by
  rw [svint, vint_eq, Reader.svint, funext unzigzag32_eq]

end Telemetry.Wire.Words
