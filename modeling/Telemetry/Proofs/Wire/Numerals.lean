import Mathlib.Data.Nat.Size
import Telemetry.Proofs.Wire.Shortest
import Telemetry.Proofs.Wire.Words

namespace Telemetry.Wire

/-! Which byte strings varints are. A numeral is a row of bytes with their high bits set and a last
one whose high bit is clear. Readers accept the numerals that are short enough and stay inside their
word, and they tell data that ends inside a numeral from data that can never become one. -/

/-- The grammar of numbers in at most `limit` groups. -/
inductive Numeral : (limit : Nat) → Bytes → Prop where
  | last {limit : Nat} {byte : UInt8} (clear : byte.toNat < 128) : Numeral (limit + 1) [byte]
  | more {limit : Nat} {byte : UInt8} {bytes : Bytes} (set : 128 ≤ byte.toNat)
      (others : Numeral limit bytes) : Numeral (limit + 1) (byte :: bytes)

/-- The number that groups of seven bits spell, the lowest group first. -/
def ofGroups : Bytes → Nat
  | [] => 0
  | byte :: bytes => byte.toNat % 128 + 128 * ofGroups bytes

/-- All high bits are set, so another group would have to follow. -/
def Unfinished (bytes : Bytes) : Prop := ∀ byte ∈ bytes, 128 ≤ byte.toNat

/-- The data ends before its number does. -/
def CutShort (limit : Nat) (bytes : Bytes) : Prop := bytes.length < limit ∧ Unfinished bytes

/-- What a reader of numbers makes of all data. It succeeds exactly where the data begins with a
numeral of at most `limit` groups that `fits` holds of; it gives the number that the numeral spells
and stops behind it. All other data is cut short or malformed. -/
structure ReadsNumerals {α : Type} (item : Reader α) (limit : Nat) (fits : Bytes → Prop)
    (number : α → Nat) : Prop where
  reads : ∀ numeral rest, Numeral limit numeral → fits numeral →
    ∃ value, item (numeral ++ rest) = .ok value rest ∧ number value = ofGroups numeral
  accepts : ∀ bytes value rest, item bytes = .ok value rest →
    ∃ numeral, bytes = numeral ++ rest ∧ Numeral limit numeral ∧ fits numeral
  cutShort : ∀ bytes, CutShort limit bytes → item bytes = .error (.bufferUnderflow 1 0) []
  malformed : ∀ bytes, ¬ (∃ numeral, numeral <+: bytes ∧ Numeral limit numeral ∧ fits numeral) →
    ¬ CutShort limit bytes → ∃ cause rest, item bytes = .error (.invalidFormat cause) rest

/-- What is written is read back, whatever stands behind it. It has a group for every seven bits of
its number and for those that are left, one at least, and no byte string that gives the value is
shorter. -/
structure WritesShortest {α : Type} (put : α → Bytes) (item : Reader α) (number : α → Nat) :
    Prop where
  readsBack : ∀ value, item.Reads (put value) value
  length_eq : ∀ value, (put value).length = max 1 (((number value).size + 6) / 7)
  shortest : ∀ bytes value rest, item bytes = .ok value rest →
    (put value).length + rest.length ≤ bytes.length

/-! ### Writing -/

/-- A group has seven bits, whatever stands above it. -/
theorem size_of_not_lt {value : Nat} (large : ¬ value < 128) :
    value.size = (value / 128).size + 7 := by
  have positive : 0 < (value / 128).size := Nat.size_pos.mpr (by omega)
  have below := Nat.lt_size_self (value / 128)
  have above : 2 ^ ((value / 128).size - 1) ≤ value / 128 := Nat.lt_size.mp (by omega)
  apply Nat.le_antisymm
  · rw [Nat.size_le, Nat.pow_add]
    omega
  · have longer : (value / 128).size - 1 + 7 < value.size := by
      rw [Nat.lt_size, Nat.pow_add]
      omega
    omega

theorem length_varint (value : Nat) : (varint value).length = max 1 ((value.size + 6) / 7) := by
  fun_induction varint value with
  | case1 value small =>
      have bits : value.size ≤ 7 := Nat.size_le.mpr small
      rw [List.length_singleton]
      omega
  | case2 value large induction =>
      have positive : 0 < (value / 128).size := Nat.size_pos.mpr (by omega)
      rw [List.length_cons, induction, size_of_not_lt large]
      omega

section Writing

variable {α : Type} {item : Reader α} {put : α → Bytes} {number : α → Nat}

theorem WritesShortest.of_takes (forms : ∀ value, put value = varint (number value))
    (readsBack : ∀ value, item.Reads (put value) value)
    (takes : item.Takes fun value taken => Tightens True (put value) taken) :
    WritesShortest put item number where
  readsBack := readsBack
  length_eq value := by rw [forms, length_varint]
  shortest bytes value rest read := by
    rcases takes read with ⟨taken, rfl, tightens⟩
    rw [List.length_append]
    exact Nat.add_le_add_right tightens.length_le _

end Writing

/-! ### Reading -/

/-- Any data begins with a numeral, ends inside one, or has too many high bits set. -/
theorem numeral_cases (limit : Nat) (bytes : Bytes) :
    (∃ numeral rest, bytes = numeral ++ rest ∧ Numeral limit numeral) ∨ CutShort limit bytes ∨
      ∃ groups rest, bytes = groups ++ rest ∧ groups.length = limit ∧ Unfinished groups := by
  induction limit generalizing bytes with
  | zero => exact .inr (.inr ⟨[], bytes, rfl, rfl, nofun⟩)
  | succ limit induction =>
      cases bytes with
      | nil => exact .inr (.inl ⟨Nat.succ_pos limit, nofun⟩)
      | cons byte bytes =>
          by_cases clear : byte.toNat < 128
          · exact .inl ⟨[byte], bytes, rfl, .last clear⟩
          · have set := Nat.le_of_not_lt clear
            rcases induction bytes with ⟨numeral, rest, rfl, closed⟩ | ⟨short, unfinished⟩ |
              ⟨groups, rest, rfl, length, unfinished⟩
            · exact .inl ⟨byte :: numeral, rest, rfl, .more set closed⟩
            · exact .inr (.inl ⟨Nat.succ_lt_succ short, List.forall_mem_cons.mpr ⟨set, unfinished⟩⟩)
            · exact .inr (.inr ⟨byte :: groups, rest, rfl, congrArg (· + 1) length,
                List.forall_mem_cons.mpr ⟨set, unfinished⟩⟩)

theorem Numeral.limit_pos {limit : Nat} {numeral : Bytes} (closed : Numeral limit numeral) :
    0 < limit := by
  cases closed <;> exact Nat.succ_pos _

theorem Numeral.length_le {limit : Nat} {numeral : Bytes} (closed : Numeral limit numeral) :
    numeral.length ≤ limit := by
  induction closed with
  | last clear => exact Nat.succ_pos _
  | more set others induction => exact Nat.succ_le_succ induction

namespace Reader

section Groups

variable {limit budget index value : Nat} {byte : UInt8} {numeral bytes rest : Bytes}

theorem groups_cons (limit budget bits value : Nat) (byte : UInt8) (rest : Bytes) :
    groups limit (budget + 1) bits value (byte :: rest) =
      if bits = 63 ∧ 1 < byte.toNat % 128 then .error (.invalidFormat .varintOverflow) rest
      else if byte.toNat < 128 then .ok (value + (byte.toNat % 128) <<< bits) rest
      else groups limit budget (bits + 7) (value + (byte.toNat % 128) <<< bits) rest := by
  change groups limit (budget + 1) bits value ([byte] ++ rest) = _
  rw [groups, (reads_byte byte).run_bind]
  split
  · rfl
  · split <;> rfl

/-- Groups before the tenth have room for all their bits. -/
theorem groups_of_more (before : index < 9) (set : 128 ≤ byte.toNat) :
    groups limit (budget + 1) (7 * index) value (byte :: rest) =
      groups limit budget (7 * (index + 1))
        (value + byte.toNat % 128 * 2 ^ (7 * index)) rest := by
  rw [groups_cons, if_neg (by omega), if_neg (by omega), Nat.shiftLeft_eq]
  rfl

/-- The tenth group, counted from the group at `index`, has room for a single bit. -/
def TenthFits (index : Nat) (numeral : Bytes) : Prop :=
  ∀ tenth, numeral[9 - index]? = some tenth → tenth.toNat ≤ 1

theorem tenthFits_cons (before : index < 9) :
    TenthFits index (byte :: numeral) ↔ TenthFits (index + 1) numeral := by
  have place : 9 - index = 9 - (index + 1) + 1 := by omega
  rw [TenthFits, TenthFits, place, List.getElem?_cons_succ]

theorem tenthFits_last (clear : byte.toNat < 128) (place : index ≤ 9) :
    TenthFits index [byte] ↔ ¬ (7 * index = 63 ∧ 1 < byte.toNat % 128) := by
  rcases Nat.eq_or_lt_of_le place with rfl | before
  · simp [TenthFits, Nat.mod_eq_of_lt clear]
  · have absent : [byte][9 - index]? = none := List.getElem?_eq_none (by simp; omega)
    simp only [TenthFits, absent]
    exact iff_of_true nofun fun ⟨tenth, _⟩ => by omega

/-- With `index` groups behind it, the reader puts the next one at bit `7 * index`, so what is left
of the numeral counts that many times. -/
theorem groups_of_fits (closed : Numeral budget numeral) (inside : index + budget ≤ 10)
    (fits : TenthFits index numeral) :
    groups limit budget (7 * index) value (numeral ++ rest) =
      .ok (value + ofGroups numeral * 2 ^ (7 * index)) rest := by
  induction closed generalizing index value with
  | @last budget byte clear =>
      rw [tenthFits_last clear (by omega)] at fits
      rw [List.singleton_append, groups_cons, if_neg fits, if_pos clear, Nat.shiftLeft_eq]
      rfl
  | @more budget byte bytes set others induction =>
      have before : index < 9 := by
        have positive := others.limit_pos
        omega
      rw [tenthFits_cons before] at fits
      rw [List.cons_append, groups_of_more before set, induction (by omega) fits]
      congr 1
      rw [ofGroups, Nat.mul_add, Nat.pow_add]
      grind

theorem groups_of_not_fits (closed : Numeral budget numeral) (inside : index + budget ≤ 10)
    (exceeds : ¬ TenthFits index numeral) :
    groups limit budget (7 * index) value (numeral ++ rest) =
      .error (.invalidFormat .varintOverflow) rest := by
  induction closed generalizing index value with
  | @last budget byte clear =>
      rw [tenthFits_last clear (by omega), not_not] at exceeds
      rw [List.singleton_append, groups_cons, if_pos exceeds]
  | @more budget byte bytes set others induction =>
      have before : index < 9 := by
        have positive := others.limit_pos
        omega
      rw [tenthFits_cons before] at exceeds
      rw [List.cons_append, groups_of_more before set, induction (by omega) exceeds]

theorem groups_of_cutShort (cut : CutShort budget bytes) (inside : index + budget ≤ 10) :
    groups limit budget (7 * index) value bytes = .error (.bufferUnderflow 1 0) [] := by
  rcases cut with ⟨short, unfinished⟩
  induction bytes generalizing budget index value with
  | nil =>
      cases budget with
      | zero => cases short
      | succ budget => exact run_bind_of_error rfl
  | cons byte bytes induction =>
      rw [Unfinished, List.forall_mem_cons] at unfinished
      cases budget with
      | zero => cases short
      | succ budget =>
          have fewer : bytes.length < budget := Nat.lt_of_succ_lt_succ short
          rw [groups_of_more (by omega) unfinished.1]
          exact induction (by omega) fewer unfinished.2

theorem groups_of_unfinished (length : bytes.length = budget) (unfinished : Unfinished bytes)
    (inside : index + budget ≤ 10) :
    ∃ cause, groups limit budget (7 * index) value (bytes ++ rest) =
      .error (.invalidFormat cause) rest := by
  induction bytes generalizing budget index value with
  | nil =>
      cases length
      exact ⟨_, rfl⟩
  | cons byte bytes induction =>
      cases length
      rw [Unfinished, List.forall_mem_cons] at unfinished
      -- The tenth group is refused for its value before the number is found to go on.
      by_cases before : index < 9
      · rw [List.cons_append, List.length_cons, groups_of_more before unfinished.1]
        exact induction rfl unfinished.2 (by rw [List.length_cons] at inside; omega)
      · obtain rfl : bytes = [] := by
          rw [List.length_cons] at inside
          exact List.length_eq_zero_iff.mp (by omega)
        rw [List.singleton_append, List.length_singleton, groups_cons]
        split
        · exact ⟨_, rfl⟩
        · rw [if_neg (Nat.not_lt.mpr unfinished.1)]
          exact ⟨_, rfl⟩

end Groups

end Reader

section Readers

variable {α : Type} {item : Reader α} {limit : Nat} {fits : Bytes → Prop} {number : α → Nat}

/-- What is refused is a numeral that does not fit, or has too many high bits set. -/
theorem ReadsNumerals.of_cases
    (reads : ∀ numeral rest, Numeral limit numeral → fits numeral →
      ∃ value, item (numeral ++ rest) = .ok value rest ∧ number value = ofGroups numeral)
    (cutShort : ∀ bytes, CutShort limit bytes → item bytes = .error (.bufferUnderflow 1 0) [])
    (exceeds : ∀ numeral rest, Numeral limit numeral → ¬ fits numeral →
      ∃ cause, item (numeral ++ rest) = .error (.invalidFormat cause) rest)
    (unfinished : ∀ groups rest, groups.length = limit → Unfinished groups →
      ∃ cause, item (groups ++ rest) = .error (.invalidFormat cause) rest) :
    ReadsNumerals item limit fits number := by
  have malformed : ∀ bytes,
      ¬ (∃ numeral, numeral <+: bytes ∧ Numeral limit numeral ∧ fits numeral) →
        ¬ CutShort limit bytes → ∃ cause rest, item bytes = .error (.invalidFormat cause) rest := by
    intro bytes noNumeral notCut
    rcases numeral_cases limit bytes with ⟨numeral, rest, rfl, closed⟩ | cut |
      ⟨groups, rest, rfl, length, allSet⟩
    · have unfit : ¬ fits numeral := fun held =>
        noNumeral ⟨numeral, List.prefix_append numeral rest, closed, held⟩
      exact (exceeds numeral rest closed unfit).imp fun _ refused => ⟨rest, refused⟩
    · exact absurd cut notCut
    · exact (unfinished groups rest length allSet).imp fun _ refused => ⟨rest, refused⟩
  refine ⟨reads, fun bytes value rest read => ?_, cutShort, malformed⟩
  by_cases begins : ∃ numeral, numeral <+: bytes ∧ Numeral limit numeral ∧ fits numeral
  · rcases begins with ⟨numeral, ⟨behind, rfl⟩, closed, held⟩
    rcases reads numeral behind closed held with ⟨same, readNumeral, -⟩
    cases read.symm.trans readNumeral
    exact ⟨numeral, rfl, closed, held⟩
  · by_cases cut : CutShort limit bytes
    · cases read.symm.trans (cutShort bytes cut)
    · rcases malformed bytes begins cut with ⟨cause, left, refused⟩
      cases read.symm.trans refused

end Readers

namespace Reader

section Words

variable {limit : Nat} {numeral rest : Bytes}

/-- From the first group on, what the groups spell is the whole number. -/
theorem groups_of_numeral (closed : Numeral limit numeral) (inside : limit ≤ 10)
    (fits : TenthFits 0 numeral) :
    groups limit limit 0 0 (numeral ++ rest) = .ok (ofGroups numeral) rest := by
  have read := @groups_of_fits limit limit 0 0 numeral rest closed (by omega) fits
  rw [Nat.zero_add, Nat.mul_zero, Nat.pow_zero, Nat.mul_one] at read
  exact read

theorem ofGroups_lt (closed : Numeral 10 numeral) (fits : TenthFits 0 numeral) :
    ofGroups numeral < 2 ^ 64 := by
  have read := @groups_of_numeral 10 numeral [] closed (Nat.le_refl 10) fits
  exact (takes_groups_lt 10 10 0 0 rfl (by decide) read).choose_spec.2

/-- A number of 64 bits: ten groups at most, the tenth of a single bit. -/
theorem readsNumerals_vlong : ReadsNumerals vlong 10
    (fun numeral => ∀ tenth, numeral[9]? = some tenth → tenth.toNat ≤ 1) UInt64.toNat := by
  apply ReadsNumerals.of_cases
  · intro numeral rest closed fits
    exact ⟨_, run_map_of_ok (groups_of_numeral closed (Nat.le_refl 10) fits),
      UInt64.toNat_ofNat_of_lt' (ofGroups_lt closed fits)⟩
  · exact fun bytes cut => run_map_of_error (@groups_of_cutShort _ _ 0 0 _ cut (Nat.le_refl 10))
  · intro numeral rest closed exceeds
    exact ⟨_, run_map_of_error (@groups_of_not_fits _ _ 0 0 _ _ closed (Nat.le_refl 10) exceeds)⟩
  · intro groups rest length unfinished
    rcases @groups_of_unfinished _ _ 0 0 _ rest length unfinished (Nat.le_refl 10) with
      ⟨cause, read⟩
    exact ⟨cause, run_map_of_error read⟩

/-- A number of 32 bits: five groups at most, and they may spell more than fits. -/
theorem readsNumerals_vint : ReadsNumerals vint 5
    (fun numeral => ofGroups numeral < 2 ^ 32) UInt32.toNat := by
  have read {numeral rest : Bytes} (closed : Numeral 5 numeral) :
      groups 5 5 0 0 (numeral ++ rest) = .ok (ofGroups numeral) rest := by
    refine groups_of_numeral closed (by decide) fun tenth present => ?_
    have inside := (List.getElem?_eq_some_iff.mp present).1
    have short := closed.length_le
    omega
  apply ReadsNumerals.of_cases
  · intro numeral rest closed small
    have inside : ofGroups numeral < UInt32.size := small
    exact ⟨_, (run_bind_of_ok (read closed)).trans (congrFun (if_pos inside) rest),
      UInt32.toNat_ofNat_of_lt' small⟩
  · exact fun bytes cut => run_bind_of_error (@groups_of_cutShort _ _ 0 0 _ cut (by decide))
  · intro numeral rest closed large
    have outside : ¬ ofGroups numeral < UInt32.size := large
    exact ⟨_, (run_bind_of_ok (read closed)).trans (congrFun (if_neg outside) rest)⟩
  · intro groups rest length unfinished
    rcases @groups_of_unfinished _ _ 0 0 _ rest length unfinished (by decide) with ⟨cause, read⟩
    exact ⟨cause, run_bind_of_error read⟩

end Words

end Reader

/-! ### Both directions -/

/-- Varints on machine words. What is written for a number reads back as it, has as few groups as
any byte string that does, and the readers accept the numerals of their word and nothing else. -/
theorem varints_exact :
    (WritesShortest Words.putVlong Words.vlong UInt64.toNat ∧
      WritesShortest Words.putVint Words.vint UInt32.toNat ∧
      WritesShortest Words.putSvlong Words.svlong (fun value => zigzag value.toInt) ∧
      WritesShortest Words.putSvint Words.svint (fun value => zigzag value.toInt)) ∧
    ReadsNumerals Words.vlong 10
      (fun numeral => ∀ tenth, numeral[9]? = some tenth → tenth.toNat ≤ 1) UInt64.toNat ∧
    ReadsNumerals Words.vint 5 (fun numeral => ofGroups numeral < 2 ^ 32) UInt32.toNat := by
  rw [funext Words.putVlong_eq, funext Words.putVint_eq, funext Words.putSvlong_eq,
    funext Words.putSvint_eq, Words.vlong_eq, Words.vint_eq, Words.svlong_eq, Words.svint_eq]
  exact ⟨⟨.of_takes (fun _ => rfl) Reader.reads_vlong Reader.takes_vlong,
    .of_takes (fun _ => rfl) Reader.reads_vint Reader.takes_vint,
    .of_takes (fun _ => rfl) Reader.reads_svlong Reader.takes_svlong,
    .of_takes (fun _ => rfl) Reader.reads_svint Reader.takes_svint⟩,
    Reader.readsNumerals_vlong, Reader.readsNumerals_vint⟩

/-- Nine groups leave one bit of the tenth. -/
example : Words.putVlong 0xffffffffffffffff = List.replicate 9 0xff ++ [1] := by decide +kernel

end Telemetry.Wire
