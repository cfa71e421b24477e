import Telemetry.Proofs.Wire.Sequence
import Telemetry.Proofs.Wire.Steady

namespace Telemetry.Wire

/-! The written form of a value is the shortest of all byte strings that the value is read from, and
no other one is as short. Readers accept more than writers write: numbers with needless groups,
flags that announce what could be left out, values that could be taken over. Each of these costs at
least one byte. -/

/-- The written form is shorter than the bytes it was read from, or it is the same bytes and
`agrees` holds. -/
def Tightens (agrees : Prop) (written taken : Bytes) : Prop :=
  written.length < taken.length ∨ written = taken ∧ agrees

/-- A value that was read from `taken` has a written form, which tightens these bytes. -/
def Tightened (agrees : Prop) (form : Except EncodeError Bytes) (taken : Bytes) : Prop :=
  ∃ written, form = .ok written ∧ Tightens agrees written taken

namespace Tightens

variable {agrees other : Prop} {written taken writtenRest takenRest : Bytes}

protected theorem refl (bytes : Bytes) : Tightens True bytes bytes := .inr ⟨rfl, trivial⟩

theorem of_eq (same : written = taken) : Tightens True written taken := .inr ⟨same, trivial⟩

theorem mono (tightens : Tightens agrees written taken) (weaker : agrees → other) :
    Tightens other written taken :=
  tightens.imp_right fun ⟨same, holds⟩ => ⟨same, weaker holds⟩

protected theorem append (first : Tightens agrees written taken)
    (rest : Tightens other writtenRest takenRest) :
    Tightens (agrees ∧ other) (written ++ writtenRest) (taken ++ takenRest) := by
  rw [Tightens, List.length_append, List.length_append]
  rcases first with shorter | ⟨rfl, holds⟩
  · left
    rcases rest with shorterRest | ⟨rfl, -⟩ <;> omega
  · rcases rest with shorterRest | ⟨rfl, holdsRest⟩
    · left
      omega
    · exact .inr ⟨rfl, holds, holdsRest⟩

/-- The same bytes in front on both sides. -/
theorem behind (front : Bytes) (tightens : Tightens agrees written taken) :
    Tightens agrees (front ++ written) (front ++ taken) :=
  ((Tightens.refl front).append tightens).mono And.right

theorem length_le (tightens : Tightens agrees written taken) :
    written.length ≤ taken.length := by
  rcases tightens with shorter | ⟨rfl, -⟩
  · exact Nat.le_of_lt shorter
  · exact Nat.le_refl _

theorem eq_of_length (tightens : Tightens agrees written taken)
    (same : written.length = taken.length) : written = taken := by
  rcases tightens with shorter | ⟨equal, -⟩
  · exact absurd same (Nat.ne_of_lt shorter)
  · exact equal

/-- What could have been left out. -/
theorem of_needless (content : 0 < taken.length) : Tightens agrees [] taken := .inl content

/-- A flag word has one width, so other flags in it have to pay off behind it. -/
theorem flagged {flags : List Bool} (flagsTaken : List Bool)
    (rest : Tightens agrees writtenRest takenRest)
    (same : agrees → flags = flagsTaken) :
    Tightens True (putFlags flags ++ writtenRest) (putFlags flagsTaken ++ takenRest) := by
  rcases rest with shorter | ⟨rfl, holds⟩
  · left
    rw [List.length_append, List.length_append, length_putFlags, length_putFlags]
    omega
  · exact of_eq (by rw [same holds])

end Tightens

/-! ### What a reader takes -/

namespace Reader

variable {α β : Type} {item : Reader α} {holds : α → Bytes → Prop}

/-- Where the reader succeeds, the value and the bytes that it took from the front are such that
`holds`. -/
def Takes (item : Reader α) (holds : α → Bytes → Prop) : Prop :=
  ∀ ⦃bytes value rest⦄, item bytes = .ok value rest →
    ∃ taken, bytes = taken ++ rest ∧ holds value taken

namespace Takes

protected theorem mono {weaker : α → Bytes → Prop} (takes : Takes item holds)
    (implies : ∀ value taken, holds value taken → weaker value taken) : Takes item weaker := by
  intro bytes value rest read
  rcases takes read with ⟨taken, split, held⟩
  exact ⟨taken, split, implies value taken held⟩

/-- The bytes that are taken are those in front of the rest, whatever is said about them. -/
theorem both {others : α → Bytes → Prop} (takes : Takes item holds) (too : Takes item others) :
    Takes item fun value taken => holds value taken ∧ others value taken := by
  intro bytes value rest read
  rcases takes read with ⟨taken, rfl, held⟩
  rcases too read with ⟨same, split, heldToo⟩
  rw [List.append_cancel_right split]
  exact ⟨same, rfl, List.append_cancel_right split ▸ held, heldToo⟩

protected theorem pure {value : α} (held : holds value []) :
    Takes (Pure.pure value : Reader α) holds := by
  intro bytes result rest read
  cases read
  exact ⟨[], rfl, held⟩

protected theorem throw (error : DecodeError) : Takes (throw error : Reader α) holds :=
  fun _ _ _ read => nomatch read

protected theorem bind {next : α → Reader β} {whole : β → Bytes → Prop} (first : Takes item holds)
    (second : ∀ value taken, holds value taken →
      Takes (next value) fun result rest => whole result (taken ++ rest)) :
    Takes (item >>= next) whole := by
  intro bytes result rest read
  rcases run_bind_eq_ok.mp read with ⟨value, between, itemRead, nextRead⟩
  rcases first itemRead with ⟨taken, rfl, held⟩
  rcases second value taken held nextRead with ⟨takenNext, rfl, heldNext⟩
  exact ⟨taken ++ takenNext, (List.append_assoc ..).symm, heldNext⟩

protected theorem map {transform : α → β} {image : β → Bytes → Prop} (takes : Takes item holds)
    (implies : ∀ value taken, holds value taken → image (transform value) taken) :
    Takes (transform <$> item) image := by
  refine takes.bind fun value taken held => .pure ?_
  rw [List.append_nil]
  exact implies value taken held

protected theorem ite {condition : Prop} [Decidable condition] {other : Reader α}
    (first : condition → Takes item holds) (second : ¬ condition → Takes other holds) :
    Takes (if condition then item else other) holds := by
  split
  next passed => exact first passed
  next failed => exact second failed

/-- A check of how much is left takes nothing. -/
theorem afterRemaining {check : Nat → Prop} [DecidablePred check] {cause : Nat → FormatError}
    (takes : Takes item holds) : Takes (do
      let count ← remaining
      if check count then malformed (cause count) else item) holds := by
  intro bytes value rest read
  change (if check bytes.length then malformed (cause bytes.length) else item) bytes = _ at read
  split at read
  next => cases read
  next => exact takes read

end Takes

theorem takes_malformed (cause : FormatError) : Takes (malformed cause) holds :=
  .throw (.invalidFormat cause)

theorem takes_unknownCode (cause : CodeError) : Takes (unknownCode cause) holds :=
  .throw (.invalidType cause)

/-! ### Fixed-width parts

There is only one way to write them. -/

theorem takes_byte : Takes byte fun value taken => taken = [value] := by
  intro bytes value rest read
  cases bytes with
  | nil => cases read
  | cons first others =>
      cases read
      exact ⟨[value], rfl, rfl⟩

theorem takes_bool : Takes bool fun value taken => taken = putBool value := by
  refine takes_byte.bind fun code taken same => ?_
  subst same
  split
  · exact .pure rfl
  · exact .pure rfl
  · exact takes_malformed _

theorem takes_take (count : Nat) :
    Takes (take count) fun value taken => taken = value ∧ value.length = count := by
  intro bytes value rest read
  rw [take] at read
  split at read
  next fits =>
    cases read
    exact ⟨bytes.take count, (List.take_append_drop count bytes).symm, rfl,
      List.length_take_of_le fits⟩
  next => cases read

private theorem foldl_ofBigEndian (bytes : Bytes) (start : Nat) :
    bytes.foldl (fun value byte => value * 256 + byte.toNat) start =
      start * 256 ^ bytes.length + ofBigEndian bytes := by
  induction bytes generalizing start with
  | nil => simp [ofBigEndian]
  | cons first others induction =>
      rw [ofBigEndian, List.foldl_cons, List.foldl_cons, induction, induction, List.length_cons,
        Nat.pow_succ]
      grind

theorem ofBigEndian_cons (first : UInt8) (others : Bytes) :
    ofBigEndian (first :: others) = first.toNat * 256 ^ others.length + ofBigEndian others := by
  rw [ofBigEndian, List.foldl_cons, foldl_ofBigEndian, Nat.zero_mul, Nat.zero_add]

theorem ofBigEndian_lt (bytes : Bytes) : ofBigEndian bytes < 256 ^ bytes.length := by
  induction bytes with
  | nil => decide
  | cons first others induction =>
      have digit : first.toNat + 1 ≤ 256 := first.toNat_lt
      have weight := Nat.mul_le_mul_right (256 ^ others.length) digit
      rw [Nat.succ_mul] at weight
      rw [ofBigEndian_cons, List.length_cons, Nat.pow_succ]
      omega

/-- Byte strings of one length spell different numbers. -/
theorem ofBigEndian_inj {left right : Bytes} (width : left.length = right.length)
    (same : ofBigEndian left = ofBigEndian right) : left = right := by
  induction left generalizing right with
  | nil => exact (List.eq_nil_of_length_eq_zero width.symm).symm
  | cons first others induction =>
      cases right with
      | nil => cases width
      | cons otherFirst otherOthers =>
          have width := Nat.succ.inj width
          rw [ofBigEndian_cons, ofBigEndian_cons, width] at same
          have fits := ofBigEndian_lt others
          have otherFits := ofBigEndian_lt otherOthers
          rw [width] at fits
          -- The other bytes are the remainder by the weight of the first one.
          have rests := congrArg (· % 256 ^ otherOthers.length) same
          simp only [Nat.mul_add_mod_of_lt fits, Nat.mul_add_mod_of_lt otherFits] at rests
          rw [rests, Nat.add_right_cancel_iff] at same
          have digits := Nat.eq_of_mul_eq_mul_right (Nat.zero_lt_of_lt otherFits) same
          rw [UInt8.toNat_inj.mp digits, induction width rests]

theorem bigEndian_ofBigEndian (bytes : Bytes) :
    Wire.bigEndian bytes.length (ofBigEndian bytes) = bytes :=
  ofBigEndian_inj (length_bigEndian _ _) (ofBigEndian_bigEndian (ofBigEndian_lt bytes))

theorem takes_bigEndian (width : Nat) : Takes (bigEndian width) fun value taken =>
    taken = Wire.bigEndian width value ∧ value < 256 ^ width := by
  refine (takes_take width).map fun bytes taken ⟨same, length⟩ => ?_
  rw [same, ← length]
  exact ⟨(bigEndian_ofBigEndian bytes).symm, ofBigEndian_lt bytes⟩

theorem takes_uint16 : Takes uint16 fun value taken => taken = putUInt16 value := by
  refine (takes_bigEndian 2).map fun value taken ⟨same, fits⟩ => ?_
  rw [same, putUInt16, UInt16.toNat_ofNat_of_lt' fits]

theorem takes_int16 : Takes int16 fun value taken => taken = putInt16 value := by
  refine (takes_bigEndian 2).map fun value taken ⟨same, fits⟩ => ?_
  rw [same, putInt16, UInt16.toUInt16_toInt16, UInt16.toNat_ofNat_of_lt' fits]

theorem takes_int32 : Takes int32 fun value taken => taken = putInt32 value := by
  refine (takes_bigEndian 4).map fun value taken ⟨same, fits⟩ => ?_
  rw [same, putInt32, UInt32.toUInt32_toInt32, UInt32.toNat_ofNat_of_lt' fits]

theorem takes_uint64 : Takes uint64 fun value taken => taken = putUInt64 value := by
  refine (takes_bigEndian 8).map fun value taken ⟨same, fits⟩ => ?_
  rw [same, putUInt64, UInt64.toNat_ofNat_of_lt' fits]

theorem takes_int64 : Takes int64 fun value taken => taken = putInt64 value := by
  refine (takes_bigEndian 8).map fun value taken ⟨same, fits⟩ => ?_
  rw [same, putInt64, UInt64.toUInt64_toInt64, UInt64.toNat_ofNat_of_lt' fits]

theorem takes_presentInt64 : Takes int64 fun value taken =>
    Tightened True (.ok (putInt64 value)) taken :=
  takes_int64.mono fun _ _ same => ⟨_, rfl, .of_eq same.symm⟩

/-! ### Varints -/

/-- A group more in front of a number. -/
theorem varint_eq_cons {group number : Nat} (short : group < 128) (positive : 0 < number) :
    varint (group + 128 * number) = UInt8.ofNat (group + 128) :: varint number := by
  have long : ¬ group + 128 * number < 128 := by omega
  have front : (group + 128 * number) % 128 = group := by omega
  have rest : (group + 128 * number) / 128 = number := by omega
  rw [varint, if_neg long, front, rest]

/-- A last group of zero says nothing, and every other last group is needed. -/
theorem takes_groups (limit budget bits value : Nat) :
    Takes (groups limit budget bits value) fun result taken => ∃ number,
      result = value + number * 2 ^ bits ∧ Tightens True (varint number) taken := by
  induction budget generalizing bits value with
  | zero => exact takes_malformed _
  | succ budget induction =>
      refine takes_byte.bind fun next taken single => ?_
      subst single
      refine .ite (fun _ => takes_malformed _) fun _ => .ite (fun last => .pure ?_) fun more => ?_
      · have group : next.toNat % 128 = next.toNat := Nat.mod_eq_of_lt last
        refine ⟨next.toNat, by rw [group, Nat.shiftLeft_eq], .of_eq ?_⟩
        rw [varint, if_pos last, UInt8.ofNat_toNat]
        rfl
      · refine (induction _ _).mono ?_
        rintro result taken ⟨number, same, tightens⟩
        have short : next.toNat % 128 < 128 := Nat.mod_lt _ (by decide)
        refine ⟨next.toNat % 128 + 128 * number, ?_, ?_⟩
        · rw [same, Nat.shiftLeft_eq, Nat.pow_add]
          grind
        · rcases Nat.eq_zero_or_pos number with rfl | positive
          · left
            have needed := tightens.length_le
            have nonempty := length_varint_pos 0
            rw [Nat.mul_zero, Nat.add_zero, varint, if_pos short, List.length_append]
            simp only [List.length_singleton]
            omega
          · have continues : next.toNat % 128 + 128 = next.toNat := by
              have byte := next.toNat_lt
              omega
            rw [varint_eq_cons short positive, continues, UInt8.ofNat_toNat]
            exact ((Tightens.refl [next]).append tightens).mono fun _ => trivial

/-- The tenth group has one bit, so no number of ten groups needs more than 64 bits. -/
theorem takes_groups_lt (limit budget bits value : Nat) (width : bits + 7 * budget = 70)
    (small : value < 2 ^ bits) :
    Takes (groups limit budget bits value) fun result _ => result < 2 ^ 64 := by
  induction budget generalizing bits value with
  | zero => exact takes_malformed _
  | succ budget induction =>
      refine takes_byte.bind fun next taken _ => ?_
      refine .ite (fun _ => takes_malformed _) fun fits => ?_
      have group : next.toNat % 128 < 128 := Nat.mod_lt _ (by decide)
      have larger : value + (next.toNat % 128) <<< bits < 2 ^ (bits + 7) :=
        add_group_lt small group
      refine .ite (fun last => .pure ?_) fun _ => induction _ _ (by omega) larger
      by_cases top : bits = 63
      · subst top
        have bit : next.toNat % 128 ≤ 1 := Nat.le_of_not_lt fun large => fits ⟨rfl, large⟩
        rw [Nat.shiftLeft_eq]
        omega
      · exact Nat.lt_of_lt_of_le larger (Nat.pow_le_pow_right (by decide) (by omega))

theorem takes_vint : Takes vint fun value taken => Tightens True (putVint value) taken := by
  refine (takes_groups _ _ _ _).bind fun result taken ⟨number, same, tightens⟩ => ?_
  rw [Nat.zero_add, Nat.pow_zero, Nat.mul_one] at same
  subst same
  refine .ite (fun fits => .pure ?_) fun _ => takes_malformed _
  rwa [List.append_nil, putVint, UInt32.toNat_ofNat_of_lt' fits]

theorem takes_vlong : Takes vlong fun value taken => Tightens True (putVlong value) taken := by
  have small := takes_groups_lt maxVlongBytes maxVlongBytes 0 0 rfl (by decide)
  refine ((takes_groups _ _ _ _).both small).map fun result taken ⟨group, fits⟩ => ?_
  rcases group with ⟨number, same, tightens⟩
  rw [Nat.zero_add, Nat.pow_zero, Nat.mul_one] at same
  subst same
  rwa [putVlong, UInt64.toNat_ofNat_of_lt' fits]

theorem zigzag_unzigzag (value : Nat) : zigzag (unzigzag value) = value := by
  rw [unzigzag]
  split
  next even =>
    rw [zigzag.eq_def]
    dsimp only
    omega
  next odd =>
    rw [zigzag]
    omega

theorem unzigzag_bounds (bound : Nat) {value : Nat} (fits : value < 2 * bound) :
    -(bound : Int) ≤ unzigzag value ∧ unzigzag value < bound := by
  rw [unzigzag, Int.ofNat_eq_natCast]
  split <;> omega

theorem takes_svint : Takes svint fun value taken => Tightens True (putSvint value) taken := by
  refine takes_vint.map fun value taken tightens => ?_
  rcases unzigzag_bounds (2 ^ 31) value.toNat_lt with ⟨low, high⟩
  rwa [putSvint, Int32.toInt_ofInt_of_le low high, zigzag_unzigzag]

theorem takes_svlong : Takes svlong fun value taken => Tightens True (putSvlong value) taken := by
  refine takes_vlong.map fun value taken tightens => ?_
  rcases unzigzag_bounds (2 ^ 63) value.toNat_lt with ⟨low, high⟩
  rwa [putSvlong, Int64.toInt_ofInt_of_le low high, zigzag_unzigzag]

theorem takes_narrow16 (field : String) : Takes (narrow16 field) fun value taken =>
    Tightens True (putSvint value.toInt32) taken := by
  refine takes_svint.bind fun value taken tightens => ?_
  refine .ite (fun ⟨low, high⟩ => .pure ?_) fun _ => takes_malformed _
  rwa [List.append_nil, Int16.toInt32_ofInt low high, Int32.ofInt_toInt]

theorem takes_presentSvint : Takes svint fun value taken =>
    Tightened True (.ok (putSvint value)) taken :=
  takes_svint.mono fun _ _ tightens => ⟨_, rfl, tightens⟩

/-! ### Values behind a length -/

private theorem ofNat_toNat_toInt {length : Int32} (notNegative : ¬ length.toInt < 0) :
    Int32.ofNat length.toInt.toNat = length ∧ length.toInt.toNat ≤ maxPrefixedLength := by
  have high := length.toInt_lt
  refine ⟨?_, ?_⟩
  · rw [← Int32.ofInt_eq_ofNat, Int.toNat_of_nonneg (Int.not_lt.mp notNegative),
      Int32.ofInt_toInt]
  · rw [maxPrefixedLength]
    omega

theorem takes_optionalBytes : Takes optionalBytes fun value taken =>
    Tightened True (putOptionalBytes value) taken := by
  refine takes_svint.bind fun length taken tightens => .ite (fun absent => .pure ?_) fun _ => ?_
  · subst absent
    rw [List.append_nil]
    exact ⟨_, rfl, tightens⟩
  · refine .ite (fun _ => takes_malformed _) fun notNegative => ?_
    rcases ofNat_toNat_toInt notNegative with ⟨announced, short⟩
    refine (takes_take _).map fun value content ⟨same, width⟩ => ?_
    rw [same]
    refine ⟨putSvint length ++ value, ?_, (tightens.append (.refl value)).mono fun _ => trivial⟩
    rw [putOptionalBytes, putBytes, putLength, width, if_pos short, announced]
    rfl

theorem takes_ofUtf8 (bytes : Bytes) :
    Takes (ofUtf8 bytes) fun text taken => Text.utf8 text = bytes ∧ taken = [] := by
  rw [ofUtf8]
  split
  next text read => exact .pure ⟨Text.ofUtf8?_eq_ok.mp read, rfl⟩
  next => exact .throw _

theorem takes_optionalText : Takes optionalText fun value taken =>
    Tightened True (putOptionalText value) taken := by
  refine takes_optionalBytes.bind fun bytes taken tightened => ?_
  cases bytes with
  | none =>
      refine .pure ?_
      rwa [List.append_nil]
  | some bytes =>
      refine (takes_ofUtf8 bytes).map fun text _ ⟨same, nothing⟩ => ?_
      subst nothing
      rw [List.append_nil, putOptionalText, putText, same]
      exact tightened

theorem takes_text (field : String) : Takes (text field) fun value taken =>
    Tightened True (putText value) taken := by
  refine takes_optionalText.bind fun value taken tightened => ?_
  cases value with
  | none => exact takes_malformed _
  | some value =>
      refine .pure ?_
      rwa [List.append_nil]

/-! ### Optional and repeated parts -/

variable {α : Type} {item : Reader α}

/-- A part whose flag the writer sets in the same way. -/
theorem takes_optional {put : α → Except EncodeError Bytes} (present : Bool)
    (takes : Takes item fun value taken => Tightened True (put value) taken) :
    Takes (optional present item) fun value taken =>
      Tightened (value.isSome = present) (putIfPresent put value) taken := by
  refine .ite (fun announced => ?_) fun unannounced => .pure ?_
  · refine takes.map fun value taken ⟨written, form, tightens⟩ => ?_
    exact ⟨written, form, tightens.mono fun _ => announced.symm⟩
  · exact ⟨[], rfl, .inr ⟨rfl, (Bool.eq_false_iff.mpr unannounced).symm⟩⟩

/-- A part that the writer leaves out where it has the value that stands for its absence. -/
theorem takes_orElseValue [DecidableEq α] {put : α → Except EncodeError Bytes} (present : Bool)
    (absent : α) (takes : Takes item fun value taken => Tightened True (put value) taken)
    (nonempty : Takes item fun _ taken => 0 < taken.length) :
    Takes (orElseValue present absent item) fun value taken =>
      Tightened (decide (value ≠ absent) = present)
        (if value ≠ absent then put value else .ok []) taken := by
  refine .ite (fun announced => ?_) fun unannounced => .pure ?_
  · refine (takes.both nonempty).mono fun value taken ⟨⟨written, form, tightens⟩, content⟩ => ?_
    by_cases needless : value = absent
    · rw [if_neg (not_not_intro needless)]
      exact ⟨[], rfl, .of_needless content⟩
    · rw [if_pos needless]
      exact ⟨written, form, tightens.mono fun _ => by simp [announced, needless]⟩
  · rw [if_neg (not_not_intro rfl)]
    exact ⟨[], rfl, .inr ⟨rfl, by simp [unannounced]⟩⟩

/-- The same for a part whose writer cannot fail. -/
theorem takes_orElseFixed [DecidableEq α] {form : α → Bytes} (present : Bool) (absent : α)
    (takes : Takes item fun value taken => taken = form value)
    (nonempty : ∀ value, 0 < (form value).length) :
    Takes (orElseValue present absent item) fun value taken =>
      Tightens (decide (value ≠ absent) = present)
        (if value ≠ absent then form value else []) taken := by
  have tightened : Takes item fun value taken => Tightened True (.ok (form value)) taken :=
    takes.mono fun value taken same => ⟨_, rfl, .of_eq same.symm⟩
  refine (takes_orElseValue present absent tightened
    (takes.mono fun value taken same => same ▸ nonempty value)).mono fun value taken result => ?_
  rcases result with ⟨written, choice, tightens⟩
  rw [← apply_ite Except.ok] at choice
  cases choice
  exact tightens

theorem takes_many {put : α → Except EncodeError Bytes}
    (takes : Takes item fun value taken => Tightened True (put value) taken) (count : Nat) :
    Takes (many item count) fun values taken =>
      values.length = count ∧ Tightened True (putEach put values) taken := by
  induction count with
  | zero => exact .pure ⟨rfl, [], rfl, .refl []⟩
  | succ count induction =>
      refine takes.bind fun first taken ⟨written, form, tightens⟩ => ?_
      refine induction.bind fun others takenOthers ⟨length, writtenOthers, formOthers, rest⟩ => ?_
      refine .pure ⟨congrArg (· + 1) length, written ++ writtenOthers, ?_, ?_⟩
      · rw [putEach, form, formOthers]
        rfl
      · rw [List.append_nil]
        exact (tightens.append rest).mono fun _ => trivial

/-! ### Flag words -/

theorem packFlags_testBit (width : Nat) {bits : Nat} (known : bits < 2 ^ width) :
    packFlags ((List.range width).map bits.testBit) = bits := by
  refine Nat.eq_of_testBit_eq fun place => ?_
  rw [testBit_packFlags, List.getD_eq_getElem?_getD, List.getElem?_map]
  by_cases inside : place < width
  · rw [List.getElem?_range inside]
    rfl
  · have high : bits < 2 ^ place :=
      Nat.lt_of_lt_of_le known (Nat.pow_le_pow_right (by decide) (Nat.le_of_not_lt inside))
    rw [List.getElem?_eq_none (by simpa using inside), Nat.testBit_lt_two_pow high]
    rfl

theorem takes_flags (what : String) (width : Nat) : Takes (flags what width) fun bits taken =>
    taken = putFlags ((List.range width).map bits.testBit) := by
  refine takes_uint16.bind fun word taken same => ?_
  refine .ite (fun known => .pure ?_) fun _ => takes_malformed _
  rw [Nat.shiftRight_eq_div_pow] at known
  have small : word.toNat < 2 ^ width := Nat.lt_of_div_eq_zero (Nat.two_pow_pos width) known
  rw [List.append_nil, same, putFlags, packFlags_testBit width small, UInt16.ofNat_toNat]

end Reader

end Telemetry.Wire
