import Telemetry.Proofs.Wire.Prefixed

namespace Telemetry.Wire

/-! Reading back optional parts, lists and flag words. -/

/-- Whatever the writer puts takes at least `width` bytes. A reader that was given a count may
refuse it where fewer bytes are left than so many items take. -/
def TakesAtLeast {α : Type} (width : Nat) (put : α → Except EncodeError Bytes) : Prop :=
  ∀ value bytes, put value = .ok bytes → width ≤ bytes.length

section Lists

variable {α : Type} {put : α → Except EncodeError Bytes} {item : Reader α}

theorem length_putEach {width : Nat} (least : TakesAtLeast width put) {items : List α}
    {bytes : Bytes} (written : putEach put items = .ok bytes) :
    width * items.length ≤ bytes.length := by
  induction items generalizing bytes with
  | nil => simp
  | cons head tail induction =>
      rcases bind_eq_ok.mp written with ⟨first, firstWritten, written⟩
      rcases bind_eq_ok.mp written with ⟨others, othersWritten, written⟩
      cases written
      have headLength := least head first firstWritten
      have tailLength := induction othersWritten
      rw [List.length_cons, List.length_append, Nat.mul_add]
      omega

/-- A list can be written where each of its items can. -/
theorem exists_putEach_iff {items : List α} :
    (∃ bytes, putEach put items = .ok bytes) ↔ ∀ item ∈ items, ∃ bytes, put item = .ok bytes := by
  induction items with
  | nil => simp [putEach]
  | cons head tail induction =>
      rw [List.forall_mem_cons, ← induction]
      constructor
      · rintro ⟨bytes, written⟩
        rcases bind_eq_ok.mp written with ⟨first, firstWritten, written⟩
        rcases bind_eq_ok.mp written with ⟨others, othersWritten, -⟩
        exact ⟨⟨first, firstWritten⟩, others, othersWritten⟩
      · rintro ⟨⟨first, firstWritten⟩, others, othersWritten⟩
        refine ⟨first ++ others, ?_⟩
        rw [putEach, firstWritten, othersWritten]
        rfl

namespace Reader

theorem reads_many (readsBack : ReadsBack put item) {items : List α} {bytes : Bytes}
    (written : putEach put items = .ok bytes) : Reads (many item items.length) bytes items := by
  induction items generalizing bytes with
  | nil =>
      cases written
      exact Reads.pure []
  | cons head tail induction =>
      rcases bind_eq_ok.mp written with ⟨first, firstWritten, written⟩
      rcases bind_eq_ok.mp written with ⟨others, othersWritten, written⟩
      cases written
      exact (readsBack head first firstWritten).bind (induction othersWritten).bind_pure

/-- A value that was written where there is one is read where its flag says so. -/
theorem reads_optional (readsBack : ReadsBack put item) {value : Option α} {bytes : Bytes}
    (written : putIfPresent put value = .ok bytes) :
    Reads (optional value.isSome item) bytes value := by
  cases value with
  | none =>
      cases written
      exact Reads.pure none
  | some value => exact (readsBack value bytes written).map some

end Reader

end Lists

namespace Reader

variable {α : Type} {item : Reader α} {present : Bool} {absent value : α} {bytes : Bytes}

/-- A value that is left out where the reader takes the same one in its place. -/
theorem reads_orElseValue (reads : Reads item bytes value)
    (omitted : present = false → value = absent) :
    Reads (orElseValue present absent item) (if present then bytes else []) value := by
  cases present with
  | true => exact reads
  | false =>
      rw [omitted rfl]
      exact Reads.pure absent

end Reader

/-! ### Counts -/

theorem toNat_count {count : Nat} (fits : count < 2 ^ 32) : (UInt32.ofNat count).toNat = count :=
  UInt32.toNat_ofNat_of_lt' fits

theorem Reader.reads_count (count : Nat) :
    Reader.Reads Reader.vint (putCount count) (UInt32.ofNat count) :=
  Reader.reads_vint _

/-! ### Flag words -/

theorem packFlags_lt (flags : List Bool) : packFlags flags < 2 ^ flags.length := by
  induction flags with
  | nil => decide
  | cons head tail induction =>
      rw [packFlags, List.length_cons, Nat.pow_succ]
      have bit := head.toNat_lt
      omega

theorem testBit_packFlags (flags : List Bool) (place : Nat) :
    (packFlags flags).testBit place = flags.getD place false := by
  induction flags generalizing place with
  | nil => simp [packFlags]
  | cons head tail induction =>
      cases place with
      | zero =>
          rw [packFlags, Nat.testBit_zero]
          cases head <;> simp
      | succ place =>
          have half : (head.toNat + 2 * packFlags tail) / 2 = packFlags tail := by
            have bit := head.toNat_lt
            omega
          rw [packFlags, Nat.testBit_succ, half, induction, List.getD_cons_succ]

theorem length_putFlags (flags : List Bool) : (putFlags flags).length = 2 :=
  length_bigEndian 2 _

/-- A word of at most sixteen flags, all of which have a meaning. -/
theorem Reader.reads_flags (what : String) (flags : List Bool) (short : flags.length ≤ 16) :
    Reader.Reads (Reader.flags what flags.length) (putFlags flags) (packFlags flags) := by
  have small := packFlags_lt flags
  have fits : packFlags flags < 2 ^ 16 :=
    Nat.lt_of_lt_of_le small (Nat.pow_le_pow_right (by decide) short)
  have word : (UInt16.ofNat (packFlags flags)).toNat = packFlags flags :=
    UInt16.toNat_ofNat_of_lt' fits
  intro rest
  rw [Reader.flags, putFlags, (Reader.reads_uint16 _).run_bind, word,
    Nat.shiftRight_eq_div_pow, if_pos (Nat.div_eq_of_lt small)]
  rfl

end Telemetry.Wire
