import Telemetry.Proofs.RowKey.Identity
import Telemetry.Proofs.RowKey.Limits

namespace Telemetry.RowKey

open Wire

/-! Keys as lists of fields. The keys of one kind have the same fields of the same widths, so their
bytes compare field by field: texts as they are filled up, codes by their bits, times with the
newest first. A key that lies between two others shares with them what they share from the
front. -/

inductive KeyField where
  | text (width : Nat) (content : String)
  | code (value : Int32)
  | byte (value : UInt8)
  | time (timestamp : Int64)

/-- Fields of one shape can stand at one place in the keys of one kind. -/
inductive Shape where
  | text (width : Nat)
  | code
  | byte
  | time

/-- What a field compares by. -/
inductive Rank where
  | bytes (content : Bytes)
  | number (value : Nat)
  | newestFirst (time : Int)

namespace Rank

def Before : Rank → Rank → Prop
  | bytes content, bytes other => content < other
  | number value, number other => value < other
  | newestFirst time, newestFirst other => other < time
  | _, _ => False

instance : LT Rank := ⟨Before⟩

theorem before_irrefl (rank : Rank) : ¬ rank < rank := by
  cases rank with
  | bytes content => exact List.lt_irrefl content
  | number value => exact Nat.lt_irrefl value
  | newestFirst time => exact Int.lt_irrefl time

instance : Std.Irrefl (α := Rank) (· < ·) := ⟨before_irrefl⟩

/-- What two lists begin with in common does not tell them apart. -/
theorem append_lt_append_left_iff (earlier : List Rank) {ranks others : List Rank} :
    earlier ++ ranks < earlier ++ others ↔ ranks < others := by
  induction earlier with
  | nil => rfl
  | cons rank earlier induction =>
      rw [List.cons_append, List.cons_append, List.cons_lt_cons_iff, induction]
      simp [before_irrefl]

end Rank

namespace KeyField

def shape : KeyField → Shape
  | text width _ => .text width
  | code _ => .code
  | byte _ => .byte
  | time _ => .time

def rank : KeyField → Rank
  | text width content =>
      .bytes (Text.utf8 content ++ List.replicate (width - (Text.utf8 content).length) 0)
  | code value => .bytes (putInt32 value)
  | byte value => .number value.toNat
  | time timestamp => .newestFirst timestamp.toInt

/-- Whether a field can be part of a key. -/
def Fits : KeyField → Prop
  | text width content => (Text.utf8 content).length ≤ width
  | code _ => True
  | byte _ => True
  | time timestamp => 0 ≤ timestamp.toInt

def put : KeyField → Except RowKeyError Bytes
  | text width content => written (putPadded width content)
  | code value => .ok (putInt32 value)
  | byte value => .ok [value]
  | time timestamp => invertedBytes timestamp

/-- The fields one after the other. The first one that cannot be part of a key is reported. -/
def putAll : List KeyField → Except RowKeyError Bytes
  | [] => .ok []
  | field :: fields => do
      let first ← field.put
      let others ← putAll fields
      pure (first ++ others)

/-! ### Which fields can be written -/

theorem exists_put_iff (field : KeyField) : (∃ bytes, field.put = .ok bytes) ↔ field.Fits := by
  cases field with
  | text width content => simp only [put, written_eq_ok, exists_putPadded_iff, Fits]
  | code value => simp [put, Fits]
  | byte value => simp [put, Fits]
  | time timestamp => simp [put, invertedBytes_eq_ok, Fits]

theorem putAll_cons_eq_ok {field : KeyField} {fields : List KeyField} {bytes : Bytes} :
    putAll (field :: fields) = .ok bytes ↔
      ∃ first others, field.put = .ok first ∧ putAll fields = .ok others ∧
        bytes = first ++ others := by
  simp only [putAll, bind_eq_ok, pure, Except.pure, Except.ok.injEq]
  grind

theorem putAll_append_eq_ok {front fields : List KeyField} {bytes : Bytes} :
    putAll (front ++ fields) = .ok bytes ↔
      ∃ first others, putAll front = .ok first ∧ putAll fields = .ok others ∧
        bytes = first ++ others := by
  induction front generalizing bytes with
  | nil => simp [putAll, eq_comm]
  | cons field front induction =>
      simp only [List.cons_append, putAll_cons_eq_ok, induction]
      constructor
      · rintro ⟨first, -, fieldPut, ⟨second, others, frontPut, othersPut, rfl⟩, rfl⟩
        exact ⟨first ++ second, others, ⟨first, second, fieldPut, frontPut, rfl⟩, othersPut,
          (List.append_assoc _ _ _).symm⟩
      · rintro ⟨-, others, ⟨first, second, fieldPut, frontPut, rfl⟩, othersPut, rfl⟩
        exact ⟨first, second ++ others, fieldPut, ⟨second, others, frontPut, othersPut, rfl⟩,
          List.append_assoc _ _ _⟩

theorem exists_putAll_iff (fields : List KeyField) :
    (∃ bytes, putAll fields = .ok bytes) ↔ ∀ field ∈ fields, field.Fits := by
  induction fields with
  | nil => exact ⟨fun _ => nofun, fun _ => ⟨[], rfl⟩⟩
  | cons field fields induction =>
      rw [List.forall_mem_cons, ← induction, ← exists_put_iff]
      simp only [putAll_cons_eq_ok]
      constructor
      · rintro ⟨-, first, others, fieldPut, othersPut, -⟩
        exact ⟨⟨first, fieldPut⟩, others, othersPut⟩
      · rintro ⟨⟨first, fieldPut⟩, others, othersPut⟩
        exact ⟨_, first, others, fieldPut, othersPut, rfl⟩

/-- A time before the epoch is reported where all that stands before it can be written. -/
theorem putAll_of_negative {earlier later : List KeyField} {timestamp : Int64}
    (fits : ∀ field ∈ earlier, field.Fits) (negative : timestamp.toInt < 0) :
    putAll (earlier ++ time timestamp :: later) = .error (.negativeTimestamp timestamp) := by
  induction earlier with
  | nil =>
      have below : timestamp < 0 := Int64.lt_iff_toInt_lt.mpr negative
      rw [List.nil_append, putAll, put, invertedBytes, invert, if_pos below]
      rfl
  | cons field earlier induction =>
      rw [List.forall_mem_cons] at fits
      rcases (exists_put_iff field).mpr fits.1 with ⟨first, fieldPut⟩
      rw [List.cons_append, putAll, fieldPut, induction fits.2]
      rfl

/-! ### Comparing -/

/-- The bytes of two keys or fields have one width and compare like what they stand for. -/
structure Compares {α : Type} [LT α] (bytes otherBytes : Bytes) (value other : α) : Prop where
  width : bytes.length = otherBytes.length
  lt_iff : bytes < otherBytes ↔ value < other
  eq_iff : bytes = otherBytes ↔ value = other

theorem put_compares {field other : KeyField} {bytes otherBytes : Bytes}
    (shapes : field.shape = other.shape) (fieldPut : field.put = .ok bytes)
    (otherPut : other.put = .ok otherBytes) :
    Compares bytes otherBytes field.rank other.rank := by
  cases field <;> cases other <;> cases shapes
  case text.text width content otherContent =>
      have filled := written_eq_ok.mp fieldPut
      have otherFilled := written_eq_ok.mp otherPut
      refine ⟨(length_putPadded filled).trans (length_putPadded otherFilled).symm, ?_, ?_⟩
      · rw [(putPadded_eq_ok.mp filled).2, (putPadded_eq_ok.mp otherFilled).2]
        rfl
      · rw [(putPadded_eq_ok.mp filled).2, (putPadded_eq_ok.mp otherFilled).2]
        exact Rank.bytes.injEq _ _ ▸ Iff.rfl
  case code.code value otherValue =>
      cases fieldPut
      cases otherPut
      exact ⟨(length_putInt32 _).trans (length_putInt32 _).symm, Iff.rfl,
        Rank.bytes.injEq _ _ ▸ Iff.rfl⟩
  case byte.byte value otherValue =>
      cases fieldPut
      cases otherPut
      refine ⟨rfl, ?_, ?_⟩
      · rw [List.cons_lt_cons_iff, UInt8.lt_iff_toNat_lt]
        simp only [List.lt_irrefl, and_false, or_false]
        rfl
      · rw [List.singleton_inj, rank, rank, Rank.number.injEq, UInt8.toNat_inj]
  case time.time timestamp otherTimestamp =>
      rcases invertedBytes_eq_ok.mp fieldPut with ⟨notNegative, rfl⟩
      rcases invertedBytes_eq_ok.mp otherPut with ⟨otherNotNegative, rfl⟩
      refine ⟨(length_putInt64 _).trans (length_putInt64 _).symm, ?_, ?_⟩
      · rw [putInt64_inverted_lt_iff notNegative otherNotNegative]
        rfl
      · rw [putInt64_inverted_inj notNegative otherNotNegative, rank, rank,
          Rank.newestFirst.injEq, Int64.toInt_inj]

theorem putAll_compares {fields others : List KeyField} {key otherKey : Bytes}
    (shapes : fields.map shape = others.map shape) (fieldsPut : putAll fields = .ok key)
    (othersPut : putAll others = .ok otherKey) :
    Compares key otherKey (fields.map rank) (others.map rank) := by
  induction fields generalizing others key otherKey with
  | nil =>
      rw [List.map_nil, List.nil_eq, List.map_eq_nil_iff] at shapes
      subst shapes
      cases fieldsPut
      cases othersPut
      exact ⟨rfl, by simp, by simp⟩
  | cons field fields induction =>
      cases others with
      | nil => cases shapes
      | cons other others =>
          rw [List.map_cons, List.map_cons, List.cons.injEq] at shapes
          rcases putAll_cons_eq_ok.mp fieldsPut with ⟨bytes, rest, fieldPut, restPut, rfl⟩
          rcases putAll_cons_eq_ok.mp othersPut with
            ⟨otherBytes, otherRest, otherPut, otherRestPut, rfl⟩
          have first := put_compares shapes.1 fieldPut otherPut
          have later := induction shapes.2 restPut otherRestPut
          refine ⟨?_, ?_, ?_⟩
          · rw [List.length_append, List.length_append, first.width, later.width]
          · rw [append_lt_append_iff first.width, first.lt_iff, first.eq_iff, later.lt_iff,
              List.map_cons, List.map_cons, List.cons_lt_cons_iff]
          · rw [List.append_eq_append_iff_of_size_eq_left first.width, first.eq_iff, later.eq_iff,
              List.map_cons, List.map_cons, List.cons.injEq]

end KeyField

end Telemetry.RowKey
