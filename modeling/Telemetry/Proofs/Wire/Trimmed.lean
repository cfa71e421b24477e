import Mathlib.Data.List.DropRight
import Telemetry.Proofs.Wire.Padded

namespace Telemetry

/-! What a field of a fixed width keeps of its text. The field itself tells texts apart up to NULs
at their end; reading it strips spaces there as well. -/

namespace Text

variable {left right : String}

theorem utf8_inj : utf8 left = utf8 right ↔ left = right := by
  refine ⟨fun same => ?_, fun same => by rw [same]⟩
  have read := ofUtf8?_utf8 left
  rw [same, ofUtf8?_utf8] at read
  exact (Except.ok.inj read).symm

/-- A text without the characters at its end that are to go. -/
def dropTrailing (drop : Char → Bool) (text : String) : String :=
  String.ofList (text.toList.rdropWhile drop)

def withoutPadding (text : String) : String :=
  dropTrailing (fun character => character = '\x00' || character = ' ') text

def withoutNuls (text : String) : String :=
  dropTrailing (fun character => character = '\x00') text

/-- Characters that are one byte each, and that no other character ends in, can be dropped before
or after encoding. -/
theorem utf8_dropTrailing {drop : Char → Bool} {dropByte : UInt8 → Bool}
    (dropped : ∀ character, drop character = true →
      ∃ byte, dropByte byte = true ∧ String.utf8EncodeChar character = [byte])
    (kept : ∀ character, drop character = false →
      ∃ front last, dropByte last = false ∧ String.utf8EncodeChar character = front ++ [last])
    (text : String) : utf8 (dropTrailing drop text) = (utf8 text).rdropWhile dropByte := by
  rw [dropTrailing, utf8_ofList, utf8_eq_flatMap]
  -- From the last character to the first one that stays.
  induction text.toList using List.reverseRecOn with
  | nil => simp
  | append_singleton front last induction =>
      rw [List.flatMap_append, List.flatMap_singleton]
      cases drops : drop last with
      | true =>
          rcases dropped last drops with ⟨byte, droppedByte, encoded⟩
          rw [List.rdropWhile_concat_pos _ _ _ drops, encoded,
            List.rdropWhile_concat_pos _ _ _ droppedByte, induction]
      | false =>
          rcases kept last drops with ⟨bytes, byte, keptByte, encoded⟩
          rw [List.rdropWhile_concat_neg _ _ _ (by simp [drops]), encoded, ← List.append_assoc,
            List.rdropWhile_concat_neg _ _ _ (by simp [keptByte]), List.flatMap_append,
            List.flatMap_singleton, encoded, List.append_assoc]

end Text

namespace Wire

open Text

theorem utf8EncodeChar_inj {character other : Char}
    (same : String.utf8EncodeChar character = String.utf8EncodeChar other) : character = other := by
  have texts : utf8 (String.ofList [character]) = utf8 (String.ofList [other]) := by
    rw [utf8_ofList, utf8_ofList, List.flatMap_singleton, List.flatMap_singleton, same]
  simpa using congrArg String.toList (utf8_inj.mp texts)

private theorem encoded_nul : String.utf8EncodeChar '\x00' = [0] := by decide

private theorem encoded_space : String.utf8EncodeChar ' ' = [32] := by decide

theorem utf8_withoutPadding (text : String) :
    utf8 (withoutPadding text) = trimPadding (utf8 text) := by
  apply utf8_dropTrailing
  · intro character drops
    rcases Bool.or_eq_true_iff.mp drops with nul | space
    · exact ⟨0, rfl, of_decide_eq_true nul ▸ encoded_nul⟩
    · exact ⟨32, rfl, of_decide_eq_true space ▸ encoded_space⟩
  · intro character stays
    rcases utf8EncodeChar_ends character with ⟨byte, padding, encoded⟩ | ends
    · -- A character of one padding byte is NUL or the space.
      rcases Bool.or_eq_true_iff.mp padding with zero | blank
      · rw [of_decide_eq_true zero, ← encoded_nul] at encoded
        simp [utf8EncodeChar_inj encoded] at stays
      · rw [of_decide_eq_true blank, ← encoded_space] at encoded
        simp [utf8EncodeChar_inj encoded] at stays
    · exact ends

theorem utf8_withoutNuls (text : String) :
    utf8 (withoutNuls text) = (utf8 text).rdropWhile fun byte => byte = 0 := by
  apply utf8_dropTrailing
  · intro character drops
    exact ⟨0, rfl, of_decide_eq_true drops ▸ encoded_nul⟩
  · intro character stays
    have other := of_decide_eq_false stays
    rcases utf8EncodeChar_ends character with
      ⟨byte, -, encoded⟩ | ⟨front, last, content, ends⟩
    · refine ⟨[], byte, ?_, encoded⟩
      rw [decide_eq_false_iff_not]
      rintro rfl
      rw [← encoded_nul] at encoded
      exact other (utf8EncodeChar_inj encoded)
    · exact ⟨front, last, (Bool.or_eq_false_iff.mp content).1, ends⟩

/-! ### Reading -/

theorem endsWithPadding_eq_false_iff (text : String) :
    endsWithPadding text = false ↔ withoutPadding text = text := by
  rw [← utf8_inj, utf8_withoutPadding, trimPadding, ← List.rdropWhile, List.rdropWhile_eq_self_iff,
    endsWithPadding]
  cases bytes : utf8 text using List.reverseRecOn <;> simp

variable {width : Nat} {left right : String} {leftBytes rightBytes : Bytes}

/-- Reading a field gives its text without the padding at its end. -/
theorem Reader.reads_withoutPadding (written : putPadded width left = .ok leftBytes) :
    Reader.Reads (Reader.padded width) leftBytes (withoutPadding left) := by
  have taken := Reader.reads_take leftBytes
  rw [length_putPadded written] at taken
  rcases putPadded_eq_ok.mp written with ⟨-, filled⟩
  have content := Reader.reads_ofUtf8 (withoutPadding left)
  rw [utf8_withoutPadding, ← trimPadding_append_zeros _ (width - (utf8 left).length),
    ← filled] at content
  have field : Reader.Reads (Reader.padded width) (leftBytes ++ []) (withoutPadding left) :=
    taken.bind content
  rwa [List.append_nil] at field

/-! ### Telling fields apart -/

theorem eq_append_zeros (bytes : Bytes) :
    ∃ count, bytes = (bytes.rdropWhile fun byte => byte = 0) ++ List.replicate count 0 := by
  refine ⟨(bytes.rtakeWhile fun byte => byte = 0).length, ?_⟩
  have zeros : bytes.rtakeWhile (fun byte => byte = 0) =
      List.replicate (bytes.rtakeWhile fun byte => byte = 0).length 0 := by
    rw [List.eq_replicate_iff]
    exact ⟨rfl, fun byte member => by simpa using List.mem_rtakeWhile_imp member⟩
  rw [← zeros, List.rdropWhile_append_rtakeWhile]

theorem rdropWhile_append_zeros (bytes : Bytes) (count : Nat) :
    (bytes ++ List.replicate count 0).rdropWhile (fun byte => byte = 0) =
      bytes.rdropWhile fun byte => byte = 0 := by
  induction count with
  | zero => simp
  | succ count induction =>
      rw [List.replicate_succ', ← List.append_assoc, List.rdropWhile_concat_pos _ _ _ (by simp),
        induction]

/-- A field is its text without the NULs at the end, filled up with NULs. -/
theorem putPadded_eq_zeros (written : putPadded width left = .ok leftBytes) :
    leftBytes = utf8 (withoutNuls left) ++
      List.replicate (width - (utf8 (withoutNuls left)).length) 0 := by
  have length := length_putPadded written
  rcases putPadded_eq_ok.mp written with ⟨-, filled⟩
  rcases eq_append_zeros leftBytes with ⟨count, parts⟩
  have content : leftBytes.rdropWhile (fun byte => byte = 0) = utf8 (withoutNuls left) := by
    rw [filled, rdropWhile_append_zeros, utf8_withoutNuls]
  rw [content] at parts
  have total := congrArg List.length parts
  rw [length, List.length_append, List.length_replicate] at total
  rw [total, Nat.add_sub_cancel_left]
  exact parts

/-- Two texts fill a field in the same way when they differ in NULs at the end only. -/
theorem putPadded_inj_iff (leftWritten : putPadded width left = .ok leftBytes)
    (rightWritten : putPadded width right = .ok rightBytes) :
    leftBytes = rightBytes ↔ withoutNuls left = withoutNuls right := by
  constructor
  · rintro rfl
    rcases putPadded_eq_ok.mp leftWritten with ⟨-, leftFilled⟩
    rcases putPadded_eq_ok.mp rightWritten with ⟨-, rightFilled⟩
    rw [← utf8_inj, utf8_withoutNuls, utf8_withoutNuls, ← rdropWhile_append_zeros (utf8 left),
      ← leftFilled, rightFilled, rdropWhile_append_zeros]
  · intro same
    rw [putPadded_eq_zeros leftWritten, putPadded_eq_zeros rightWritten, same]

end Wire

end Telemetry
