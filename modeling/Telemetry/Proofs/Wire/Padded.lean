import Telemetry.Proofs.Wire.Prefixed
import Telemetry.Wire.Padded

namespace Telemetry

/-! Text fields of a fixed width. Padding bytes are whole characters: no other character ends in
one. -/

namespace Text

theorem utf8_ofList (characters : List Char) :
    utf8 (String.ofList characters) = characters.flatMap String.utf8EncodeChar := by
  rw [utf8, String.toUTF8_eq_toByteArray, String.toByteArray_ofList, List.utf8Encode,
    List.data_toByteArray]

theorem utf8_eq_flatMap (text : String) :
    utf8 text = text.toList.flatMap String.utf8EncodeChar := by
  rw [← utf8_ofList, String.ofList_toList]

end Text

namespace Wire

variable {width : Nat} {text : String} {bytes : Bytes}

theorem putPadded_eq_ok : putPadded width text = .ok bytes ↔
    (Text.utf8 text).length ≤ width ∧
      bytes = Text.utf8 text ++ List.replicate (width - (Text.utf8 text).length) 0 := by
  simp only [putPadded]
  split
  next long => simp only [reduceCtorEq, false_iff, not_and]; omega
  next fits => simp only [Except.ok.injEq, Nat.not_lt.mp fits, true_and, eq_comm]

theorem length_putPadded (written : putPadded width text = .ok bytes) : bytes.length = width := by
  rcases putPadded_eq_ok.mp written with ⟨fits, rfl⟩
  simp only [List.length_append, List.length_replicate]
  omega

/-! ### Padding at the end -/

theorem trimPadding_append_padding {byte : UInt8} (padding : isPadding byte = true)
    (bytes : Bytes) : trimPadding (bytes ++ [byte]) = trimPadding bytes := by
  simp [trimPadding, padding]

theorem trimPadding_append_zeros (bytes : Bytes) (count : Nat) :
    trimPadding (bytes ++ List.replicate count 0) = trimPadding bytes := by
  induction count with
  | zero => simp
  | succ count induction =>
      rw [List.replicate_succ', ← List.append_assoc, trimPadding_append_padding (by decide),
        induction]

/-- A byte of the padding is a character of its own: the bytes of longer characters have their
highest bit set. -/
theorem utf8EncodeChar_ends (character : Char) :
    (∃ byte, isPadding byte = true ∧ String.utf8EncodeChar character = [byte]) ∨
      ∃ front last, isPadding last = false ∧
        String.utf8EncodeChar character = front ++ [last] := by
  have continuation (value : Nat) : isPadding (UInt8.ofNat (value % 64 + 128)) = false := by
    have byte : (UInt8.ofNat (value % 64 + 128)).toNat = value % 64 + 128 := by
      rw [UInt8.toNat_ofNat', Nat.mod_eq_of_lt (by omega)]
    simp only [isPadding, Bool.or_eq_false_iff, decide_eq_false_iff_not, ← UInt8.toNat_inj, byte]
    constructor <;> simp
  rw [String.utf8EncodeChar.eq_def]
  dsimp only
  split
  next =>
    cases padding : isPadding (UInt8.ofNat character.val.toNat) with
    | true => exact .inl ⟨_, padding, rfl⟩
    | false => exact .inr ⟨[], _, padding, rfl⟩
  next =>
    split
    next => exact .inr ⟨[_], _, continuation _, rfl⟩
    next =>
      split
      next => exact .inr ⟨[_, _], _, continuation _, rfl⟩
      next => exact .inr ⟨[_, _, _], _, continuation _, rfl⟩

end Wire

end Telemetry
