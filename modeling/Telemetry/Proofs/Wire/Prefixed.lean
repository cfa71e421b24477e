import Telemetry.Proofs.Wire.Varint

namespace Telemetry

/-! Reading back byte strings and texts behind their length. -/

namespace Text

theorem ofUtf8?_utf8 (text : String) : ofUtf8? (utf8 text) = .ok text := by
  have bytes : ByteArray.mk (utf8 text).toArray = text.toByteArray := by
    rw [utf8, String.toUTF8_eq_toByteArray, Array.toArray_toList]
  rw [ofUtf8?, bytes, String.fromUTF8?, dif_pos text.isValidUTF8]
  rfl

theorem ofUtf8?_eq_ok {bytes : List UInt8} {text : String} :
    ofUtf8? bytes = .ok text ↔ utf8 text = bytes := by
  refine ⟨fun read => ?_, fun same => same ▸ ofUtf8?_utf8 text⟩
  rw [ofUtf8?] at read
  split at read
  next same valid =>
    cases read
    rw [String.fromUTF8?] at valid
    split at valid
    next =>
      cases valid
      rfl
    next => cases valid
  next => cases read

end Text

namespace Wire

/-- A length that can be written is not negative, so it is not mistaken for an absent value. -/
private theorem toInt_length {length : Nat} (fits : length ≤ maxPrefixedLength) :
    (Int32.ofNat length).toInt = length :=
  Int32.toInt_ofNat_of_lt (Nat.lt_succ_of_le fits)

/-- Bytes can be written unless there are too many of them for their length field. -/
theorem exists_putBytes_iff {value : Bytes} :
    (∃ bytes, putBytes value = .ok bytes) ↔ value.length ≤ maxPrefixedLength := by
  rw [putBytes, putLength]
  split
  next fits => exact ⟨fun _ => fits, fun _ => ⟨_, rfl⟩⟩
  next long => exact ⟨nofun, fun fits => absurd fits long⟩

theorem exists_putOptionalText_iff {text : Option String} :
    (∃ bytes, putOptionalText text = .ok bytes) ↔
      ∀ present ∈ text, (Text.utf8 present).length ≤ maxPrefixedLength := by
  cases text with
  | none => exact ⟨fun _ => nofun, fun _ => ⟨_, rfl⟩⟩
  | some text => simp [putOptionalText, putText, exists_putBytes_iff]

namespace Reader

theorem reads_presentBytes {value bytes : Bytes} (written : putBytes value = .ok bytes) :
    Reads optionalBytes bytes (some value) := by
  rcases bind_eq_ok.mp written with ⟨length, lengthWritten, written⟩
  cases written
  rw [putLength] at lengthWritten
  split at lengthWritten
  case isFalse => cases lengthWritten
  case isTrue fits =>
    cases lengthWritten
    have announced := toInt_length fits
    have present : Int32.ofNat value.length ≠ nullLength := by
      intro equal
      have absent : (Int32.ofNat value.length).toInt = -1 := by
        rw [equal]
        rfl
      omega
    have notNegative : ¬ (Int32.ofNat value.length).toInt < 0 := by omega
    intro rest
    rw [List.append_assoc, optionalBytes, (reads_svint _).run_bind, if_neg present,
      if_neg notNegative, announced, Int.toNat_natCast]
    exact (reads_take value).map some rest

theorem reads_absentBytes : Reads optionalBytes (putSvint nullLength) none := by
  intro rest
  rw [optionalBytes, (reads_svint _).run_bind, if_pos rfl]
  rfl

theorem reads_ofUtf8 (text : String) : Reads (ofUtf8 (Text.utf8 text)) [] text := by
  rw [ofUtf8, Text.ofUtf8?_utf8]
  exact Reads.pure text

theorem reads_presentText {text : String} {bytes : Bytes} (written : putText text = .ok bytes) :
    Reads optionalText bytes (some text) := by
  have reads : Reads optionalText (bytes ++ []) (some text) :=
    (reads_presentBytes written).bind ((reads_ofUtf8 text).map some)
  rwa [List.append_nil] at reads

theorem readsBack_optionalText : ReadsBack putOptionalText optionalText := by
  intro text bytes written
  cases text with
  | none =>
      cases written
      intro rest
      rw [optionalText, reads_absentBytes.run_bind]
      rfl
  | some text => exact reads_presentText written

theorem readsBack_text (field : String) : ReadsBack putText (text field) := by
  intro text bytes written rest
  rw [Reader.text, (reads_presentText written).run_bind]
  rfl

end Reader

end Wire

end Telemetry
