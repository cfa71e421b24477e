import Telemetry.Proofs.Text.CharacterOrder
import Telemetry.Proofs.Wire.Trimmed

namespace Telemetry.Wire

open Text

/-! Texts that a field of a fixed width gives back. They end in no padding, so the NULs that fill
their fields do not change their order, and a reader that strips padding finds nothing else,
whatever bytes it is given. -/

/-! ### Order -/

theorem zeros_lt_of_ends {bytes : Bytes} {width : Nat} (nonempty : bytes ≠ [])
    (ends : bytes.getLast? ≠ some 0) (fits : bytes.length ≤ width) :
    List.replicate width 0 < bytes ++ List.replicate (width - bytes.length) 0 := by
  induction bytes generalizing width with
  | nil => exact absurd rfl nonempty
  | cons byte bytes induction =>
      cases width with
      | zero => simp at fits
      | succ width =>
          rw [List.replicate_succ, List.cons_append, List.cons_lt_cons_iff, List.length_cons,
            Nat.add_sub_add_right]
          by_cases zero : byte = 0
          · have more : bytes ≠ [] := by
              rintro rfl
              exact ends (zero ▸ rfl)
            rw [List.getLast?_cons_of_ne_nil more] at ends
            exact .inr ⟨zero.symm, induction more ends (Nat.le_of_succ_le_succ fits)⟩
          · exact .inl (UInt8.pos_iff_ne_zero.mpr zero)

/-- Bytes that do not end in NUL stay in their order when they are filled up with NULs. -/
theorem append_zeros_lt {left right : Bytes} {width : Nat} (lower : left < right)
    (ends : right.getLast? ≠ some 0) (leftFits : left.length ≤ width)
    (rightFits : right.length ≤ width) :
    left ++ List.replicate (width - left.length) 0 <
      right ++ List.replicate (width - right.length) 0 := by
  induction left generalizing right width with
  | nil =>
      refine zeros_lt_of_ends ?_ ends rightFits
      rintro rfl
      exact List.lt_irrefl _ lower
  | cons byte left induction =>
      cases right with
      | nil => exact absurd lower (List.not_lt_nil _)
      | cons other right =>
          cases width with
          | zero => simp at leftFits
          | succ width =>
              rw [List.length_cons, List.length_cons, Nat.add_sub_add_right,
                Nat.add_sub_add_right, List.cons_append, List.cons_append, List.cons_lt_cons_iff]
              refine (List.cons_lt_cons_iff.mp lower).imp_right fun ⟨same, below⟩ => ?_
              have more : right ≠ [] := by
                rintro rfl
                exact List.not_lt_nil _ below
              rw [List.getLast?_cons_of_ne_nil more] at ends
              exact ⟨same, induction below ends (Nat.le_of_succ_le_succ leftFits)
                (Nat.le_of_succ_le_succ rightFits)⟩

namespace PaddedText

variable {width : Nat} {text : String} {value left right : PaddedText width}

theorem ends (value : PaddedText width) : (utf8 value.text).getLast? ≠ some 0 := by
  intro last
  have clean := value.not_endsWithPadding
  rw [endsWithPadding, last] at clean
  cases clean

theorem lt_trichotomy (left right : PaddedText width) :
    left < right ∨ left = right ∨ right < left := by
  rcases Std.lt_trichotomy left.text right.text with below | same | above
  · exact .inl below
  · cases left
    cases right
    cases same
    exact .inr (.inl rfl)
  · exact .inr (.inr above)

theorem put_lt_put_iff : left.put < right.put ↔ left < right :=
  lt_iff_of_grows lt_trichotomy fun {left right} lower =>
    append_zeros_lt (utf8_lt_iff.mpr lower) right.ends left.length_le right.length_le

/-! ### Writing and reading -/

theorem putPadded_text (value : PaddedText width) : putPadded width value.text = .ok value.put :=
  putPadded_eq_ok.mpr ⟨value.length_le, rfl⟩

theorem length_put (value : PaddedText width) : value.put.length = width :=
  length_putPadded value.putPadded_text

theorem reads_put (value : PaddedText width) :
    Reader.Reads (Reader.padded width) value.put value.text := by
  have reads := Reader.reads_withoutPadding value.putPadded_text
  rwa [(endsWithPadding_eq_false_iff value.text).mp value.not_endsWithPadding] at reads

theorem put_inj : left.put = right.put ↔ left = right := by
  refine ⟨fun same => ?_, fun same => by rw [same]⟩
  have read := left.reads_put []
  rw [same, right.reads_put []] at read
  cases left
  cases right
  cases read
  rfl

theorem ofText_eq_ok : ofText width text = .ok value ↔ value.text = text := by
  constructor
  · intro made
    rw [ofText] at made
    split at made
    next =>
      split at made
      next =>
        cases made
        rfl
      next => cases made
    next => cases made
  · rintro rfl
    rw [ofText, dif_pos value.length_le, dif_pos value.not_endsWithPadding]

end PaddedText

/-! ### What can be padded -/

section Fields

variable {width : Nat} {text : String} {bytes : Bytes}

/-- The last byte is padding exactly if the last character is. -/
theorem endsWithPadding_eq_false_iff_getLast? : endsWithPadding text = false ↔
    ∀ last ∈ text.toList.getLast?, last ≠ '\x00' ∧ last ≠ ' ' := by
  have characters : withoutPadding text = text ↔
      text.toList.rdropWhile (fun character => character = '\x00' || character = ' ') =
        text.toList := by
    rw [withoutPadding, dropTrailing, ← String.toList_inj, String.toList_ofList]
  rw [endsWithPadding_eq_false_iff, characters, List.rdropWhile_eq_self_iff]
  cases text.toList using List.reverseRecOn <;> simp

theorem exists_ofText_iff : (∃ value, PaddedText.ofText width text = .ok value) ↔
    (utf8 text).length ≤ width ∧ ∀ last ∈ text.toList.getLast?, last ≠ '\x00' ∧ last ≠ ' ' := by
  rw [← endsWithPadding_eq_false_iff_getLast?]
  constructor
  · rintro ⟨value, made⟩
    rw [← PaddedText.ofText_eq_ok.mp made]
    exact ⟨value.length_le, value.not_endsWithPadding⟩
  · rintro ⟨fits, clean⟩
    exact ⟨⟨text, fits, clean⟩, PaddedText.ofText_eq_ok.mpr rfl⟩

/-- What is left of a field without the padding at its end can be padded again. -/
theorem exists_paddedText (complete : bytes.length = width) (same : utf8 text = trimPadding bytes) :
    ∃ value : PaddedText width, value.text = text := by
  have clean : endsWithPadding text = false := by
    rw [endsWithPadding_eq_false_iff, ← utf8_inj, utf8_withoutPadding, same]
    exact List.rdropWhile_idempotent isPadding bytes
  have fits : (utf8 text).length ≤ width := by
    rw [same, ← complete]
    exact (List.rdropWhile_prefix isPadding bytes).length_le
  exact ⟨⟨text, fits, clean⟩, rfl⟩

/-- A field is read as a text that can be padded, unless what stands before its padding is no
text. -/
theorem padded_field (complete : bytes.length = width) (rest : Bytes) :
    (∃ cause, ofUtf8? (trimPadding bytes) = .error cause ∧
        Reader.padded width (bytes ++ rest) = .error (.invalidText cause) rest) ∨
      ∃ value : PaddedText width, utf8 value.text = trimPadding bytes ∧
        Reader.padded width (bytes ++ rest) = .ok value.text rest := by
  have taken : Reader.padded width (bytes ++ rest) = Reader.ofUtf8 (trimPadding bytes) rest := by
    have reads := Reader.reads_take bytes
    rw [complete] at reads
    exact reads.run_bind _ rest
  rw [taken, Reader.ofUtf8]
  cases read : ofUtf8? (trimPadding bytes) with
  | error cause => exact .inl ⟨cause, rfl, rfl⟩
  | ok text =>
      have same := ofUtf8?_eq_ok.mp read
      rcases exists_paddedText complete same with ⟨value, rfl⟩
      exact .inr ⟨value, same, rfl⟩

end Fields

/-- Padded texts are exactly the texts that fit their field and do not end in a NUL or a space.
Their fields have the width, give them back, and are in their order, so that no two of them have one
field. From any bytes of that width a reader gets such a text, unless they are no text before their
padding. -/
theorem paddedTexts_readBack (width : Nat) :
    (∀ text, (∃ value, PaddedText.ofText width text = .ok value) ↔
      (utf8 text).length ≤ width ∧
        ∀ last ∈ text.toList.getLast?, last ≠ '\x00' ∧ last ≠ ' ') ∧
    (∀ text value, PaddedText.ofText width text = .ok value →
      value.put.length = width ∧ Reader.Reads (Reader.padded width) value.put text) ∧
    (∀ left right : PaddedText width,
      (left.put < right.put ↔ left < right) ∧
      (utf8 left.text < utf8 right.text ↔ left < right) ∧
      (left.put = right.put ↔ left = right)) ∧
    ∀ bytes rest, bytes.length = width →
      (∃ cause, ofUtf8? (trimPadding bytes) = .error cause ∧
        Reader.padded width (bytes ++ rest) = .error (.invalidText cause) rest) ∨
      ∃ text value, Reader.padded width (bytes ++ rest) = .ok text rest ∧
        utf8 text = trimPadding bytes ∧ PaddedText.ofText width text = .ok value := by
  refine ⟨fun text => exists_ofText_iff, fun text value made => ?_,
    fun left right => ⟨PaddedText.put_lt_put_iff, utf8_lt_iff, PaddedText.put_inj⟩,
    fun bytes rest complete => ?_⟩
  · rw [← PaddedText.ofText_eq_ok.mp made]
    exact ⟨value.length_put, value.reads_put⟩
  · refine (padded_field complete rest).imp_right ?_
    rintro ⟨value, same, read⟩
    exact ⟨value.text, value, read, same, PaddedText.ofText_eq_ok.mpr rfl⟩

/-- A text with a NUL inside, and the text before it. -/
theorem paddedTexts_readBack_nulInside :
    ∃ front whole : PaddedText 4,
      PaddedText.ofText 4 "a" = .ok front ∧ PaddedText.ofText 4 "a\x00é" = .ok whole ∧
      front < whole ∧ front.put < whole.put ∧
      Reader.Reads (Reader.padded 4) whole.put "a\x00é" := by
  rcases paddedTexts_readBack 4 with ⟨accepted, readBack, ordered, -⟩
  rcases (accepted "a").mpr ⟨by decide, by simp⟩ with ⟨front, frontMade⟩
  rcases (accepted "a\x00é").mpr ⟨by decide, by simp⟩ with ⟨whole, wholeMade⟩
  have lower : front < whole := by
    change front.text < whole.text
    rw [PaddedText.ofText_eq_ok.mp frontMade, PaddedText.ofText_eq_ok.mp wholeMade]
    decide
  exact ⟨front, whole, frontMade, wholeMade, lower, (ordered front whole).1.mpr lower,
    (readBack _ _ wholeMade).2⟩

end Telemetry.Wire
