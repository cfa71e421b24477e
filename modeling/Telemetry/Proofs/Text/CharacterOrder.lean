import Telemetry.Proofs.Wire.Padded

namespace Telemetry.Text

/-! The order of texts. UTF-8 writes the highest bits of a character first and begins longer
characters with higher bytes, so texts compare as bytes in the way they compare as characters. -/

/-- Of two characters the lower one has the lower byte where they first differ, and both have a byte
there. -/
theorem utf8EncodeChar_append_lt {character other : Char} (lower : character < other)
    (rest otherRest : List UInt8) :
    String.utf8EncodeChar character ++ rest < String.utf8EncodeChar other ++ otherRest := by
  have below : character.val.toNat < other.val.toNat := UInt32.lt_iff_toNat_lt.mp lower
  have bounded : other.val.toNat < 0x110000 := by
    rcases other.valid with valid | valid <;> omega
  rw [String.utf8EncodeChar.eq_def, String.utf8EncodeChar.eq_def other]
  dsimp only
  -- A case for each pair of lengths. Characters of one length compare by groups of six bits.
  repeat' split
  all_goals
    simp only [List.cons_append, List.nil_append, List.cons_lt_cons_iff, UInt8.lt_iff_toNat_lt,
      ← UInt8.toNat_inj, UInt8.toNat_ofNat']
    simp (disch := omega) only [Nat.mod_eq_of_lt]
    omega

theorem flatMap_utf8EncodeChar_lt {characters others : List Char} (lower : characters < others) :
    characters.flatMap String.utf8EncodeChar < others.flatMap String.utf8EncodeChar := by
  induction characters generalizing others with
  | nil =>
      cases others with
      | nil => exact absurd lower (List.lt_irrefl _)
      | cons other others =>
          rw [List.flatMap_nil, List.flatMap_cons]
          rcases List.exists_cons_of_ne_nil (@String.utf8EncodeChar_ne_nil other) with
            ⟨first, rest, encoded⟩
          rw [encoded]
          exact List.nil_lt_cons _ _
  | cons character characters induction =>
      cases others with
      | nil => exact absurd lower (List.not_lt_nil _)
      | cons other others =>
          rw [List.flatMap_cons, List.flatMap_cons]
          rcases List.cons_lt_cons_iff.mp lower with below | ⟨rfl, below⟩
          · exact utf8EncodeChar_append_lt below _ _
          · exact List.append_left_lt (induction below)

/-- An encoding that keeps a total order also reflects it. -/
theorem lt_iff_of_grows {α : Type} [LT α] {encode : α → List UInt8}
    (trichotomy : ∀ left right : α, left < right ∨ left = right ∨ right < left)
    (grows : ∀ {left right : α}, left < right → encode left < encode right) {left right : α} :
    encode left < encode right ↔ left < right := by
  refine ⟨fun lower => ?_, grows⟩
  rcases trichotomy left right with below | rfl | above
  · exact below
  · exact absurd lower (List.lt_irrefl _)
  · exact absurd (grows above) (List.lt_asymm lower)

/-- Texts compare as their bytes do. -/
theorem utf8_lt_iff {left right : String} : utf8 left < utf8 right ↔ left < right := by
  refine lt_iff_of_grows Std.lt_trichotomy fun lower => ?_
  rw [utf8_eq_flatMap, utf8_eq_flatMap]
  exact flatMap_utf8EncodeChar_lt lower

end Telemetry.Text
