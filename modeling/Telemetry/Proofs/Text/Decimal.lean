import Telemetry.Text.Decimal

namespace Telemetry.Text

/-! Decimal integers. A text is read as the number that its digits spell behind at most one sign,
and read at all if that number is within the bounds; leading zeros do not matter. -/

/-- One decimal digit or more, with this value. -/
structure Spells (digits : List Char) (value : Nat) : Prop where
  nonempty : digits ≠ []
  decimal : ∀ digit ∈ digits, digit.isDigit = true
  value_eq : Nat.ofDigitChars 10 digits 0 = value

/-- Decimal digits behind at most one sign. -/
inductive Denotes : List Char → Int → Prop where
  | unsigned {digits : List Char} {value : Nat} : Spells digits value → Denotes digits value
  | plus {digits : List Char} {value : Nat} : Spells digits value → Denotes ('+' :: digits) value
  | minus {digits : List Char} {value : Nat} :
      Spells digits value → Denotes ('-' :: digits) (-value)

/-! ### Digits -/

theorem digitValue?_eq_some {character : Char} {digit : Nat} :
    digitValue? character = some digit ↔
      character.isDigit = true ∧ digit = character.toNat - '0'.toNat := by
  have bounds : ('0' ≤ character ∧ character ≤ '9') ↔ character.isDigit = true := by
    rw [Char.isDigit_iff_toNat]
    exact Iff.rfl
  rw [digitValue?]
  split
  next inside => simp only [Option.some.injEq, bounds.mp inside, true_and, eq_comm]
  next outside => simp only [reduceCtorEq, mt bounds.mpr outside, false_and]

theorem le_ofDigitChars (digits : List Char) (start : Nat) :
    start ≤ Nat.ofDigitChars 10 digits start := by
  rw [Nat.ofDigitChars_eq_ofDigitChars_zero]
  have weight : start ≤ 10 ^ digits.length * start :=
    Nat.le_mul_of_pos_left start (Nat.pow_pos (by decide))
  omega

def withSign (negative : Bool) (value : Nat) : Int :=
  if negative then -value else value

theorem withSign_step (negative : Bool) (value digit : Nat) :
    (if negative then withSign negative value * 10 - digit
      else withSign negative value * 10 + digit) = withSign negative (10 * value + digit) := by
  cases negative <;> simp only [withSign, if_true, if_false, Bool.false_eq_true] <;> omega

section Reading

variable {low high value : Int} {negative : Bool} {text : List Char}

/-- Digits only lead further away from zero. -/
theorem withSign_inside {next last : Nat} (notPositive : low ≤ 0) (notNegative : 0 ≤ high)
    (further : next ≤ last)
    (inside : low ≤ withSign negative last ∧ withSign negative last ≤ high) :
    low ≤ withSign negative next ∧ withSign negative next ≤ high := by
  cases negative <;> simp only [withSign, if_true, if_false, Bool.false_eq_true] at * <;> omega

/-- A number that has left the range does not come back into it, so it is enough that the number as
a whole is within the bounds. -/
theorem readDigits_eq_ok {start : Nat} (notPositive : low ≤ 0) (notNegative : 0 ≤ high)
    (inside : low ≤ withSign negative start ∧ withSign negative start ≤ high) :
    readDigits low high negative (withSign negative start) text = .ok value ↔
      (∀ digit ∈ text, digit.isDigit = true) ∧
        withSign negative (Nat.ofDigitChars 10 text start) = value ∧
        low ≤ value ∧ value ≤ high := by
  induction text generalizing start with
  | nil =>
      rw [readDigits, Nat.ofDigitChars_nil, Except.ok.injEq]
      constructor
      · rintro rfl
        exact ⟨nofun, rfl, inside⟩
      · exact fun read => read.2.1
  | cons character rest induction =>
      rw [readDigits, Nat.ofDigitChars_cons, List.forall_mem_cons]
      cases found : digitValue? character with
      | none =>
          have other : ¬ character.isDigit = true := fun decimal =>
            absurd (digitValue?_eq_some.mpr ⟨decimal, rfl⟩) (by simp [found])
          simp [other]
      | some digit =>
          rcases digitValue?_eq_some.mp found with ⟨decimal, rfl⟩
          have further := le_ofDigitChars rest (10 * start + (character.toNat - '0'.toNat))
          dsimp only
          rw [withSign_step]
          generalize 10 * start + (character.toNat - '0'.toNat) = next at further ⊢
          split
          next above =>
            simp only [reduceCtorEq, false_iff]
            rintro ⟨-, rfl, bounded⟩
            have reached := (withSign_inside notPositive notNegative further bounded).2
            omega
          next notAbove =>
            split
            next below =>
              simp only [reduceCtorEq, false_iff]
              rintro ⟨-, rfl, bounded⟩
              have reached := (withSign_inside notPositive notNegative further bounded).1
              omega
            next notBelow =>
              rw [induction ⟨Int.not_lt.mp notBelow, Int.not_lt.mp notAbove⟩]
              simp only [decimal, true_and]

/-- Behind its sign a number has to have a digit. -/
theorem readDigits_zero_eq_ok (notPositive : low ≤ 0) (notNegative : 0 ≤ high)
    (nonempty : text ≠ []) :
    readDigits low high negative 0 text = .ok value ↔
      ∃ spelled, Spells text spelled ∧ withSign negative spelled = value ∧
        low ≤ value ∧ value ≤ high := by
  have zero : withSign negative 0 = 0 := by cases negative <;> rfl
  have read := @readDigits_eq_ok low high value negative text 0 notPositive notNegative (by omega)
  rw [zero] at read
  rw [read]
  constructor
  · rintro ⟨decimal, same, bounded⟩
    exact ⟨_, ⟨nonempty, decimal, rfl⟩, same, bounded⟩
  · rintro ⟨spelled, ⟨-, decimal, rfl⟩, same, bounded⟩
    exact ⟨decimal, same, bounded⟩

end Reading

/-! ### Signs -/

section Signs

variable {low high value : Int} {text digits : List Char}

theorem not_spells_nil {value : Nat} : ¬ Spells [] value := fun spells => spells.nonempty rfl

theorem Spells.head_isDigit {character : Char} {rest : List Char} {value : Nat}
    (spells : Spells (character :: rest) value) : character.isDigit = true :=
  spells.decimal character List.mem_cons_self

theorem denotes_plus_iff : Denotes ('+' :: digits) value ↔
    ∃ spelled, Spells digits spelled ∧ withSign false spelled = value := by
  constructor
  · rintro (spells | spells | spells)
    · exact absurd spells.head_isDigit (by decide)
    · exact ⟨_, spells, rfl⟩
  · rintro ⟨spelled, spells, rfl⟩
    exact .plus spells

theorem denotes_minus_iff : Denotes ('-' :: digits) value ↔
    ∃ spelled, Spells digits spelled ∧ withSign true spelled = value := by
  constructor
  · rintro (spells | spells | spells)
    · exact absurd spells.head_isDigit (by decide)
    · exact ⟨_, spells, rfl⟩
  · rintro ⟨spelled, spells, rfl⟩
    exact .minus spells

theorem denotes_unsigned_iff (noPlus : ∀ rest, text ≠ '+' :: rest)
    (noMinus : ∀ rest, text ≠ '-' :: rest) :
    Denotes text value ↔ ∃ spelled, Spells text spelled ∧ withSign false spelled = value := by
  constructor
  · rintro (spells | spells | spells)
    · exact ⟨_, spells, rfl⟩
    · exact absurd rfl (noPlus _)
    · exact absurd rfl (noMinus _)
  · rintro ⟨spelled, spells, rfl⟩
    exact .unsigned spells

/-- Where the bounds admit negative numbers, exactly the decimal integers within them are read. -/
theorem parseInteger_eq_ok (negatives : low < 0) (notNegative : 0 ≤ high) :
    parseInteger low high text = .ok value ↔ Denotes text value ∧ low ≤ value ∧ value ≤ high := by
  have notPositive : low ≤ 0 := Int.le_of_lt negatives
  have read {negative : Bool} {digits : List Char} (nonempty : digits ≠ []) :=
    @readDigits_zero_eq_ok low high value negative digits notPositive notNegative nonempty
  unfold parseInteger
  split
  next => simp [denotes_unsigned_iff, not_spells_nil]
  next => simp [denotes_plus_iff, not_spells_nil]
  next => simp [denotes_minus_iff, not_spells_nil]
  next digits more =>
    rw [read more, denotes_plus_iff]
    simp only [← and_assoc, exists_and_right]
  next digits more =>
    rw [if_pos negatives, read more, denotes_minus_iff]
    simp only [← and_assoc, exists_and_right]
  next digits nonempty _ _ noPlus noMinus =>
    rw [read nonempty, denotes_unsigned_iff noPlus noMinus]
    simp only [← and_assoc, exists_and_right]

end Signs

/-! ### Writing -/

theorem spells_toDigits (value : Nat) : Spells (Nat.toDigits 10 value) value where
  nonempty := Nat.toDigits_ne_nil
  decimal := fun _ member => Nat.isDigit_of_mem_toDigits (by decide) (by decide) member
  value_eq := Nat.ofDigitChars_ten_toDigits

theorem denotes_renderInteger (value : Int) : Denotes (renderInteger value) value := by
  cases value with
  | ofNat value => exact .unsigned (spells_toDigits value)
  | negSucc value => exact .minus (spells_toDigits (value + 1))

/-- A decimal integer consists of digits and signs. -/
theorem Denotes.isDigit_or_sign {text : List Char} {value : Int} (denotes : Denotes text value) :
    ∀ character ∈ text, character.isDigit = true ∨ character = '+' ∨ character = '-' := by
  intro character member
  cases denotes with
  | unsigned spells => exact .inl (spells.decimal character member)
  | plus spells =>
      rcases List.mem_cons.mp member with sign | digit
      · exact .inr (.inl sign)
      · exact .inl (spells.decimal character digit)
  | minus spells =>
      rcases List.mem_cons.mp member with sign | digit
      · exact .inr (.inr sign)
      · exact .inl (spells.decimal character digit)

end Telemetry.Text
