import Mathlib.Data.List.Infix
import Telemetry.Wire.Sequence

namespace Telemetry.Wire

/-! Where readers stop. Whether a reader succeeds or fails, it only takes bytes off the front: what
it leaves is an end of what it was given, so its position never goes back and never passes the end
of the data. The state of a reader may hold more than bytes; `view` shows those that are left. -/

section Advances

variable {σ α β : Type} {view : σ → Bytes}

/-- The bytes that are left, on success or failure, are an end of those that were there. -/
def Advances (view : σ → Bytes) (item : EStateM DecodeError σ α) : Prop :=
  ∀ state, match item state with
    | .ok _ after => view after <:+ view state
    | .error _ after => view after <:+ view state

namespace Advances

variable {item other : EStateM DecodeError σ α}

protected theorem pure (value : α) : Advances view (Pure.pure value) :=
  fun state => List.suffix_refl (view state)

protected theorem throw (error : DecodeError) :
    Advances view (throw error : EStateM DecodeError σ α) :=
  fun state => List.suffix_refl (view state)

protected theorem bind {next : α → EStateM DecodeError σ β} (first : Advances view item)
    (second : ∀ value, Advances view (next value)) : Advances view (item >>= next) := by
  intro state
  have front := first state
  change match EStateM.bind item next state with
    | .ok _ after => view after <:+ view state
    | .error _ after => view after <:+ view state
  rw [EStateM.bind]
  cases ran : item state with
  | error cause after =>
      rw [ran] at front
      exact front
  | ok value between =>
      rw [ran] at front
      have back := second value between
      dsimp only at front ⊢
      cases nextRan : next value between with
      | ok result after =>
          rw [nextRan] at back
          exact back.trans front
      | error cause after =>
          rw [nextRan] at back
          exact back.trans front

protected theorem map (transform : α → β) (advances : Advances view item) :
    Advances view (transform <$> item) :=
  advances.bind fun value => .pure (transform value)

protected theorem ite {condition : Prop} [Decidable condition] (first : Advances view item)
    (second : Advances view other) : Advances view (if condition then item else other) := by
  split
  · exact first
  · exact second

end Advances

end Advances

namespace Reader

variable {α : Type} {item : Reader α}

theorem advances_malformed (cause : FormatError) : Advances id (malformed cause : Reader α) :=
  .throw (.invalidFormat cause)

theorem advances_remaining : Advances id remaining := fun bytes => List.suffix_refl bytes

theorem advances_byte : Advances id byte := by
  intro bytes
  cases bytes with
  | nil => exact List.suffix_refl []
  | cons first others => exact List.suffix_cons first others

theorem advances_take (count : Nat) : Advances id (take count) := by
  intro bytes
  rw [take]
  by_cases fits : count ≤ bytes.length
  · rw [if_pos fits]
    exact List.drop_suffix count bytes
  · rw [if_neg fits]

theorem advances_groups (limit budget bits value : Nat) :
    Advances id (groups limit budget bits value) := by
  induction budget generalizing bits value with
  | zero => exact advances_malformed _
  | succ budget induction =>
      exact advances_byte.bind fun next =>
        .ite (advances_malformed _) (.ite (.pure _) (induction _ _))

theorem advances_vint : Advances id vint :=
  (advances_groups _ _ _ _).bind fun _ => .ite (.pure _) (advances_malformed _)

theorem advances_vlong : Advances id vlong := (advances_groups _ _ _ _).map _

theorem advances_svint : Advances id svint := advances_vint.map _

theorem advances_svlong : Advances id svlong := advances_vlong.map _

theorem advances_optionalBytes : Advances id optionalBytes :=
  advances_svint.bind fun _ =>
    .ite (.pure none) (.ite (advances_malformed _) ((advances_take _).map some))

theorem advances_ofUtf8 (bytes : Bytes) : Advances id (ofUtf8 bytes) := by
  rw [ofUtf8]
  split
  · exact .pure _
  · exact .throw _

theorem advances_optionalText : Advances id optionalText := by
  refine advances_optionalBytes.bind fun bytes => ?_
  cases bytes with
  | some bytes => exact (advances_ofUtf8 bytes).map some
  | none => exact .pure none

theorem advances_many (advances : Advances id item) (count : Nat) :
    Advances id (many item count) := by
  induction count with
  | zero => exact .pure []
  | succ count induction => exact advances.bind fun _ => induction.bind fun _ => .pure _

/-- A reader that starts inside the data stops inside the data, and not before its start. -/
theorem exists_restOf_eq_drop (advances : Advances id item) (data : Bytes) {offset : Nat}
    (inside : offset ≤ data.length) : ∃ stop, offset ≤ stop ∧ stop ≤ data.length ∧
      restOf (item (data.drop offset)) = data.drop stop := by
  have suffix : restOf (item (data.drop offset)) <:+ data.drop offset := by
    have left := advances (data.drop offset)
    cases ran : item (data.drop offset) with
    | ok value after => rwa [ran] at left
    | error cause after => rwa [ran] at left
  rcases suffix with ⟨taken, split⟩
  generalize restOf (item (data.drop offset)) = rest at split ⊢
  have total := congrArg List.length split
  rw [List.length_append, List.length_drop] at total
  refine ⟨offset + taken.length, by omega, by omega, ?_⟩
  rw [← List.drop_drop, ← split, List.drop_left]

end Reader

end Telemetry.Wire
