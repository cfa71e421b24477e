import Mathlib.Data.List.Infix
import Telemetry.Proofs.Wire.Reading

namespace Telemetry.Wire

/-! Readers that do not depend on what stands behind the part they read. More bytes at the end
change neither the value of such a reader nor where it stops, also not the checks that compare a
count with the number of bytes left. Formats read in this way are self-delimiting: no accepted byte
string is the beginning of another one. -/

section Steady

variable {σ α β : Type}

theorem run_bind_eq_ok {item : EStateM DecodeError σ α} {next : α → EStateM DecodeError σ β}
    {state after : σ} {result : β} : (item >>= next) state = .ok result after ↔
      ∃ value between, item state = .ok value between ∧ next value between = .ok result after := by
  change EStateM.bind item next state = .ok result after ↔ _
  rw [EStateM.bind]
  cases item state <;> simp

variable [HAppend σ Bytes σ]

/-- Where the reader succeeds, it succeeds in the same way in front of more bytes. -/
def Steady (item : EStateM DecodeError σ α) : Prop :=
  ∀ ⦃state value after⦄, item state = .ok value after →
    ∀ more : Bytes, item (state ++ more) = .ok value (after ++ more)

namespace Steady

variable {item : EStateM DecodeError σ α}

protected theorem pure (value : α) : Steady (Pure.pure value : EStateM DecodeError σ α) := by
  intro state value after read more
  cases read
  rfl

protected theorem throw (error : DecodeError) :
    Steady (throw error : EStateM DecodeError σ α) :=
  fun _ _ _ read => nomatch read

protected theorem bind {next : α → EStateM DecodeError σ β} (first : Steady item)
    (second : ∀ value, Steady (next value)) : Steady (item >>= next) := by
  intro state result after read more
  rcases run_bind_eq_ok.mp read with ⟨value, between, itemRead, nextRead⟩
  exact run_bind_eq_ok.mpr ⟨value, _, first itemRead more, second value nextRead more⟩

protected theorem map (transform : α → β) (steady : Steady item) : Steady (transform <$> item) :=
  steady.bind fun value => .pure (transform value)

protected theorem ite {condition : Prop} [Decidable condition] {other : EStateM DecodeError σ α}
    (first : Steady item) (second : Steady other) :
    Steady (if condition then item else other) := by
  split
  · exact first
  · exact second

end Steady

end Steady

namespace Reader

variable {α : Type} {item : Reader α}

theorem steady_malformed (cause : FormatError) : Steady (malformed cause : Reader α) :=
  .throw (.invalidFormat cause)

theorem steady_unknownCode (cause : CodeError) : Steady (unknownCode cause : Reader α) :=
  .throw (.invalidType cause)

theorem steady_lift (result : Except DecodeError α) : Steady (lift result) := by
  cases result with
  | ok value => exact .pure value
  | error error => exact .throw error

/-- A check of how much is left that passes where enough is left. -/
theorem steady_afterRemaining {check : Nat → Prop} [DecidablePred check]
    {cause : Nat → FormatError} (passes : ∀ {count more}, count ≤ more → check more → check count)
    (steady : Steady item) :
    Steady (do
      let count ← remaining
      if check count then malformed (cause count) else item) := by
  intro bytes value rest read more
  change (if check bytes.length then malformed (cause bytes.length) else item) bytes = _ at read
  change (if check (bytes ++ more).length then malformed (cause (bytes ++ more).length) else item)
    (bytes ++ more) = _
  split at read
  next => cases read
  next passed =>
    rw [if_neg fun failed => passed (passes (by simp) failed)]
    exact steady read more

/-! ### Parts of one value -/

theorem steady_byte : Steady byte := by
  intro bytes value rest read more
  cases bytes with
  | nil => cases read
  | cons first others =>
      cases read
      rfl

theorem steady_take (count : Nat) : Steady (take count) := by
  intro bytes value rest read more
  rw [take] at read
  split at read
  next fits =>
    cases read
    have longer : count ≤ (bytes ++ more).length := by
      rw [List.length_append]
      omega
    rw [take, if_pos longer, List.take_append_of_le_length fits,
      List.drop_append_of_le_length fits]
  next => cases read

theorem steady_bool : Steady bool := by
  refine steady_byte.bind fun code => ?_
  split
  · exact .pure false
  · exact .pure true
  · exact steady_malformed _

theorem steady_bigEndian (width : Nat) : Steady (bigEndian width) :=
  (steady_take width).map ofBigEndian

theorem steady_uint16 : Steady uint16 := (steady_bigEndian 2).map _

theorem steady_int16 : Steady int16 := (steady_bigEndian 2).map _

theorem steady_int32 : Steady int32 := (steady_bigEndian 4).map _

theorem steady_uint64 : Steady uint64 := (steady_bigEndian 8).map _

theorem steady_int64 : Steady int64 := (steady_bigEndian 8).map _

theorem steady_groups (limit budget bits value : Nat) :
    Steady (groups limit budget bits value) := by
  induction budget generalizing bits value with
  | zero => exact steady_malformed _
  | succ budget induction =>
      exact steady_byte.bind fun next => .ite (steady_malformed _) (.ite (.pure _) (induction _ _))

theorem steady_vint : Steady vint :=
  (steady_groups _ _ _ _).bind fun _ => .ite (.pure _) (steady_malformed _)

theorem steady_vlong : Steady vlong := (steady_groups _ _ _ _).map _

theorem steady_svint : Steady svint := steady_vint.map _

theorem steady_svlong : Steady svlong := steady_vlong.map _

theorem steady_narrow16 (field : String) : Steady (narrow16 field) :=
  steady_svint.bind fun _ => .ite (.pure _) (steady_malformed _)

theorem steady_flags (what : String) (width : Nat) : Steady (flags what width) :=
  steady_uint16.bind fun _ => .ite (.pure _) (steady_malformed _)

theorem steady_optionalBytes : Steady optionalBytes :=
  steady_svint.bind fun _ =>
    .ite (.pure none) (.ite (steady_malformed _) ((steady_take _).map some))

theorem steady_ofUtf8 (bytes : Bytes) : Steady (ofUtf8 bytes) := by
  rw [ofUtf8]
  split
  · exact .pure _
  · exact .throw _

theorem steady_optionalText : Steady optionalText := by
  refine steady_optionalBytes.bind fun bytes => ?_
  cases bytes with
  | some bytes => exact (steady_ofUtf8 bytes).map some
  | none => exact .pure none

theorem steady_text (field : String) : Steady (text field) := by
  refine steady_optionalText.bind fun value => ?_
  cases value with
  | some value => exact .pure value
  | none => exact steady_malformed _

/-! ### Repeated and optional parts -/

theorem steady_many (steady : Steady item) (count : Nat) : Steady (many item count) := by
  induction count with
  | zero => exact .pure []
  | succ count induction => exact steady.bind fun _ => induction.bind fun _ => .pure _

theorem steady_optional (present : Bool) (steady : Steady item) :
    Steady (optional present item) :=
  .ite (steady.map some) (.pure none)

theorem steady_orElseValue (present : Bool) (absent : α) (steady : Steady item) :
    Steady (orElseValue present absent item) :=
  .ite steady (.pure absent)

end Reader

/-! ### Whole inputs -/

section Decoders

variable {α β γ : Type} {decode : Bytes → Except DecodeError α}

/-- No accepted byte string is the beginning of another one. -/
def PrefixFree (decode : Bytes → Except DecodeError α) : Prop :=
  ∀ ⦃bytes more value other⦄, decode bytes = .ok value → decode (bytes ++ more) = .ok other →
    more = []

/-- Cut off or continued, an accepted byte string is refused. -/
def SelfDelimiting (decode : Bytes → Except DecodeError α) : Prop :=
  ∀ bytes value, decode bytes = .ok value →
    (∀ front, front <+: bytes → front ≠ bytes → ∃ cause, decode front = .error cause) ∧
    ∀ whole, bytes <+: whole → whole ≠ bytes → ∃ cause, decode whole = .error cause

theorem PrefixFree.selfDelimiting (prefixFree : PrefixFree decode) : SelfDelimiting decode := by
  intro bytes value accepted
  constructor
  · rintro front ⟨more, rfl⟩ cut
    cases read : decode front with
    | error cause => exact ⟨cause, rfl⟩
    | ok other => simp [prefixFree read accepted] at cut
  · rintro whole ⟨more, rfl⟩ continued
    cases read : decode (bytes ++ more) with
    | error cause => exact ⟨cause, rfl⟩
    | ok other => simp [prefixFree accepted read] at continued

theorem Reader.read_of_complete {item : Reader α} {bytes : Bytes} {value : α}
    (accepted : complete item bytes = .ok value) : item bytes = .ok value [] := by
  rw [complete] at accepted
  split at accepted
  next read =>
    cases accepted
    rcases run_bind_eq_ok.mp read with ⟨value, between, itemRead, read⟩
    cases between with
    | nil =>
        cases read
        exact itemRead
    | cons => cases read
  next => cases accepted

theorem Steady.prefixFree_complete {item : Reader α} (steady : Steady item) :
    PrefixFree (Reader.complete item) := by
  intro bytes more value other accepted continued
  have read := steady (Reader.read_of_complete accepted) more
  rw [Reader.read_of_complete continued] at read
  cases read
  rfl

/-- A first step may refuse more. -/
theorem PrefixFree.bind {next : α → Except DecodeError β} (prefixFree : PrefixFree decode) :
    PrefixFree fun bytes => decode bytes >>= next := by
  intro bytes more value other accepted continued
  rcases bind_eq_ok.mp accepted with ⟨_, read, -⟩
  rcases bind_eq_ok.mp continued with ⟨_, readOn, -⟩
  exact prefixFree read readOn

/-- The reader takes all that is left, and more bytes at the end extend its value. -/
def TakesRest (extend : α → Bytes → α) (item : Reader α) : Prop :=
  ∀ ⦃bytes value rest⦄, item bytes = .ok value rest →
    ∀ more, ∃ after, item (bytes ++ more) = .ok (extend value more) after

namespace TakesRest

variable {extend : α → Bytes → α}

theorem takeAll {make : Bytes → α}
    (extends_make : ∀ bytes more, make (bytes ++ more) = extend (make bytes) more) :
    TakesRest extend (Reader.takeAll >>= fun bytes => pure (make bytes)) := by
  intro bytes value rest read more
  cases read
  exact ⟨[], congrArg (EStateM.Result.ok · _) (extends_make bytes more)⟩

theorem throw (error : DecodeError) : TakesRest extend (throw error) :=
  fun _ _ _ read => nomatch read

protected theorem bind {item : Reader β} {next : β → Reader α} (first : Steady item)
    (second : ∀ value, TakesRest extend (next value)) : TakesRest extend (item >>= next) := by
  intro bytes result rest read more
  rcases run_bind_eq_ok.mp read with ⟨value, between, itemRead, nextRead⟩
  rcases second value nextRead more with ⟨after, readOn⟩
  exact ⟨after, run_bind_eq_ok.mpr ⟨value, _, first itemRead more, readOn⟩⟩

/-- A header in front of a content of a self-delimiting format. -/
theorem prefixFree {item : Reader α} {content : α → Except DecodeError γ}
    (takesRest : TakesRest extend item)
    (contents : ∀ {value more result other}, content value = .ok result →
      content (extend value more) = .ok other → more = []) :
    PrefixFree fun bytes => Reader.front item bytes >>= content := by
  intro bytes more result other accepted continued
  rcases bind_eq_ok.mp accepted with ⟨value, read, accepted⟩
  rcases bind_eq_ok.mp continued with ⟨longer, readOn, continued⟩
  rw [Reader.front] at read readOn
  split at read
  next header rest itemRead =>
    cases read
    rcases takesRest itemRead more with ⟨after, itemReadOn⟩
    rw [itemReadOn] at readOn
    cases readOn
    exact contents accepted continued
  next => cases read

end TakesRest

end Decoders

end Telemetry.Wire
