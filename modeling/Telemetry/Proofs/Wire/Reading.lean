import Mathlib.Algebra.Group.Int.Defs
import Mathlib.Algebra.Group.Nat.Defs
import Telemetry.Wire.Sequence

namespace Telemetry.Wire

/-! What it means that a reader undoes a writer. A reader takes its value off the front of the
bytes, so the property has to hold whatever stands behind them: only then do the readers of the
parts compose to the reader of the whole. -/

/-! ### Taking a successful writer apart -/

theorem bind_eq_ok {ε α β : Type} {first : Except ε α} {next : α → Except ε β} {result : β} :
    first >>= next = .ok result ↔ ∃ value, first = .ok value ∧ next value = .ok result := by
  cases first with
  | error cause => exact ⟨(nomatch ·), fun ⟨_, equal, _⟩ => nomatch equal⟩
  | ok value =>
      constructor
      · exact fun equal => ⟨value, rfl, equal⟩
      · rintro ⟨other, equal, holds⟩
        cases equal
        exact holds

/-- A choice between two parts, before a rest that is written after either of them. -/
theorem ite_bind_eq_ok {ε α β : Type} {condition : Prop} [Decidable condition]
    {first other : Except ε α} {next : α → Except ε β} {result : β} :
    (if condition then first >>= next else other >>= next) = .ok result ↔
      ∃ value, (if condition then first else other) = .ok value ∧ next value = .ok result := by
  split <;> exact bind_eq_ok

theorem map_eq_ok {ε α β : Type} {transform : α → β} {first : Except ε α} {result : β} :
    transform <$> first = .ok result ↔ ∃ value, first = .ok value ∧ transform value = result := by
  cases first with
  | error cause => exact ⟨(nomatch ·), fun ⟨_, equal, _⟩ => nomatch equal⟩
  | ok value =>
      constructor
      · exact fun equal => ⟨value, rfl, Except.ok.inj equal⟩
      · rintro ⟨other, equal, rfl⟩
        cases equal
        rfl

theorem toOption_eq_some {ε α : Type} {result : Except ε α} {value : α} :
    result.toOption = some value ↔ result = .ok value := by
  cases result <;> simp [Except.toOption]

/-- A step that succeeds for every element. -/
theorem mapM_eq_ok {ε α β : Type} {step : α → Except ε β} {after : α → β} {values : List α}
    (passes : ∀ value ∈ values, step value = .ok (after value)) :
    values.mapM step = .ok (values.map after) := by
  induction values with
  | nil => rfl
  | cons value values induction =>
      have rest := induction fun later member => passes later (List.mem_cons_of_mem value member)
      rw [List.mapM_cons, passes value List.mem_cons_self, rest]
      rfl

theorem mapM_cons_eq_ok {ε α β : Type} {step : α → Except ε β} {value : α} {values : List α}
    {results : List β} : (value :: values).mapM step = .ok results ↔
      ∃ first others, step value = .ok first ∧ values.mapM step = .ok others ∧
        results = first :: others := by
  rw [List.mapM_cons]
  constructor
  · intro passed
    rcases bind_eq_ok.mp passed with ⟨first, firstPassed, passed⟩
    rcases bind_eq_ok.mp passed with ⟨others, othersPassed, passed⟩
    cases passed
    exact ⟨first, others, firstPassed, othersPassed, rfl⟩
  · rintro ⟨first, others, firstPassed, othersPassed, rfl⟩
    rw [firstPassed, othersPassed]
    rfl

/-- A step for every element can be taken where each of them can. -/
theorem exists_mapM_iff {ε α β : Type} {step : α → Except ε β} {values : List α} :
    (∃ results, values.mapM step = .ok results) ↔
      ∀ value ∈ values, ∃ result, step value = .ok result := by
  induction values with
  | nil => exact ⟨fun _ => nofun, fun _ => ⟨[], rfl⟩⟩
  | cons value values induction =>
      simp only [List.forall_mem_cons, ← induction, mapM_cons_eq_ok]
      constructor
      · rintro ⟨-, first, others, firstPassed, othersPassed, -⟩
        exact ⟨⟨first, firstPassed⟩, others, othersPassed⟩
      · rintro ⟨⟨first, firstPassed⟩, others, othersPassed⟩
        exact ⟨_, first, others, firstPassed, othersPassed, rfl⟩

theorem length_mapM {ε α β : Type} {step : α → Except ε β} {values : List α} {results : List β}
    (passed : values.mapM step = .ok results) : results.length = values.length := by
  induction values generalizing results with
  | nil =>
      cases passed
      rfl
  | cons value values induction =>
      rcases mapM_cons_eq_ok.mp passed with ⟨first, others, -, othersPassed, rfl⟩
      rw [List.length_cons, List.length_cons, induction othersPassed]

theorem mem_mapM {ε α β : Type} {step : α → Except ε β} {values : List α} {results : List β}
    (passed : values.mapM step = .ok results) {result : β} (member : result ∈ results) :
    ∃ value ∈ values, step value = .ok result := by
  induction values generalizing results with
  | nil =>
      cases passed
      cases member
  | cons value values induction =>
      rcases mapM_cons_eq_ok.mp passed with ⟨first, others, firstPassed, othersPassed, rfl⟩
      rcases List.mem_cons.mp member with rfl | later
      · exact ⟨value, List.mem_cons_self, firstPassed⟩
      · rcases induction othersPassed later with ⟨found, inside, foundPassed⟩
        exact ⟨found, List.mem_cons_of_mem value inside, foundPassed⟩

/-! ### Running one part after another -/

section Run

variable {ε σ α β : Type} {first : EStateM ε σ α} {next : α → EStateM ε σ β} {state after : σ}

theorem run_bind_of_ok {value : α} (ran : first state = .ok value after) :
    (first >>= next) state = next value after := by
  change EStateM.bind first next state = _
  rw [EStateM.bind, ran]

theorem run_bind_of_error {cause : ε} (failed : first state = .error cause after) :
    (first >>= next) state = .error cause after := by
  change EStateM.bind first next state = _
  rw [EStateM.bind, failed]

theorem run_map_of_ok {transform : α → β} {value : α} (ran : first state = .ok value after) :
    (transform <$> first) state = .ok (transform value) after := by
  change EStateM.map transform first state = _
  rw [EStateM.map, ran]

theorem run_map_of_error {transform : α → β} {cause : ε}
    (failed : first state = .error cause after) :
    (transform <$> first) state = .error cause after := by
  change EStateM.map transform first state = _
  rw [EStateM.map, failed]

end Run

namespace Reader

variable {α β : Type} {item : Reader α} {bytes more : Bytes} {value : α} {result : β}

/-- The reader gets `value` from exactly these bytes, whatever stands behind them. -/
def Reads (item : Reader α) (bytes : Bytes) (value : α) : Prop :=
  ∀ rest, item (bytes ++ rest) = .ok value rest

/-- The reader gets `value` from these bytes and uses all of them up. -/
def ReadsAll (item : Reader α) (bytes : Bytes) (value : α) : Prop := item bytes = .ok value []

theorem readsAll_takeAll (transform : Bytes → β) (bytes : Bytes) :
    ReadsAll (takeAll >>= fun bytes => pure (transform bytes)) bytes (transform bytes) := rfl

theorem ReadsAll.front_eq (reads : ReadsAll item bytes value) : front item bytes = .ok value := by
  rw [front, reads]

namespace Reads

protected theorem pure (value : α) : Reads (Pure.pure value) [] value := fun _ => rfl

/-- After a part that is read, the reader goes on with what stands behind it. -/
theorem run_bind (reads : Reads item bytes value) (next : α → Reader β) (rest : Bytes) :
    (item >>= next) (bytes ++ rest) = next value rest :=
  run_bind_of_ok (reads rest)

protected theorem bind {next : α → Reader β} (first : Reads item bytes value)
    (second : Reads (next value) more result) :
    Reads (item >>= next) (bytes ++ more) result := by
  intro rest
  rw [List.append_assoc, first.run_bind]
  exact second rest

protected theorem map (transform : α → β) (reads : Reads item bytes value) :
    Reads (transform <$> item) bytes (transform value) := by
  intro rest
  change EStateM.map transform item (bytes ++ rest) = .ok (transform value) rest
  rw [EStateM.map, reads rest]

/-- A last part whose value is only wrapped up. -/
theorem bind_pure {transform : α → β} (reads : Reads item bytes value) :
    Reads (item >>= fun value => Pure.pure (transform value)) bytes (transform value) := by
  have ends : Reads (item >>= fun value => Pure.pure (transform value)) (bytes ++ [])
      (transform value) :=
    reads.bind (Reads.pure (transform value))
  rwa [List.append_nil] at ends

/-- A check of what is left passes where the bytes of the part alone satisfy it. -/
theorem afterRemaining {check : Nat → Prop} [DecidablePred check] {cause : Nat → FormatError}
    (reads : Reads item bytes value) (passes : ∀ count, bytes.length ≤ count → ¬ check count) :
    Reads (do
      let count ← remaining
      if check count then malformed (cause count) else item) bytes value := by
  intro rest
  have holds : ¬ check (bytes ++ rest).length := passes _ (by simp)
  change (if check (bytes ++ rest).length then malformed (cause (bytes ++ rest).length) else item)
    (bytes ++ rest) = .ok value rest
  rw [if_neg holds]
  exact reads rest

/-- The last part may take whatever is left. -/
theorem bind_all {next : α → Reader β} (first : Reads item bytes value)
    (second : ReadsAll (next value) more result) :
    ReadsAll (item >>= next) (bytes ++ more) result :=
  (first.run_bind next more).trans second

theorem front_eq (reads : Reads item bytes value) : front item bytes = .ok value := by
  have whole := reads []
  rw [List.append_nil] at whole
  rw [front, whole]

theorem complete_eq (reads : Reads item bytes value) : complete item bytes = .ok value := by
  have ends := reads.run_bind (fun value => do expectEnd; Pure.pure value) []
  rw [List.append_nil] at ends
  rw [complete, ends]
  rfl

end Reads

end Reader

/-- The reader gets back whatever the writer put. -/
def ReadsBack {α : Type} (put : α → Except EncodeError Bytes) (item : Reader α) : Prop :=
  ∀ value bytes, put value = .ok bytes → item.Reads bytes value

/-! ### Fixed-width parts -/

theorem bigEndian_succ (width value : Nat) :
    bigEndian (width + 1) value = UInt8.ofNat (value / 256 ^ width) :: bigEndian width value := by
  rw [bigEndian, Nat.shiftRight_eq_div_pow, Nat.pow_mul]

theorem length_bigEndian (width value : Nat) : (bigEndian width value).length = width := by
  induction width with
  | zero => rfl
  | succ width induction => rw [bigEndian_succ, List.length_cons, induction]

private theorem foldl_bigEndian (width value start : Nat) :
    (bigEndian width value).foldl (fun value byte => value * 256 + byte.toNat) start =
      start * 256 ^ width + value % 256 ^ width := by
  induction width generalizing start with
  | zero => simp [bigEndian, Nat.mod_one]
  | succ width induction =>
      have byte : (UInt8.ofNat (value / 256 ^ width)).toNat = value / 256 ^ width % 256 := by
        rw [UInt8.toNat_ofNat']
      rw [bigEndian_succ, List.foldl_cons, induction, byte, Nat.pow_succ, Nat.mod_mul]
      grind

theorem ofBigEndian_bigEndian {width value : Nat} (fits : value < 256 ^ width) :
    ofBigEndian (bigEndian width value) = value := by
  rw [ofBigEndian, foldl_bigEndian, Nat.mod_eq_of_lt fits]
  simp

namespace Reader

theorem reads_byte (value : UInt8) : Reads byte [value] value := fun _ => rfl

theorem reads_bool (value : Bool) : Reads bool (putBool value) value := by
  cases value <;> exact fun _ => rfl

theorem reads_take (bytes : Bytes) : Reads (take bytes.length) bytes bytes := by
  intro rest
  have fits : bytes.length ≤ (bytes ++ rest).length := by simp
  rw [take, if_pos fits, List.take_left, List.drop_left]

theorem reads_bigEndian (width : Nat) {value : Nat} (fits : value < 256 ^ width) :
    Reads (bigEndian width) (Wire.bigEndian width value) value := by
  have reads := (reads_take (Wire.bigEndian width value)).map ofBigEndian
  rwa [length_bigEndian, ofBigEndian_bigEndian fits] at reads

theorem reads_uint16 (value : UInt16) : Reads uint16 (putUInt16 value) value := by
  have reads := (reads_bigEndian 2 value.toNat_lt).map UInt16.ofNat
  rwa [UInt16.ofNat_toNat] at reads

theorem reads_int16 (value : Int16) : Reads int16 (putInt16 value) value := by
  have reads := (reads_bigEndian 2 value.toUInt16.toNat_lt).map
    fun bits => (UInt16.ofNat bits).toInt16
  rwa [UInt16.ofNat_toNat] at reads

theorem reads_int32 (value : Int32) : Reads int32 (putInt32 value) value := by
  have reads := (reads_bigEndian 4 value.toUInt32.toNat_lt).map
    fun bits => (UInt32.ofNat bits).toInt32
  rwa [UInt32.ofNat_toNat] at reads

theorem reads_uint64 (value : UInt64) : Reads uint64 (putUInt64 value) value := by
  have reads := (reads_bigEndian 8 value.toNat_lt).map UInt64.ofNat
  rwa [UInt64.ofNat_toNat] at reads

theorem reads_int64 (value : Int64) : Reads int64 (putInt64 value) value := by
  have reads := (reads_bigEndian 8 value.toUInt64.toNat_lt).map
    fun bits => (UInt64.ofNat bits).toInt64
  rwa [UInt64.ofNat_toNat] at reads

theorem readsBack_int64 : ReadsBack (fun value => .ok (putInt64 value)) int64 := by
  intro value bytes written
  cases written
  exact reads_int64 value

end Reader

end Telemetry.Wire
