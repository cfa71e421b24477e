import Telemetry.Proofs.RowKey.KeyField

namespace Telemetry.RowKey

open Wire Trace

/-! The order in which a scan comes across the rows of one kind. It is the order of their fields,
one after the other, so the rows that share their first fields stand together and are found with the
newest first. -/

/-! ### Fields -/

def TraceIndexRow.fields (row : TraceIndexRow) : List KeyField :=
  [.text applicationNameWidth row.applicationName, .time row.acceptedTime, .byte row.elapsedSlot]

def StatRow.fields (row : StatRow) : List KeyField :=
  [.text agentIdWidth row.agentId, .byte row.kind.code, .time row.baseTimestamp]

def AgentKey.fields (key : AgentKey) : List KeyField :=
  [.code key.serviceUid, .text applicationNameWidth key.applicationName,
    .code key.serviceTypeCode, .text agentIdWidth key.agentId, .time key.agentStartTime]

theorem TraceIndexKeys.undistributedKey_eq_putAll (row : TraceIndexRow) :
    undistributedKey row.applicationName row.acceptedTime row.elapsedSlot =
      KeyField.putAll row.fields := by
  simp only [undistributedKey, TraceIndexRow.fields, KeyField.putAll, KeyField.put]
  cases written (putPadded applicationNameWidth row.applicationName) with
  | error cause => rfl
  | ok application =>
      cases invertedBytes row.acceptedTime with
      | error cause => rfl
      | ok time => exact congrArg Except.ok (List.append_assoc application time _)

theorem StatKeys.undistributedKey_eq_putAll (row : StatRow) :
    undistributedKey row = KeyField.putAll row.fields := by
  simp only [undistributedKey, StatRow.fields, KeyField.putAll, KeyField.put]
  cases written (putPadded agentIdWidth row.agentId) with
  | error cause => rfl
  | ok agentId =>
      cases invertedBytes row.baseTimestamp with
      | error cause => rfl
      | ok time =>
          refine congrArg Except.ok ?_
          simp only [List.append_nil, List.singleton_append]

theorem AgentKey.encode_eq_putAll (key : AgentKey) : key.encode = KeyField.putAll key.fields := by
  simp only [encode, agentPart, serviceTypePart, applicationPart, AgentKey.fields,
    KeyField.putAll, KeyField.put]
  cases written (putPadded applicationNameWidth key.applicationName) with
  | error cause => rfl
  | ok application =>
      cases written (putPadded agentIdWidth key.agentId) with
      | error cause => rfl
      | ok agentId =>
          cases invertedBytes key.agentStartTime with
          | error cause => rfl
          | ok time =>
              refine congrArg Except.ok ?_
              simp only [List.append_assoc, List.append_nil]

/-- A bucket in front of a key does not change what stands behind it. -/
theorem undistributed_map_distribute (distributor : Distributor)
    (key : Except RowKeyError Bytes) :
    undistributed <$> (distributor.distribute <$> key) = key := by
  cases key <;> rfl

/-! ### Scans -/

/-- What a scan relies on, for the keys of rows with the given fields. -/
structure ScanOrdered {ρ : Type} (encode : ρ → Except RowKeyError Bytes)
    (fields : ρ → List KeyField) : Prop where
  accepted_iff : ∀ row, (∃ key, encode row = .ok key) ↔ ∀ field ∈ fields row, field.Fits
  negative : ∀ {row time}, .time time ∈ fields row → time.toInt < 0 →
    ∃ cause, encode row = .error cause
  lt_iff : ∀ {row other key otherKey}, encode row = .ok key → encode other = .ok otherKey →
    (key < otherKey ↔ (fields row).map KeyField.rank < (fields other).map KeyField.rank)
  eq_iff : ∀ {row other key otherKey}, encode row = .ok key → encode other = .ok otherKey →
    (key = otherKey ↔ (fields row).map KeyField.rank = (fields other).map KeyField.rank)
  /-- Where the earlier fields agree, and the later ones do if the times do, the newer row comes
  first. -/
  newest_first : ∀ {row other key otherKey earlier otherEarlier time otherTime later otherLater},
    encode row = .ok key → encode other = .ok otherKey →
    fields row = earlier ++ .time time :: later →
    fields other = otherEarlier ++ .time otherTime :: otherLater →
    earlier.map KeyField.rank = otherEarlier.map KeyField.rank →
    (time = otherTime → later.map KeyField.rank = otherLater.map KeyField.rank) →
    (otherKey < key ↔ time.toInt < otherTime.toInt)
  /-- Between two rows that share their first fields there are only rows that share them, too. -/
  contiguous : ∀ {first middle last firstKey middleKey lastKey count},
    encode first = .ok firstKey → encode middle = .ok middleKey → encode last = .ok lastKey →
    firstKey ≤ middleKey → middleKey ≤ lastKey →
    ((fields first).take count).map KeyField.rank = ((fields last).take count).map KeyField.rank →
    ((fields middle).take count).map KeyField.rank = ((fields first).take count).map KeyField.rank

section Scans

variable {ρ : Type} {encode : ρ → Except RowKeyError Bytes} {fields : ρ → List KeyField}

/-- Rows with the same first fields have the same bytes there, which no key in between can leave. -/
theorem take_rank_of_between {shapes : List Shape} {first middle last : List KeyField}
    {firstKey middleKey lastKey : Bytes} {count : Nat}
    (firstShapes : first.map KeyField.shape = shapes)
    (middleShapes : middle.map KeyField.shape = shapes)
    (lastShapes : last.map KeyField.shape = shapes)
    (firstPut : KeyField.putAll first = .ok firstKey)
    (middlePut : KeyField.putAll middle = .ok middleKey)
    (lastPut : KeyField.putAll last = .ok lastKey)
    (low : firstKey ≤ middleKey) (high : middleKey ≤ lastKey)
    (shared : (first.take count).map KeyField.rank = (last.take count).map KeyField.rank) :
    (middle.take count).map KeyField.rank = (first.take count).map KeyField.rank := by
  rw [← List.take_append_drop count first, KeyField.putAll_append_eq_ok] at firstPut
  rw [← List.take_append_drop count middle, KeyField.putAll_append_eq_ok] at middlePut
  rw [← List.take_append_drop count last, KeyField.putAll_append_eq_ok] at lastPut
  rcases firstPut with ⟨firstFront, firstRest, firstFrontPut, -, rfl⟩
  rcases middlePut with ⟨middleFront, middleRest, middleFrontPut, -, rfl⟩
  rcases lastPut with ⟨lastFront, lastRest, lastFrontPut, -, rfl⟩
  have taken {fields : List KeyField} (same : fields.map KeyField.shape = shapes) :
      (fields.take count).map KeyField.shape = shapes.take count := by
    rw [List.map_take, same]
  have firstMiddle := KeyField.putAll_compares
    ((taken firstShapes).trans (taken middleShapes).symm) firstFrontPut middleFrontPut
  have middleLast := KeyField.putAll_compares
    ((taken middleShapes).trans (taken lastShapes).symm) middleFrontPut lastFrontPut
  have firstLast := KeyField.putAll_compares
    ((taken firstShapes).trans (taken lastShapes).symm) firstFrontPut lastFrontPut
  have same : firstFront = lastFront := firstLast.eq_iff.mpr shared
  have notBelow : ¬ middleFront < firstFront := fun below =>
    low ((append_lt_append_iff firstMiddle.width.symm _ _).mpr (.inl below))
  have notAbove : ¬ firstFront < middleFront := fun above =>
    high ((append_lt_append_iff middleLast.width.symm _ _).mpr (.inl (same ▸ above)))
  exact (firstMiddle.eq_iff.mp (List.le_antisymm notBelow notAbove)).symm

theorem ScanOrdered.of_fields (shapes : List Shape)
    (laid : ∀ row, (fields row).map KeyField.shape = shapes)
    (encodes : ∀ row, encode row = KeyField.putAll (fields row)) : ScanOrdered encode fields := by
  have compares {row other : ρ} {key otherKey : Bytes} (encoded : encode row = .ok key)
      (otherEncoded : encode other = .ok otherKey) :
      KeyField.Compares key otherKey ((fields row).map KeyField.rank)
        ((fields other).map KeyField.rank) :=
    KeyField.putAll_compares ((laid row).trans (laid other).symm) (encodes row ▸ encoded)
      (encodes other ▸ otherEncoded)
  have accepted (row : ρ) :
      (∃ key, encode row = .ok key) ↔ ∀ field ∈ fields row, field.Fits := by
    rw [encodes, KeyField.exists_putAll_iff]
  refine ⟨accepted, ?_, fun encoded otherEncoded => (compares encoded otherEncoded).lt_iff,
    fun encoded otherEncoded => (compares encoded otherEncoded).eq_iff, ?_, ?_⟩
  · intro row time member below
    cases outcome : encode row with
    | error cause => exact ⟨cause, rfl⟩
    | ok key =>
        have notNegative : 0 ≤ time.toInt := (accepted row).mp ⟨key, outcome⟩ _ member
        omega
  · intro row other key otherKey earlier otherEarlier time otherTime later otherLater encoded
      otherEncoded parts otherParts same laterSame
    rw [(compares otherEncoded encoded).lt_iff, parts, otherParts, List.map_append,
      List.map_append, same, Rank.append_lt_append_left_iff, List.map_cons, List.map_cons,
      List.cons_lt_cons_iff]
    constructor
    · rintro (newer | ⟨sameTime, below⟩)
      · exact newer
      · -- Rows of one time are told apart by later fields only.
        rw [KeyField.rank, KeyField.rank, Rank.newestFirst.injEq, Int64.toInt_inj] at sameTime
        rw [laterSame sameTime.symm] at below
        exact absurd below (List.lt_irrefl _)
    · exact fun newer => .inl newer
  · intro first middle last firstKey middleKey lastKey count firstEncoded middleEncoded lastEncoded
    exact take_rank_of_between (laid first) (laid middle) (laid last) (encodes first ▸ firstEncoded)
      (encodes middle ▸ middleEncoded) (encodes last ▸ lastEncoded)

end Scans

/-- Behind their buckets the keys of traces, of statistics and of agents are in the order of their
fields. -/
theorem keys_scanOrdered (traces : TraceIndexKeys) (stats : StatKeys) :
    ScanOrdered (fun row : TraceIndexRow => TraceIndexKeys.undistributedKey row.applicationName
        row.acceptedTime row.elapsedSlot) TraceIndexRow.fields ∧
      ScanOrdered (fun span => undistributed <$> traces.encodeSpan span)
        (fun span => (TraceIndexRow.ofSpan span).fields) ∧
      ScanOrdered (fun row => undistributed <$> stats.encode row) StatRow.fields ∧
      ScanOrdered AgentKey.encode AgentKey.fields := by
  refine ⟨?_, ?_, ?_, ?_⟩
  · exact .of_fields [.text applicationNameWidth, .time, .byte] (fun _ => rfl)
      TraceIndexKeys.undistributedKey_eq_putAll
  · refine .of_fields [.text applicationNameWidth, .time, .byte] (fun _ => rfl) fun span => ?_
    rw [TraceIndexKeys.encodeSpan, TraceIndexKeys.encode, undistributed_map_distribute]
    exact TraceIndexKeys.undistributedKey_eq_putAll (.ofSpan span)
  · refine .of_fields [.text agentIdWidth, .byte, .time] (fun _ => rfl) fun row => ?_
    rw [StatKeys.encode, undistributed_map_distribute, StatKeys.undistributedKey_eq_putAll]
  · exact .of_fields [.code, .text applicationNameWidth, .code, .text agentIdWidth, .time]
      (fun _ => rfl) AgentKey.encode_eq_putAll

end Telemetry.RowKey
