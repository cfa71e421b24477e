import Telemetry.Proofs.RowKey.TraceIndexKey
import Telemetry.RowKey.AgentKey
import Telemetry.RowKey.StatKey

namespace Telemetry.RowKey

open Wire Trace Text

/-! What a key tells about the entity it belongs to. Fields have fixed widths and are filled up with
NULs, so a key determines all numbers and every text up to the NULs at its end; what is read back
has lost the spaces there, too. Entities whose texts end in neither are told apart. -/

/-! ### Parts of keys -/

theorem putInt64_inj {left right : Int64} : putInt64 left = putInt64 right ↔ left = right := by
  refine ⟨fun same => ?_, fun same => by rw [same]⟩
  have bits : left.toUInt64.toNat = right.toUInt64.toNat :=
    (bigEndian_inj left.toUInt64.toNat_lt right.toUInt64.toNat_lt).mp same
  cases left
  cases right
  exact congrArg _ (UInt64.toNat_inj.mp bits)

theorem putInt32_inj {left right : Int32} : putInt32 left = putInt32 right ↔ left = right := by
  refine ⟨fun same => ?_, fun same => by rw [same]⟩
  have bits : left.toUInt32.toNat = right.toUInt32.toNat :=
    (bigEndian_inj left.toUInt32.toNat_lt right.toUInt32.toNat_lt).mp same
  cases left
  cases right
  exact congrArg _ (UInt32.toNat_inj.mp bits)

theorem length_putInt64 (value : Int64) : (putInt64 value).length = 8 := length_bigEndian 8 _

theorem length_putInt32 (value : Int32) : (putInt32 value).length = 4 := length_bigEndian 4 _

theorem Distributor.distribute_inj {distributor : Distributor} {key other : Bytes} :
    distributor.distribute key = distributor.distribute other ↔ key = other := by
  refine ⟨fun same => ?_, fun same => by rw [same]⟩
  exact congrArg undistributed same

theorem StatKind.code_inj {left right : Stat.StatKind} : left.code = right.code ↔ left = right := by
  cases left <;> cases right <;> decide

/-! ### Entities -/

/-- The fields of an entity, some of which are texts. -/
class Described (fields : Type) where
  texts : fields → List String
  onTexts : (String → String) → fields → fields
  onTexts_eq_self_iff : ∀ change entity,
    onTexts change entity = entity ↔ ∀ text ∈ texts entity, change text = text

instance : Described TransactionId where
  texts id := [id.agentId]
  onTexts change id := { id with agentId := change id.agentId }
  onTexts_eq_self_iff change id := by
    cases id
    simp

instance : Described StatRow where
  texts row := [row.agentId]
  onTexts change row := { row with agentId := change row.agentId }
  onTexts_eq_self_iff change row := by
    cases row
    simp

instance : Described TraceIndexRow where
  texts row := [row.applicationName]
  onTexts change row := { row with applicationName := change row.applicationName }
  onTexts_eq_self_iff change row := by
    cases row
    simp

instance : Described AgentKey where
  texts key := [key.applicationName, key.agentId]
  onTexts change key :=
    { key with applicationName := change key.applicationName, agentId := change key.agentId }
  onTexts_eq_self_iff change key := by
    cases key
    simp

/-- None of the texts ends in a NUL or a space. -/
def Unpadded {φ : Type} [Described φ] (entity : φ) : Prop :=
  ∀ text ∈ Described.texts entity, endsWithPadding text = false

theorem unpadded_iff {φ : Type} [Described φ] (entity : φ) :
    Unpadded entity ↔ Described.onTexts withoutPadding entity = entity := by
  simp only [Unpadded, Described.onTexts_eq_self_iff, endsWithPadding_eq_false_iff]

/-- What the keys of one sort tell about the fields they are made of. -/
structure Identifies {α φ : Type} [Described φ] (encode : α → Except RowKeyError Bytes)
    (decode : Bytes → Except RowKeyError φ) (fields : α → φ) : Prop where
  decoded : ∀ {value key}, encode value = .ok key →
    decode key = .ok (Described.onTexts withoutPadding (fields value))
  /-- The fields come back as they are exactly where no text ends in padding. -/
  exact_iff : ∀ {value key}, encode value = .ok key →
    (decode key = .ok (fields value) ↔ Unpadded (fields value))
  same_iff : ∀ {value other key otherKey}, encode value = .ok key → encode other = .ok otherKey →
    (key = otherKey ↔
      Described.onTexts withoutNuls (fields value) = Described.onTexts withoutNuls (fields other))
  /-- Entities whose texts do not end in padding never share a key. -/
  distinct : ∀ {value other key}, Unpadded (fields value) → Unpadded (fields other) →
    encode value = .ok key → encode other = .ok key → fields value = fields other

theorem Identifies.of_decoded {α φ : Type} [Described φ] {encode : α → Except RowKeyError Bytes}
    {decode : Bytes → Except RowKeyError φ} {fields : α → φ}
    (decoded : ∀ {value key}, encode value = .ok key →
      decode key = .ok (Described.onTexts withoutPadding (fields value)))
    (same_iff : ∀ {value other key otherKey}, encode value = .ok key →
      encode other = .ok otherKey → (key = otherKey ↔
        Described.onTexts withoutNuls (fields value) =
          Described.onTexts withoutNuls (fields other))) :
    Identifies encode decode fields where
  decoded := decoded
  exact_iff := by
    intro value key written
    rw [decoded written, Except.ok.injEq, unpadded_iff]
  same_iff := same_iff
  distinct := by
    intro value other key clean otherClean written otherWritten
    have read := decoded written
    rw [decoded otherWritten, (unpadded_iff _).mp clean, (unpadded_iff _).mp otherClean] at read
    exact (Except.ok.inj read).symm

/-! ### Transactions -/

namespace TransactionKeys

variable {keys : TransactionKeys} {id other : TransactionId} {key otherKey : Bytes}

theorem encode_eq_ok : keys.encode id = .ok key ↔
    ∃ agentId, putPadded agentIdWidth id.agentId = .ok agentId ∧
      keys.distributor.distribute
        (agentId ++ (putInt64 id.agentStartTime ++ putInt64 id.sequence)) = key := by
  simp only [encode, undistributedKey, map_eq_ok, bind_eq_ok, written_eq_ok, pure, Except.pure,
    Except.ok.injEq, List.append_assoc]
  grind

theorem decode_encode (encoded : keys.encode id = .ok key) :
    decode key = .ok { id with agentId := withoutPadding id.agentId } := by
  rcases encode_eq_ok.mp encoded with ⟨agentId, agentWritten, rfl⟩
  have fields : Reader.Reads readKey
      (agentId ++ (putInt64 id.agentStartTime ++ putInt64 id.sequence))
      ⟨withoutPadding id.agentId, id.agentStartTime, id.sequence⟩ :=
    (Reader.reads_withoutPadding agentWritten).bind
      ((Reader.reads_int64 _).bind (Reader.reads_int64 _).bind_pure)
  rw [decode, readUndistributed_distribute, fields.front_eq]
  · rfl
  · simp [length_putPadded agentWritten, length_putInt64, transactionKeyLength]

theorem key_eq_iff (encoded : keys.encode id = .ok key)
    (otherEncoded : keys.encode other = .ok otherKey) :
    key = otherKey ↔ { id with agentId := withoutNuls id.agentId } =
      { other with agentId := withoutNuls other.agentId } := by
  rcases encode_eq_ok.mp encoded with ⟨agentId, agentWritten, rfl⟩
  rcases encode_eq_ok.mp otherEncoded with ⟨otherAgent, otherWritten, rfl⟩
  have width := (length_putPadded agentWritten).trans (length_putPadded otherWritten).symm
  have number := (length_putInt64 id.agentStartTime).trans
    (length_putInt64 other.agentStartTime).symm
  rw [Distributor.distribute_inj, List.append_eq_append_iff_of_size_eq_left width,
    List.append_eq_append_iff_of_size_eq_left number, putPadded_inj_iff agentWritten otherWritten,
    putInt64_inj, putInt64_inj, TransactionId.mk.injEq]

end TransactionKeys

/-! ### Statistics -/

namespace StatKeys

variable {keys : StatKeys} {row other : StatRow} {key otherKey : Bytes}

theorem encode_eq_ok : keys.encode row = .ok key ↔
    ∃ agentId, putPadded agentIdWidth row.agentId = .ok agentId ∧
      0 ≤ row.baseTimestamp.toInt ∧
      keys.distributor.distribute
        (agentId ++ ([row.kind.code] ++ putInt64 (maxTimestamp - row.baseTimestamp))) = key := by
  simp only [encode, undistributedKey, map_eq_ok, bind_eq_ok, written_eq_ok, invertedBytes_eq_ok,
    pure, Except.pure, Except.ok.injEq, List.singleton_append]
  constructor
  · rintro ⟨-, ⟨agentId, agentWritten, -, ⟨notNegative, rfl⟩, rfl⟩, whole⟩
    exact ⟨agentId, agentWritten, notNegative, whole⟩
  · rintro ⟨agentId, agentWritten, notNegative, whole⟩
    exact ⟨_, ⟨agentId, agentWritten, _, ⟨notNegative, rfl⟩, rfl⟩, whole⟩

theorem decode_encode (encoded : keys.encode row = .ok key) :
    decode key = .ok { row with agentId := withoutPadding row.agentId } := by
  rcases encode_eq_ok.mp encoded with ⟨agentId, agentWritten, notNegative, rfl⟩
  have fields : Reader.Reads (do
      let agentId ← Reader.padded agentIdWidth
      let code ← Reader.byte
      let kind ← Reader.lift (Stat.StatKind.ofCode code)
      let inverted ← Reader.int64
      pure (agentId, kind, inverted))
      (agentId ++ ([row.kind.code] ++ putInt64 (maxTimestamp - row.baseTimestamp)))
      (withoutPadding row.agentId, row.kind, maxTimestamp - row.baseTimestamp) := by
    apply (Reader.reads_withoutPadding agentWritten).bind
    apply (Reader.reads_byte row.kind.code).bind
    have known : Stat.StatKind.ofCode row.kind.code = .ok row.kind := by cases row.kind <;> rfl
    rw [known]
    exact (Reader.reads_int64 _).bind_pure
  rw [decode, readUndistributed_distribute, fields.front_eq]
  · exact bind_eq_ok.mpr ⟨_, rfl, bind_eq_ok.mpr ⟨_, restore_inverted notNegative, rfl⟩⟩
  · simp [length_putPadded agentWritten, length_putInt64, statKeyLength]

theorem key_eq_iff (encoded : keys.encode row = .ok key)
    (otherEncoded : keys.encode other = .ok otherKey) :
    key = otherKey ↔ { row with agentId := withoutNuls row.agentId } =
      { other with agentId := withoutNuls other.agentId } := by
  rcases encode_eq_ok.mp encoded with ⟨agentId, agentWritten, notNegative, rfl⟩
  rcases encode_eq_ok.mp otherEncoded with ⟨otherAgent, otherWritten, otherNotNegative, rfl⟩
  have width := (length_putPadded agentWritten).trans (length_putPadded otherWritten).symm
  have code : [row.kind.code].length = [other.kind.code].length := rfl
  rw [Distributor.distribute_inj, List.append_eq_append_iff_of_size_eq_left width,
    List.append_eq_append_iff_of_size_eq_left code, List.singleton_inj,
    putPadded_inj_iff agentWritten otherWritten, StatKind.code_inj,
    putInt64_inverted_inj notNegative otherNotNegative, StatRow.mk.injEq]

end StatKeys

/-! ### Traces of an application -/

def TraceIndexRow.ofSpan (span : Span) : TraceIndexRow where
  applicationName := span.applicationName
  acceptedTime := span.collectorAcceptTime
  elapsedSlot := RowKey.elapsedSlot span.elapsed.toInt

namespace TraceIndexKeys

variable {keys : TraceIndexKeys} {span other : Span} {key otherKey : Bytes}

theorem encodeSpan_eq_ok : keys.encodeSpan span = .ok key ↔
    ∃ undistributed, undistributedKey span.applicationName span.collectorAcceptTime
      (elapsedSlot span.elapsed.toInt) = .ok undistributed ∧
      keys.distributor.distribute undistributed = key := by
  rw [encodeSpan, encode, map_eq_ok]

theorem decode_encodeSpan (encoded : keys.encodeSpan span = .ok key) :
    decode key = .ok (Described.onTexts withoutPadding (TraceIndexRow.ofSpan span)) := by
  rcases encodeSpan_eq_ok.mp encoded with ⟨undistributed, written, rfl⟩
  exact decode_distribute keys.distributor written

theorem key_eq_iff (encoded : keys.encodeSpan span = .ok key)
    (otherEncoded : keys.encodeSpan other = .ok otherKey) :
    key = otherKey ↔ Described.onTexts withoutNuls (TraceIndexRow.ofSpan span) =
      Described.onTexts withoutNuls (TraceIndexRow.ofSpan other) := by
  rcases encodeSpan_eq_ok.mp encoded with ⟨_, written, rfl⟩
  rcases encodeSpan_eq_ok.mp otherEncoded with ⟨_, otherWritten, rfl⟩
  rcases undistributedKey_eq_ok.mp written with ⟨application, nameWritten, notNegative, rfl⟩
  rcases undistributedKey_eq_ok.mp otherWritten with
    ⟨otherApplication, otherNameWritten, otherNotNegative, rfl⟩
  have width := (length_putPadded nameWritten).trans (length_putPadded otherNameWritten).symm
  have number := (length_putInt64 (maxTimestamp - span.collectorAcceptTime)).trans
    (length_putInt64 (maxTimestamp - other.collectorAcceptTime)).symm
  rw [Distributor.distribute_inj, List.append_assoc, List.append_assoc,
    List.append_eq_append_iff_of_size_eq_left width,
    List.append_eq_append_iff_of_size_eq_left number, List.singleton_inj,
    putPadded_inj_iff nameWritten otherNameWritten,
    putInt64_inverted_inj notNegative otherNotNegative]
  simp only [Described.onTexts, TraceIndexRow.ofSpan, TraceIndexRow.mk.injEq]

end TraceIndexKeys

/-! ### Agents -/

namespace AgentKey

variable {agent other : AgentKey} {key otherKey : Bytes}

theorem encode_eq_ok : agent.encode = .ok key ↔
    ∃ application agentId, putPadded applicationNameWidth agent.applicationName = .ok application ∧
      putPadded agentIdWidth agent.agentId = .ok agentId ∧ 0 ≤ agent.agentStartTime.toInt ∧
      putInt32 agent.serviceUid ++ (application ++ (putInt32 agent.serviceTypeCode ++
        (agentId ++ putInt64 (maxTimestamp - agent.agentStartTime)))) = key := by
  simp only [encode, agentPart, serviceTypePart, applicationPart, bind_eq_ok, written_eq_ok,
    invertedBytes_eq_ok, pure, Except.pure, Except.ok.injEq]
  constructor
  · rintro ⟨-, ⟨-, ⟨-, ⟨application, nameWritten, rfl⟩, rfl⟩, agentId, agentWritten, rfl⟩, -,
      ⟨notNegative, rfl⟩, rfl⟩
    refine ⟨application, agentId, nameWritten, agentWritten, notNegative, ?_⟩
    simp only [List.append_assoc]
  · rintro ⟨application, agentId, nameWritten, agentWritten, notNegative, rfl⟩
    refine ⟨_, ⟨_, ⟨_, ⟨application, nameWritten, rfl⟩, rfl⟩, agentId, agentWritten, rfl⟩, _,
      ⟨notNegative, rfl⟩, ?_⟩
    simp only [List.append_assoc]

theorem decode_encode (encoded : agent.encode = .ok key) :
    decode key = .ok (Described.onTexts withoutPadding agent) := by
  rcases encode_eq_ok.mp encoded with
    ⟨application, agentId, nameWritten, agentWritten, notNegative, rfl⟩
  have fields : Reader.Reads (do
      let serviceUid ← Reader.int32
      let applicationName ← Reader.padded applicationNameWidth
      let serviceTypeCode ← Reader.int32
      let agentId ← Reader.padded agentIdWidth
      let inverted ← Reader.int64
      pure (serviceUid, applicationName, serviceTypeCode, agentId, inverted))
      (putInt32 agent.serviceUid ++ (application ++ (putInt32 agent.serviceTypeCode ++
        (agentId ++ putInt64 (maxTimestamp - agent.agentStartTime)))))
      (agent.serviceUid, withoutPadding agent.applicationName, agent.serviceTypeCode,
        withoutPadding agent.agentId, maxTimestamp - agent.agentStartTime) :=
    (Reader.reads_int32 _).bind ((Reader.reads_withoutPadding nameWritten).bind
      ((Reader.reads_int32 _).bind ((Reader.reads_withoutPadding agentWritten).bind
        (Reader.reads_int64 _).bind_pure)))
  rw [decode, if_pos, fields.front_eq]
  · exact bind_eq_ok.mpr ⟨_, rfl, bind_eq_ok.mpr ⟨_, restore_inverted notNegative, rfl⟩⟩
  · simp [length_putPadded nameWritten, length_putPadded agentWritten, length_putInt64,
      length_putInt32, agentKeyLength, Nat.add_assoc]

theorem key_eq_iff (encoded : agent.encode = .ok key) (otherEncoded : other.encode = .ok otherKey) :
    key = otherKey ↔
      Described.onTexts withoutNuls agent = Described.onTexts withoutNuls other := by
  rcases encode_eq_ok.mp encoded with
    ⟨application, agentId, nameWritten, agentWritten, notNegative, rfl⟩
  rcases encode_eq_ok.mp otherEncoded with
    ⟨otherApplication, otherAgent, otherNameWritten, otherWritten, otherNotNegative, rfl⟩
  have nameWidth := (length_putPadded nameWritten).trans (length_putPadded otherNameWritten).symm
  have agentWidth := (length_putPadded agentWritten).trans (length_putPadded otherWritten).symm
  have number (left right : Int32) : (putInt32 left).length = (putInt32 right).length :=
    (length_putInt32 left).trans (length_putInt32 right).symm
  rw [List.append_eq_append_iff_of_size_eq_left (number _ _),
    List.append_eq_append_iff_of_size_eq_left nameWidth,
    List.append_eq_append_iff_of_size_eq_left (number _ _),
    List.append_eq_append_iff_of_size_eq_left agentWidth, putInt32_inj, putInt32_inj,
    putPadded_inj_iff nameWritten otherNameWritten, putPadded_inj_iff agentWritten otherWritten,
    putInt64_inverted_inj notNegative otherNotNegative]
  simp only [Described.onTexts, AgentKey.mk.injEq]

end AgentKey

/-! ### All keys -/

/-- Keys identify what they were made of up to the padding that texts end in, for any bucket count
and whatever part of a key is hashed. -/
theorem keys_identify (transactions : TransactionKeys) (stats : StatKeys)
    (traces : TraceIndexKeys) :
    Identifies transactions.encode TransactionKeys.decode id ∧
      Identifies stats.encode StatKeys.decode id ∧
      Identifies traces.encodeSpan TraceIndexKeys.decode TraceIndexRow.ofSpan ∧
      Identifies AgentKey.encode AgentKey.decode id :=
  ⟨.of_decoded TransactionKeys.decode_encode TransactionKeys.key_eq_iff,
    .of_decoded StatKeys.decode_encode StatKeys.key_eq_iff,
    .of_decoded TraceIndexKeys.decode_encodeSpan TraceIndexKeys.key_eq_iff,
    .of_decoded AgentKey.decode_encode AgentKey.key_eq_iff⟩

/-- The transactions of an agent whose id ends in a space come back as another agent's, and those
of one whose id ends in a NUL share their rows. -/
theorem trailing_padding_merges_agents :
    (¬ ∀ (keys : TransactionKeys) (id : TransactionId) (key : Bytes),
      keys.encode id = .ok key → TransactionKeys.decode key = .ok id) ∧
    ¬ ∀ (keys : TransactionKeys) (id other : TransactionId) (key : Bytes),
      keys.encode id = .ok key → keys.encode other = .ok key → id = other := by
  constructor
  · intro exact
    have read := exact ⟨⟨fnv1a, sequencePart, 1, by decide, by decide⟩⟩ ⟨"a ", 0, 0⟩
      ([0, 97, 32] ++ List.replicate 38 0) (by decide)
    exact absurd read (by decide)
  · intro distinct
    have same := distinct ⟨⟨fnv1a, sequencePart, 1, by decide, by decide⟩⟩ ⟨"a", 0, 0⟩
      ⟨"a\x00", 0, 0⟩ ([0, 97] ++ List.replicate 39 0) (by decide) (by decide)
    exact absurd same (by decide)

end Telemetry.RowKey
