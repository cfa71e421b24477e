import Telemetry.Proofs.Stat.Buffered

namespace Telemetry.Stat

open Wire

/-! The contract of the batch writer. It refuses exactly the batches that break the contract, and
then the buffer that it was to write to is what it was before. -/

/-! ### Samples in order of time -/

/-- A sample may follow another one that was not taken later, at most 2 ^ 63 - 1 millis after it. -/
def Follows (previous current : Int64) : Prop :=
  previous ≤ current ∧ current.toInt - previous.toInt ≤ Int64.maxValue.toInt

theorem exists_timestampDeltas_iff (timestamps : List Int64) :
    (∃ deltas, timestampDeltas timestamps = .ok deltas) ↔ timestamps.IsChain Follows := by
  induction timestamps with
  | nil => exact ⟨fun _ => .nil, fun _ => ⟨_, rfl⟩⟩
  | cons previous others induction =>
      cases others with
      | nil => exact ⟨fun _ => .singleton previous, fun _ => ⟨_, rfl⟩⟩
      | cons current others =>
          rw [List.isChain_cons_cons, ← induction, timestampDeltas, Follows]
          split
          next back =>
            constructor
            · rintro ⟨_, ⟨⟩⟩
            · rintro ⟨⟨forward, -⟩, -⟩
              exact absurd back (Int64.not_lt.mpr forward)
          next forward =>
            split
            next far =>
              constructor
              · rintro ⟨_, ⟨⟩⟩
              · rintro ⟨⟨-, near⟩, -⟩
                exact absurd far (Int.not_lt.mpr near)
            next near =>
              constructor
              · rintro ⟨_, steps⟩
                rcases bind_eq_ok.mp steps with ⟨deltas, othersSteps, -⟩
                exact ⟨⟨Int64.not_lt.mp forward, Int.not_lt.mp near⟩, deltas, othersSteps⟩
              · rintro ⟨-, deltas, steps⟩
                exact ⟨_, bind_eq_ok.mpr ⟨deltas, steps, rfl⟩⟩

/-! ### Columns of a batch -/

namespace StatKind

/-- The texts in a sample. Only connection pools have any. -/
def texts : (kind : StatKind) → kind.Value → List String
  | .dataSource => fun value => value.databaseName.toList ++ value.jdbcUrl.toList
  | .jvmGc => fun _ => []
  | .cpuLoad => fun _ => []
  | .totalThreadCount => fun _ => []
  | .fileDescriptor => fun _ => []
  | .loadedClass => fun _ => []

end StatKind

theorem exists_putColumn_iff {α : Type} [DecidableEq α] {cell : CellFormat α} {cells : List α} :
    (∃ written, putColumn cell cells = .ok written) ↔ cell.Writable cells := by
  rw [← Strategy.exists_put_iff (Strategy.choose_appliesTo cell cells)]
  simp only [putColumn_eq_ok]
  constructor
  · rintro ⟨written, -, bytesWritten⟩
    exact ⟨written.2, bytesWritten⟩
  · rintro ⟨bytes, bytesWritten⟩
    exact ⟨(_, bytes), rfl, bytesWritten⟩

namespace CellFormat

theorem writable_unsigned (cells : List Int64) : unsigned.Writable cells := fun _ _ => ⟨_, rfl⟩

theorem writable_signed (cells : List Int64) : signed.Writable cells := fun _ _ => ⟨_, rfl⟩

end CellFormat

namespace Column

/-- Every cell of the column has a written form. -/
def Writable : Column → Prop
  | .unsigned cells => CellFormat.unsigned.Writable cells
  | .signed cells => CellFormat.signed.Writable cells
  | .text cells => CellFormat.text.Writable cells

theorem exists_put_iff {column : Column} :
    (∃ written, column.put = .ok written) ↔ column.Writable := by
  cases column <;> exact exists_putColumn_iff

@[simp] theorem writable_unsigned (cells : List Int64) : (unsigned cells).Writable :=
  CellFormat.writable_unsigned cells

@[simp] theorem writable_signed (cells : List Int64) : (signed cells).Writable :=
  CellFormat.writable_signed cells

@[simp] theorem writable_text {α : Type} (values : List α) (field : α → Option String) :
    (text (values.map field)).Writable ↔
      ∀ value ∈ values, ∀ present ∈ field value,
        (Text.utf8 present).length ≤ maxPrefixedLength := by
  rw [Writable, CellFormat.Writable, List.forall_mem_map]
  exact forall₂_congr fun value _ => exists_putOptionalText_iff

end Column

/-- The columns of a batch can be written unless one of its texts is too long. -/
theorem StatKind.exists_mapM_put_iff (kind : StatKind) (values : List kind.Value) :
    (∃ parts, (kind.columns values).mapM Column.put = .ok parts) ↔
      ∀ value ∈ values, ∀ text ∈ kind.texts value,
        (Text.utf8 text).length ≤ maxPrefixedLength := by
  simp only [exists_mapM_iff, Column.exists_put_iff]
  cases kind with
  | dataSource =>
      simp only [columns, DataSource.columns, List.forall_mem_cons, Column.writable_signed,
        Column.writable_text, texts, List.mem_append, Option.mem_toList, or_imp, forall_and,
        List.not_mem_nil, false_imp_iff, implies_true, and_true, true_and]
      exact Iff.rfl
  | jvmGc => simp [columns, JvmGc.columns, texts]
  | cpuLoad => simp [columns, CpuLoad.columns, texts]
  | totalThreadCount => simp [columns, TotalThreadCount.columns, texts]
  | fileDescriptor => simp [columns, FileDescriptor.columns, texts]
  | loadedClass => simp [columns, LoadedClass.columns, texts]

/-! ### Batches -/

/-- The list ends or goes on with two neighbours that are not related. -/
theorem not_isChain_iff {α : Type} {related : α → α → Prop} {items : List α} :
    ¬ items.IsChain related ↔
      ∃ first second, [first, second] <:+: items ∧ ¬ related first second := by
  constructor
  · intro broken
    induction items with
    | nil => exact absurd .nil broken
    | cons first others induction =>
        cases others with
        | nil => exact absurd (.singleton first) broken
        | cons second others =>
            by_cases holds : related first second
            · have later : ¬ (second :: others).IsChain related :=
                fun chain => broken (.cons_cons holds chain)
              rcases induction later with ⟨left, right, neighbours, unrelated⟩
              exact ⟨left, right, neighbours.trans (List.suffix_cons _ _).isInfix, unrelated⟩
            · exact ⟨first, second, (List.prefix_append [first, second] others).isInfix, holds⟩
  · rintro ⟨first, second, neighbours, unrelated⟩ chain
    exact unrelated (List.isChain_pair.mp <| List.IsChain.infix chain neighbours)

namespace StatBatch

/-- The ways in which a batch can break the contract of its writer. -/
inductive Breach (batch : StatBatch) : Prop where
  | noPoints (empty : batch.points = [])
  | backwards {previous current : StatPoint batch.kind.Value}
      (neighbours : [previous, current] <:+: batch.points)
      (earlier : current.timestamp < previous.timestamp)
  | tooFarApart {previous current : StatPoint batch.kind.Value}
      (neighbours : [previous, current] <:+: batch.points)
      (gap : Int64.maxValue.toInt < current.timestamp.toInt - previous.timestamp.toInt)
  | otherAgent {first other : StatPoint batch.kind.Value} (begins : batch.points.head? = some first)
      (member : other ∈ batch.points) (differs : other.agentId ≠ first.agentId)
  | tooLong {point : StatPoint batch.kind.Value} {text : String} (member : point ∈ batch.points)
      (holds : text ∈ batch.kind.texts point.value)
      (long : maxPrefixedLength < (Text.utf8 text).length)

/-- The contract of the writer. -/
structure Keeps (batch : StatBatch) : Prop where
  nonempty : batch.points ≠ []
  ordered : (batch.points.map StatPoint.timestamp).IsChain Follows
  sameAgent : ∀ first ∈ batch.points.head?, ∀ other ∈ batch.points, other.agentId = first.agentId
  short : ∀ point ∈ batch.points, ∀ text ∈ batch.kind.texts point.value,
    (Text.utf8 text).length ≤ maxPrefixedLength

theorem not_breach_iff {batch : StatBatch} : ¬ batch.Breach ↔ batch.Keeps := by
  constructor
  · intro kept
    refine ⟨fun empty => kept (.noPoints empty), ?_, fun first begins other member => ?_,
      fun point member text holds => ?_⟩
    · rw [List.isChain_map]
      by_contra broken
      rcases not_isChain_iff.mp broken with ⟨previous, current, neighbours, unrelated⟩
      have forward := Int64.not_lt.mp fun earlier => kept (.backwards neighbours earlier)
      have near := Int.not_lt.mp fun gap => kept (.tooFarApart neighbours gap)
      exact unrelated ⟨forward, near⟩
    · by_contra differs
      exact kept (.otherAgent begins member differs)
    · exact Nat.not_lt.mp fun long => kept (.tooLong member holds long)
  · rintro ⟨nonempty, ordered, sameAgent, short⟩ breach
    have related {previous current : StatPoint batch.kind.Value}
        (neighbours : [previous, current] <:+: batch.points) :
        Follows previous.timestamp current.timestamp := by
      rw [List.isChain_map] at ordered
      have pair := List.IsChain.infix ordered neighbours
      simpa using pair
    cases breach with
    | noPoints empty => exact nonempty empty
    | backwards neighbours earlier => exact absurd earlier (Int64.not_lt.mpr (related neighbours).1)
    | tooFarApart neighbours gap => exact absurd gap (Int.not_lt.mpr (related neighbours).2)
    | otherAgent begins member differs => exact differs (sameAgent _ begins _ member)
    | tooLong member holds long => exact absurd long (Nat.not_lt.mpr (short _ member _ holds))

theorem exists_put_iff {batch : StatBatch} : (∃ bytes, batch.put = .ok bytes) ↔ batch.Keeps := by
  rcases batch with ⟨kind, _ | ⟨first, others⟩⟩
  · exact ⟨nofun, fun kept => absurd rfl kept.nonempty⟩
  constructor
  · rintro ⟨bytes, written⟩
    rcases bind_eq_ok.mp written with ⟨deltas, steps, written⟩
    split at written
    next => cases written
    next none =>
      rcases bind_eq_ok.mp written with ⟨columns, columnsWritten, -⟩
      rcases bind_eq_ok.mp columnsWritten with ⟨parts, partsWritten, -⟩
      have short := (kind.exists_mapM_put_iff _).mp ⟨parts, partsWritten⟩
      refine ⟨List.cons_ne_nil first others, (exists_timestampDeltas_iff _).mp ⟨deltas, steps⟩, ?_,
        List.forall_mem_map.mp short⟩
      rintro _ ⟨⟩
      simpa using none
  · rintro ⟨-, ordered, sameAgent, short⟩
    rcases (exists_timestampDeltas_iff _).mpr ordered with ⟨deltas, steps⟩
    rcases (kind.exists_mapM_put_iff _).mpr (List.forall_mem_map.mpr short) with ⟨parts, written⟩
    rcases StatKind.exists_putSet written with ⟨header, -, columnsWritten⟩
    rcases exists_putStarts ((first :: others).map StatPoint.startTimestamp) with
      ⟨starts, startsWritten⟩
    have none : ((first :: others).find? fun point => point.agentId ≠ first.agentId) = none := by
      simpa using sameAgent first rfl
    simp only [put, steps, none, columnsWritten, startsWritten]
    exact ⟨_, rfl⟩

/-- A batch is refused exactly where it breaks the contract: it is empty, goes back in time, has
neighbours too far apart, mixes agents or holds a text that is too long. A buffer that a refused
batch was written to is what it was before; otherwise the bytes of the batch stand behind what the
buffer held. -/
theorem write_refused_iff (batch : StatBatch) (buffer : Bytes) :
    ((∃ cause left, batch.write buffer = .error cause left) ↔ batch.Breach) ∧
    (∀ cause left, batch.write buffer = .error cause left → left = buffer) ∧
    ∀ left, batch.write buffer = .ok () left →
      ∃ bytes, batch.put = .ok bytes ∧ left = buffer ++ bytes := by
  have kept : (∃ bytes, batch.put = .ok bytes) ↔ ¬ batch.Breach :=
    exists_put_iff.trans not_breach_iff.symm
  rw [atomic_write batch buffer]
  cases form : batch.put with
  | ok bytes =>
      refine ⟨⟨nofun, fun breach => absurd breach (kept.mp ⟨bytes, form⟩)⟩, nofun, ?_⟩
      rintro _ ⟨⟩
      exact ⟨bytes, rfl, rfl⟩
  | error cause =>
      have breach : batch.Breach := by
        by_contra none
        rcases kept.mpr none with ⟨bytes, written⟩
        cases form.symm.trans written
      refine ⟨⟨fun _ => breach, fun _ => ⟨cause, buffer, rfl⟩⟩, ?_, nofun⟩
      rintro _ _ ⟨⟩
      rfl

end StatBatch

end Telemetry.Stat
