import Telemetry.Proofs.Stat.Contract
import Telemetry.Proofs.Stat.Safety
import Telemetry.Proofs.Wire.Shortest

namespace Telemetry.Stat

open Wire Reader GuardedReader

/-! Which batches that are read could be written again. The reader adds up steps of 64 bits without
a sign and lets the sum wrap around, while the writer refuses to go back. All else that the writer
asks for holds of every batch that is read. -/

/-! ### Steps between timestamps -/

/-- The steps lead forward and do not leave the range of timestamps. -/
structure StepsFit (first : Int64) (steps : List UInt64) : Prop where
  forward : ∀ step ∈ steps, step.toNat < 2 ^ 63
  inside : first.toInt + (steps.map UInt64.toNat).sum < 2 ^ 63

theorem toInt_add_toInt64 (timestamp : Int64) (step : UInt64) :
    (timestamp + step.toInt64).toInt = (timestamp.toInt + step.toNat).bmod (2 ^ 64) := by
  have signed : step.toInt64.toInt = (step.toNat : Int).bmod (2 ^ 64) :=
    step.toBitVec.toInt_eq_toNat_bmod
  rw [Int64.toInt_add, signed, Int.add_bmod_bmod]

/-- One step leads to a later sample exactly if the sum of both numbers, taken without wrapping
around, is a timestamp. -/
theorem follows_step_iff {timestamp : Int64} {step : UInt64} :
    Follows timestamp (timestamp + step.toInt64) ↔
      step.toNat < 2 ^ 63 ∧ timestamp.toInt + step.toNat < 2 ^ 63 := by
  have low := timestamp.le_toInt
  have high := timestamp.toInt_lt
  have width := step.toNat_lt
  have maximum : Int64.maxValue.toInt = 2 ^ 63 - 1 := by decide
  rw [Follows, Int64.le_iff_toInt_le, toInt_add_toInt64, Int.bmod_def, maximum]
  split <;> omega

theorem toInt_step {timestamp : Int64} {step : UInt64}
    (inside : timestamp.toInt + step.toNat < 2 ^ 63) :
    (timestamp + step.toInt64).toInt = timestamp.toInt + step.toNat := by
  have low := timestamp.le_toInt
  rw [toInt_add_toInt64, Int.bmod_eq_of_le] <;> omega

theorem head?_timestampsFrom (timestamp : Int64) (deltas : List Int64) :
    (StatBatch.timestampsFrom timestamp deltas).head? = some timestamp := by
  cases deltas <;> rfl

/-- The samples are in order exactly if the steps that lead to them fit. -/
theorem isChain_timestampsFrom_iff {first : Int64} {steps : List UInt64} :
    (StatBatch.timestampsFrom first (steps.map fun step => step.toInt64)).IsChain Follows ↔
      StepsFit first steps := by
  induction steps generalizing first with
  | nil =>
      have range := first.toInt_lt
      exact ⟨fun _ => ⟨nofun, by simpa using range⟩, fun _ => .singleton first⟩
  | cons step steps induction =>
      rw [List.map_cons, StatBatch.timestampsFrom, List.isChain_cons, head?_timestampsFrom,
        induction]
      simp only [Option.mem_some_iff, forall_eq', follows_step_iff]
      constructor
      · rintro ⟨⟨forward, inside⟩, fits⟩
        have sum := fits.inside
        rw [toInt_step inside] at sum
        refine ⟨List.forall_mem_cons.mpr ⟨forward, fits.forward⟩, ?_⟩
        rw [List.map_cons, List.sum_cons]
        omega
      · rintro ⟨forward, sum⟩
        rw [List.map_cons, List.sum_cons] at sum
        rw [List.forall_mem_cons] at forward
        have inside : first.toInt + step.toNat < 2 ^ 63 := by omega
        refine ⟨⟨forward.1, inside⟩, forward.2, ?_⟩
        rw [toInt_step inside]
        omega

/-! ### Texts -/

/-- Whatever is read as a cell could be written as one. -/
def CellFormat.Rewritable {α : Type} (cell : CellFormat α) : Prop :=
  Yields cell.read fun value => ∃ bytes, cell.put value = .ok bytes

theorem CellFormat.rewritable_text : CellFormat.text.Rewritable := by
  intro bytes value rest read
  rcases takes_optionalText read with ⟨taken, -, written, form, -⟩
  exact ⟨written, form⟩

theorem DataSource.texts_ofCells {id serviceTypeCode active max : Int64}
    {databaseName jdbcUrl : Option String} {value : DataSource}
    (made : ofCells id serviceTypeCode databaseName jdbcUrl active max = .ok value) :
    value.databaseName = databaseName ∧ value.jdbcUrl = jdbcUrl := by
  rcases bind_eq_ok.mp made with ⟨narrowId, -, made⟩
  rcases bind_eq_ok.mp made with ⟨code, -, made⟩
  rcases bind_eq_ok.mp made with ⟨activeSize, -, made⟩
  rcases bind_eq_ok.mp made with ⟨maxSize, -, made⟩
  cases made
  exact ⟨rfl, rfl⟩

/-- The texts of samples that are read are short enough to be written. -/
theorem StatKind.yields_short (kind : StatKind) (count : Nat) :
    Yields (kind.read count) fun values => ∀ value ∈ values, ∀ text ∈ kind.texts value,
      (Text.utf8 text).length ≤ maxPrefixedLength := by
  cases kind with
  | dataSource =>
      have text := ColumnReader.yields_filled _ count CellFormat.rewritable_text
      refine yields_column_bind fun ids => yields_column_bind fun serviceTypeCodes => ?_
      refine text.bind fun databaseNames namesFilled => text.bind fun jdbcUrls urlsFilled => ?_
      refine yields_column_bind fun active => yields_column_bind fun max => ?_
      refine yields_lift fun values passed value member present holds => ?_
      rcases exists_field namesFilled.length with ⟨databaseName, rfl⟩
      rcases exists_field urlsFilled.length with ⟨jdbcUrl, rfl⟩
      rcases mem_mapM passed member with ⟨row, rowMember, made⟩
      simp only [List.map_map, applyEach_map, List.mem_map] at rowMember
      rcases rowMember with ⟨place, inside, rfl⟩
      rcases DataSource.texts_ofCells made with ⟨name, url⟩
      rw [texts, List.mem_append, Option.mem_toList, Option.mem_toList, name, url] at holds
      rcases holds with inName | inUrl
      · exact exists_putOptionalText_iff.mp
          (namesFilled.each _ (List.mem_map_of_mem inside)) present inName
      · exact exists_putOptionalText_iff.mp
          (urlsFilled.each _ (List.mem_map_of_mem inside)) present inUrl
  | jvmGc | cpuLoad | totalThreadCount | fileDescriptor | loadedClass =>
      intro source values after read value member present holds
      cases holds

/-! ### Batches -/

namespace StatBatch

variable {kind : StatKind} {context : BatchContext} {bytes rest : Bytes} {batch : StatBatch}

/-- A batch that is read has its samples in order exactly if the steps between them fit, and then
it keeps the whole contract of the writer. -/
theorem keeps_of_read_iff (accepted : read kind context bytes = .ok batch rest) :
    ∃ steps left, readSteps bytes = .ok steps left ∧
      ((batch.points.map StatPoint.timestamp).IsChain Follows ↔
        StepsFit context.initialTimestamp steps) ∧
      (batch.Keeps ↔ StepsFit context.initialTimestamp steps) := by
  have begins := first?_of_read accepted
  rcases points_of_read accepted with
    ⟨points, rfl, -, sameAgent, ⟨steps, left, stepsRead, -, timestamps⟩,
      ⟨source, after, valuesRead⟩⟩
  have ordered_iff : (points.map StatPoint.timestamp).IsChain Follows ↔
      StepsFit context.initialTimestamp steps := by
    rw [timestamps, isChain_timestampsFrom_iff]
  have keeps_iff : Keeps ⟨kind, points⟩ ↔ (points.map StatPoint.timestamp).IsChain Follows := by
    refine ⟨Keeps.ordered, fun ordered => ⟨fun empty => ?_, ordered,
      fun first front other member => ?_, List.forall_mem_map.mp (kind.yields_short _ valuesRead)⟩⟩
    · rw [first?, empty] at begins
      cases begins
    · rw [sameAgent other member, sameAgent first (List.mem_of_mem_head? front)]
  exact ⟨steps, left, stepsRead, ordered_iff, keeps_iff.trans ordered_iff⟩

end StatBatch

end Telemetry.Stat
