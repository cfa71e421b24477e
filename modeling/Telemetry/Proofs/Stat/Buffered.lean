import Telemetry.Proofs.Stat.Analysis
import Telemetry.Proofs.Stat.Batch
import Telemetry.Stat.Buffered

namespace Telemetry.Stat

open Wire

/-! Writing a batch into a buffer adds its bytes behind what is there, or fails and leaves the
buffer as it was. Columns alone do not have this property: one that fails leaves the cells in front
of the one that cannot be written. It holds of the whole because the columns are collected apart,
and nothing that is written to the buffer afterwards can fail. -/

/-! ### Parts -/

/-- The writer adds the bytes of `form`. Where there are none, it fails for the same cause and has
added only to the end of the buffer. -/
structure Writes (writer : Writer Unit) (form : Except EncodeError Bytes) : Prop where
  ok : ∀ {bytes}, form = .ok bytes → ∀ buffer, writer buffer = .ok () (buffer ++ bytes)
  error : ∀ {cause}, form = .error cause → ∀ buffer,
    ∃ left, writer buffer = .error cause (buffer ++ left)

section Parts

variable {α : Type} {put : α → Except EncodeError Bytes}

theorem writes_append (bytes : Bytes) : Writes (Writer.append bytes) (.ok bytes) where
  ok := by rintro _ ⟨⟩ buffer; rfl
  error := nofun

theorem writes_nothing : Writes (pure ()) (.ok []) where
  ok := by
    rintro _ ⟨⟩ buffer
    rw [List.append_nil]
    rfl
  error := nofun

theorem writes_value (put : α → Except EncodeError Bytes) (item : α) :
    Writes (Writer.value put item) (put item) where
  ok := by
    intro bytes written buffer
    rw [Writer.value, written]
    rfl
  error := by
    intro cause failed buffer
    rw [Writer.value, failed]
    exact ⟨[], by rw [List.append_nil]; rfl⟩

theorem Writes.bind {first second : Writer Unit} {form others : Except EncodeError Bytes}
    (writesFirst : Writes first form) (writesSecond : Writes second others) :
    Writes (first >>= fun _ => second) (do
      let front ← form
      let back ← others
      pure (front ++ back)) where
  ok := by
    intro bytes written buffer
    rcases bind_eq_ok.mp written with ⟨front, frontWritten, written⟩
    rcases bind_eq_ok.mp written with ⟨back, backWritten, written⟩
    cases written
    rw [run_bind_of_ok (writesFirst.ok frontWritten buffer), ← List.append_assoc]
    exact writesSecond.ok backWritten (buffer ++ front)
  error := by
    intro cause failed buffer
    cases form with
    | error earlier =>
        cases failed
        rcases writesFirst.error rfl buffer with ⟨left, stopped⟩
        exact ⟨left, run_bind_of_error stopped⟩
    | ok front =>
        cases others with
        | ok back => cases failed
        | error later =>
            cases failed
            rcases writesSecond.error rfl (buffer ++ front) with ⟨left, stopped⟩
            refine ⟨front ++ left, ?_⟩
            rw [run_bind_of_ok (writesFirst.ok rfl buffer), ← List.append_assoc]
            exact stopped

theorem writes_forM {step : α → Writer Unit} (writes : ∀ item, Writes (step item) (put item))
    (items : List α) : Writes (items.forM step) (putEach put items) := by
  induction items with
  | nil => exact writes_nothing
  | cons item items induction => exact (writes item).bind induction

theorem writes_flatMap (form : α → Bytes) (items : List α) :
    Writes (items.forM fun item => Writer.append (form item)) (.ok (items.flatMap form)) := by
  induction items with
  | nil => exact writes_nothing
  | cons item items induction => exact (writes_append (form item)).bind induction

/-- All or nothing: the writer adds the bytes of `form`, or it fails and leaves the buffer as it
was. -/
def Atomic (writer : Writer Unit) (form : Except EncodeError Bytes) : Prop :=
  ∀ buffer, writer buffer = match form with
    | .ok bytes => .ok () (buffer ++ bytes)
    | .error cause => .error cause buffer

theorem Atomic.throw (cause : EncodeError) : Atomic (throw cause) (.error cause) := fun _ => rfl

theorem Writes.atomic {writer : Writer Unit} {bytes : Bytes} (writes : Writes writer (.ok bytes)) :
    Atomic writer (.ok bytes) :=
  writes.ok rfl

theorem Atomic.value (put : α → Except EncodeError Bytes) (item : α) :
    Atomic (Writer.value put item) (put item) := by
  intro buffer
  rw [Writer.value]
  cases put item <;> rfl

/-- Behind what is written as a whole, bytes can be added without a failure. -/
theorem Atomic.append {writer : Writer Unit} {form : Except EncodeError Bytes}
    (atomic : Atomic writer form) (more : Bytes) :
    Atomic (writer >>= fun _ => Writer.append more)
      (form >>= fun bytes => pure (bytes ++ more)) := by
  intro buffer
  have first := atomic buffer
  cases form with
  | ok bytes =>
      rw [run_bind_of_ok first]
      exact congrArg (EStateM.Result.ok ()) (List.append_assoc buffer bytes more)
  | error cause => exact run_bind_of_error first

/-- A check in front of a writer. -/
theorem Atomic.lift_bind {checked : Except EncodeError α} {next : α → Writer Unit}
    {form : α → Except EncodeError Bytes}
    (passed : ∀ value, checked = .ok value → Atomic (next value) (form value)) :
    Atomic (Writer.lift checked >>= next) (checked >>= form) := by
  cases checked with
  | error cause => exact .throw cause
  | ok value => exact passed value rfl

end Parts

theorem Strategy.writes_put {α : Type} [DecidableEq α] (cell : CellFormat α) (cells : List α)
    (strategy : Strategy) : Writes (strategy.write cell cells) (strategy.put cell cells) := by
  cases strategy with
  | plain => exact writes_forM (writes_value cell.put) cells
  | runs =>
      refine writes_forM (fun run => ?_) (runsOf cells)
      exact (writes_append (putCount run.1)).bind (writes_value cell.put run.2)
  | constant =>
      cases cells with
      | nil => exact writes_nothing
      | cons first others => exact writes_value cell.put first

/-! ### Columns -/

section Columns

variable {α : Type} [DecidableEq α] {cell : CellFormat α} {cells : List α}
  {written : Strategy × Bytes} {cause : EncodeError}

theorem putColumn_eq_ok : putColumn cell cells = .ok written ↔
    written.1 = Strategy.choose cell cells ∧
      (Strategy.choose cell cells).put cell cells = .ok written.2 := by
  rw [putColumn, bind_eq_ok]
  constructor
  · rintro ⟨bytes, bytesWritten, equal⟩
    cases equal
    exact ⟨rfl, bytesWritten⟩
  · rintro ⟨chosen, bytesWritten⟩
    exact ⟨written.2, bytesWritten, congrArg Except.ok (Prod.ext chosen.symm rfl)⟩

namespace ColumnBuffer

theorem column_of_ok (columnWritten : putColumn cell cells = .ok written) (buffer : ColumnBuffer) :
    column cell cells buffer =
      .ok () ⟨buffer.codes ++ [written.1.code], buffer.bytes ++ written.2⟩ := by
  rcases putColumn_eq_ok.mp columnWritten with ⟨chosen, bytesWritten⟩
  rw [column, (Strategy.writes_put cell cells _).ok bytesWritten, chosen]

theorem column_of_error (failed : putColumn cell cells = .error cause) (buffer : ColumnBuffer) :
    ∃ after, column cell cells buffer = .error cause after := by
  cases form : (Strategy.choose cell cells).put cell cells with
  | ok bytes =>
      rw [putColumn, form] at failed
      cases failed
  | error earlier =>
      rw [putColumn, form] at failed
      cases failed
      rcases (Strategy.writes_put cell cells _).error form buffer.bytes with ⟨left, stopped⟩
      exact ⟨_, by rw [column, stopped]⟩

end ColumnBuffer

namespace Column

variable {column : Column} {columns : List Column}

theorem write_of_ok (columnWritten : column.put = .ok written) (buffer : ColumnBuffer) :
    column.write buffer =
      .ok () ⟨buffer.codes ++ [written.1.code], buffer.bytes ++ written.2⟩ := by
  cases column <;> exact ColumnBuffer.column_of_ok columnWritten buffer

theorem write_of_error (failed : column.put = .error cause) (buffer : ColumnBuffer) :
    ∃ after, column.write buffer = .error cause after := by
  cases column <;> exact ColumnBuffer.column_of_error failed buffer

/-- Column after column, codes and bytes are added to those that are collected already. -/
theorem forM_write_of_ok {parts : List (Strategy × Bytes)}
    (columnsWritten : columns.mapM put = .ok parts) (buffer : ColumnBuffer) :
    columns.forM write buffer = .ok ()
      ⟨buffer.codes ++ parts.map fun part => part.1.code,
        buffer.bytes ++ parts.flatMap fun part => part.2⟩ := by
  induction columns generalizing buffer parts with
  | nil =>
      cases columnsWritten
      change EStateM.Result.ok () buffer = .ok () ⟨buffer.codes ++ [], buffer.bytes ++ []⟩
      rw [List.append_nil, List.append_nil]
  | cons column columns induction =>
      rcases mapM_cons_eq_ok.mp columnsWritten with ⟨part, others, partWritten, othersWritten, rfl⟩
      change (write column >>= fun _ => columns.forM write) buffer = _
      rw [run_bind_of_ok (write_of_ok partWritten buffer), induction othersWritten]
      simp only [List.map_cons, List.flatMap_cons, List.append_assoc, List.singleton_append]

theorem forM_write_of_error (failed : columns.mapM put = .error cause) (buffer : ColumnBuffer) :
    ∃ after, columns.forM write buffer = .error cause after := by
  induction columns generalizing buffer with
  | nil => cases failed
  | cons column columns induction =>
      rw [List.mapM_cons] at failed
      change ∃ after, (write column >>= fun _ => columns.forM write) buffer = .error cause after
      cases form : column.put with
      | error earlier =>
          rw [form] at failed
          cases failed
          rcases write_of_error form buffer with ⟨after, stopped⟩
          exact ⟨after, run_bind_of_error stopped⟩
      | ok part =>
          rw [run_bind_of_ok (write_of_ok form buffer)]
          refine induction ?_ _
          rw [form] at failed
          cases rest : columns.mapM put with
          | ok parts =>
              rw [rest] at failed
              cases failed
          | error later =>
              rw [rest] at failed
              cases failed
              rfl

theorem collect_eq (columns : List Column) :
    collect columns = (fun parts => ⟨parts.map fun part => part.1.code,
      parts.flatMap fun part => part.2⟩) <$> columns.mapM put := by
  rw [collect]
  cases form : columns.mapM put with
  | ok parts =>
      rw [forM_write_of_ok form]
      rfl
  | error cause =>
      rcases forM_write_of_error form .empty with ⟨after, stopped⟩
      rw [stopped]
      rfl

end Column

end Columns

/-! ### Batches -/

theorem length_packCodes (codes : List UInt8) :
    (packCodes codes).length = (codes.length + 3) / 4 := by
  fun_induction packCodes codes with
  | case1 => rfl
  | case2 first => simp
  | case3 first second => simp
  | case4 first second third => simp
  | case5 first second third fourth others induction =>
      simp only [List.length_cons, induction]
      omega

theorem StatKind.length_columns_le (kind : StatKind) (values : List kind.Value) :
    (kind.columns values).length ≤ 7 := by
  cases kind <;> simp [columns, JvmGc.columns, CpuLoad.columns, TotalThreadCount.columns,
    FileDescriptor.columns, LoadedClass.columns, DataSource.columns]

/-- The header never gets too long for its length field. -/
theorem StatKind.exists_putSet {kind : StatKind} {values : List kind.Value}
    {parts : List (Strategy × Bytes)}
    (written : (kind.columns values).mapM Column.put = .ok parts) :
    ∃ header, putBytes (packCodes (parts.map fun part => part.1.code)) = .ok header ∧
      Column.putSet (kind.columns values) = .ok (header ++ parts.flatMap fun part => part.2) := by
  have length := length_packCodes (parts.map fun part => part.1.code)
  have few := kind.length_columns_le values
  rw [List.length_map, length_mapM written] at length
  have fits : (packCodes (parts.map fun part => part.1.code)).length ≤ maxPrefixedLength := by
    rw [maxPrefixedLength]
    omega
  rcases exists_putBytes_iff.mpr fits with ⟨header, headerWritten⟩
  exact ⟨header, headerWritten,
    bind_eq_ok.mpr ⟨parts, written, bind_eq_ok.mpr ⟨header, headerWritten, rfl⟩⟩⟩

theorem exists_putStarts (starts : List Int64) :
    ∃ bytes, Strategy.runs.put .unsigned starts = .ok bytes :=
  (Strategy.exists_put_iff (Strategy.runs_appliesTo starts)).mpr fun _ _ => ⟨_, rfl⟩

namespace StatBatch

variable {kind : StatKind} {first : StatPoint kind.Value} {others : List (StatPoint kind.Value)}

/-- The parts that are written once all checks are passed. -/
theorem writes_checked (count : Nat) {starts : List Int64} (deltas : List Int64)
    {parts : List (Strategy × Bytes)} {startBytes header : Bytes}
    (startsWritten : Strategy.runs.put .unsigned starts = .ok startBytes)
    (headerWritten : putBytes (packCodes (parts.map fun part => part.1.code)) = .ok header) :
    Writes (do
        Writer.append [batchVersion]
        Writer.append (putCount count)
        Strategy.runs.write .unsigned starts
        deltas.forM fun delta => Writer.append (putVlong delta.toUInt64)
        ColumnBuffer.finish ⟨parts.map fun part => part.1.code, parts.flatMap fun part => part.2⟩)
      (.ok (batchVersion :: putCount count ++ startBytes ++
        deltas.flatMap (fun delta => putVlong delta.toUInt64) ++
        (header ++ parts.flatMap fun part => part.2))) := by
  have columns := (writes_value putBytes (packCodes (parts.map fun part => part.1.code))).bind
    (writes_append (parts.flatMap fun part => part.2))
  have steps := (writes_flatMap (fun delta : Int64 => putVlong delta.toUInt64) deltas).bind columns
  have points := (Strategy.writes_put .unsigned starts .runs).bind steps
  have batch := (writes_append [batchVersion]).bind ((writes_append (putCount count)).bind points)
  rw [startsWritten, headerWritten] at batch
  simp only [List.append_assoc, List.cons_append]
  exact batch

/-- Everything that can be wrong with a batch is found out before its first byte is written. -/
theorem atomic_write (batch : StatBatch) : Atomic batch.write batch.put := by
  rcases batch with ⟨kind, _ | ⟨first, others⟩⟩
  · exact .throw _
  refine Atomic.lift_bind fun deltas steps => ?_
  cases (first :: others).find? fun point => point.agentId ≠ first.agentId with
  | some other => exact .throw _
  | none =>
      cases written : (kind.columns ((first :: others).map StatPoint.value)).mapM Column.put with
      | error cause =>
          rw [Column.collect_eq, Column.putSet, written]
          exact .throw cause
      | ok parts =>
          rcases StatKind.exists_putSet written with ⟨header, headerWritten, columnsWritten⟩
          rcases exists_putStarts ((first :: others).map StatPoint.startTimestamp) with
            ⟨startBytes, startsWritten⟩
          have checked := writes_checked (first :: others).length deltas startsWritten headerWritten
          rw [Column.collect_eq, written, columnsWritten, startsWritten]
          exact checked.atomic

end StatBatch

end Telemetry.Stat
