import Mathlib.Data.List.FinRange
import Telemetry.Proofs.Stat.Layout
import Telemetry.Proofs.Wire.Steady
import Telemetry.Stat.Guarded

namespace Telemetry.Stat

open Wire GuardedReader

/-! No step of reading a batch leaves its range. Every column that is read has exactly as many cells
as the batch has points, so that each place is inside every column and all lists that are paired up
are of one length; and while runs fill a column up, it never gets longer than it should. -/

section Yields

variable {σ α β : Type}

/-- Every value that the reader gives satisfies `holds`. -/
def Yields (item : EStateM DecodeError σ α) (holds : α → Prop) : Prop :=
  ∀ ⦃state value after⦄, item state = .ok value after → holds value

namespace Yields

variable {item : EStateM DecodeError σ α} {holds : α → Prop} {image : β → Prop}

protected theorem pure {value : α} (held : holds value) :
    Yields (Pure.pure value : EStateM DecodeError σ α) holds := by
  intro state result after read
  cases read
  exact held

protected theorem throw (error : DecodeError) :
    Yields (throw error : EStateM DecodeError σ α) holds :=
  fun _ _ _ read => nomatch read

protected theorem bind {next : α → EStateM DecodeError σ β} (first : Yields item holds)
    (second : ∀ value, holds value → Yields (next value) image) : Yields (item >>= next) image := by
  intro state result after read
  rcases run_bind_eq_ok.mp read with ⟨value, between, itemRead, nextRead⟩
  exact second value (first itemRead) nextRead

theorem anything (item : EStateM DecodeError σ α) : Yields item fun _ => True :=
  fun _ _ _ _ => trivial

/-- What the first part gives does not matter. -/
theorem skip {next : α → EStateM DecodeError σ β}
    (second : ∀ value, Yields (next value) image) : Yields (item >>= next) image :=
  (anything item).bind fun value _ => second value

end Yields

namespace GuardedReader

/-! ### Readers inside guarded readers -/

theorem ofReader_pure (value : α) :
    (ofReader (pure value) : GuardedReader σ α) = pure value := rfl

/-- Only values that the first part can give matter to the second. -/
theorem ofReader_bind_of_yields {item : EStateM DecodeError σ α} {holds : α → Prop}
    {next : α → EStateM DecodeError σ β} {guarded : α → GuardedReader σ β}
    (yields : Yields item holds)
    (same : ∀ value, holds value → guarded value = ofReader (next value)) :
    ofReader item >>= guarded = ofReader (item >>= next) := by
  funext state
  change EStateM.bind (ofReader item) guarded state = ofReader (EStateM.bind item next) state
  rw [EStateM.bind, ofReader, ofReader, EStateM.bind]
  cases ran : item state with
  | error cause after => rfl
  | ok value after =>
      change guarded value after = _
      rw [same value (yields ran)]
      rfl

theorem ofReader_bind {item : EStateM DecodeError σ α} {next : α → EStateM DecodeError σ β}
    {guarded : α → GuardedReader σ β} (same : ∀ value, guarded value = ofReader (next value)) :
    ofReader item >>= guarded = ofReader (item >>= next) :=
  ofReader_bind_of_yields (.anything item) fun value _ => same value

theorem difference_eq {whole part : Nat} (inside : part ≤ whole) :
    (difference whole part : GuardedReader σ Nat) = pure (whole - part) := if_pos inside

theorem pairs_eq {left : List α} {right : List β} (same : left.length = right.length) :
    (pairs left right : GuardedReader σ _) = pure (left.zip right) := if_pos same

end GuardedReader

end Yields

/-! ### Columns -/

/-- As many cells as were asked for, and each of them one that the format can give. -/
structure Filled {α : Type} (count : Nat) (holds : α → Prop) (cells : List α) : Prop where
  length : cells.length = count
  each : ∀ value ∈ cells, holds value

section Columns

variable {α : Type} (cell : CellFormat α) (count : Nat)

theorem yields_many {item : Reader α} {holds : α → Prop} (yields : Yields item holds)
    (count : Nat) : Yields (Reader.many item count) (Filled count holds) := by
  induction count with
  | zero => exact .pure ⟨rfl, nofun⟩
  | succ count induction =>
      refine yields.bind fun first held => induction.bind fun others filled => .pure ?_
      exact ⟨congrArg (· + 1) filled.length, List.forall_mem_cons.mpr ⟨held, filled.each⟩⟩

theorem filled_replicate {holds : α → Prop} {value : α} (held : holds value) (count : Nat) :
    Filled count holds (List.replicate count value) where
  length := List.length_replicate
  each := fun _ member => List.eq_of_mem_replicate member ▸ held

namespace Strategy

/-- Runs fill exactly what is left of the column. -/
theorem yields_readRuns {holds : α → Prop} (yields : Yields cell.read holds) (left : Nat) :
    Yields (readRuns cell count left) (Filled left holds) := by
  induction left using Nat.strong_induction_on with
  | _ left induction =>
      cases left with
      | zero =>
          rw [readRuns]
          exact .pure ⟨rfl, List.forall_mem_nil holds⟩
      | succ left =>
          rw [readRuns]
          refine .skip fun run => ?_
          split
          next => exact .throw _
          next fits =>
            have shorter : left + 1 - run.toNat < left + 1 := by omega
            refine yields.bind fun value held => (induction _ shorter).bind fun others filled => ?_
            have repeated := filled_replicate held run.toNat
            refine .pure ⟨?_, List.forall_mem_append.mpr ⟨repeated.each, filled.each⟩⟩
            rw [List.length_append, repeated.length, filled.length]
            omega

/-- However a column is laid out, it comes back with exactly the cells that were asked for. -/
theorem yields_read {holds : α → Prop} (yields : Yields cell.read holds) (strategy : Strategy) :
    Yields (strategy.read cell count) (Filled count holds) := by
  cases strategy with
  | plain => exact yields_many yields count
  | runs => exact yields_readRuns cell count yields count
  | constant =>
      rw [read]
      split
      next empty => exact .pure ⟨empty.symm, nofun⟩
      next => exact yields.bind fun value held => .pure (filled_replicate held count)

/-- The loop invariant: the column is not longer than it should be, and what is left of it is read
as `readRuns` reads it. -/
theorem guardedRuns_eq (cells : List α) (short : cells.length ≤ count) :
    guardedRuns cell count cells =
      ofReader ((cells ++ ·) <$> readRuns cell count (count - cells.length)) := by
  induction missing : count - cells.length using Nat.strong_induction_on generalizing cells with
  | _ left induction =>
      rw [guardedRuns]
      split
      next shorter =>
        obtain ⟨left, rfl⟩ : ∃ less, left = less + 1 := ⟨left - 1, by omega⟩
        have decoded : count - (left + 1) = cells.length := by omega
        rw [readRuns, map_eq_pure_bind, bind_assoc]
        refine ofReader_bind fun run => ?_
        rw [difference_eq short, pure_bind, missing, decoded]
        split
        next => rfl
        next fits =>
          rw [bind_assoc]
          refine ofReader_bind fun value => ?_
          rw [induction (left + 1 - run.toNat) (by omega) _ (by simp; omega) (by simp; omega)]
          simp
      next whole =>
        obtain rfl : left = 0 := by omega
        rw [readRuns]
        simp [ofReader_pure]

theorem guardedRead_eq (strategy : Strategy) :
    strategy.guardedRead cell count = ofReader (strategy.read cell count) := by
  cases strategy with
  | plain => rfl
  | runs =>
      rw [guardedRead, guardedRuns_eq cell count [] (Nat.zero_le count), read]
      simp
  | constant => rfl

end Strategy

theorem ColumnReader.yields_filled {holds : α → Prop} (yields : Yields cell.read holds) :
    Yields (ColumnReader.column cell count) (Filled count holds) := by
  refine .skip fun code => ?_
  split
  next strategy _ =>
    intro source cells after read
    rw [ofReader] at read
    split at read
    next itemRead =>
      cases read
      exact Strategy.yields_read cell count yields strategy itemRead
    next => cases read
  next => exact .throw _

theorem ColumnReader.yields_column : Yields (ColumnReader.column cell count) (·.length = count) :=
  fun _ _ _ read => (yields_filled cell count (.anything _) read).length

theorem GuardedReader.ofBytes_ofReader (reader : Reader α) :
    ofBytes (ofReader reader) = ofReader (ColumnReader.ofReader reader) := by
  funext source
  simp only [ofBytes, GuardedReader.ofReader, ColumnReader.ofReader]
  cases reader source.rest <;> rfl

theorem GuardedReader.column_eq :
    GuardedReader.column cell count = ofReader (ColumnReader.column cell count) := by
  refine ofReader_bind fun code => ?_
  cases Strategy.ofCode code with
  | ok strategy =>
      change ofBytes (strategy.guardedRead cell count) = _
      rw [Strategy.guardedRead_eq, ofBytes_ofReader]
  | error error => rfl

end Columns

/-! ### Rows -/

namespace GuardedReader

section Rows

variable {α β : Type} {count : Nat}

/-- A column whose length is known is a field of its places. -/
theorem exists_field {cells : List α} (length : cells.length = count) :
    ∃ field : Fin count → α, cells = (List.finRange count).map field := by
  subst length
  exact ⟨cells.get, (List.map_get_finRange cells).symm⟩

theorem cellAt_map (field : Fin count → α) (place : Fin count) :
    (cellAt ((List.finRange count).map field) place : GuardedReader ColumnSource α) =
      pure (field place) := by
  simp [cellAt]

theorem checked_bind (result : Except DecodeError α) (next : α → Except DecodeError β) :
    checked (result >>= next) = checked result >>= fun value => checked (next value) := by
  cases result <;> rfl

/-- Rows whose cells are inside their columns are checked one after the other. -/
theorem rows_eq {row : Nat → GuardedReader ColumnSource α}
    (result : Fin count → Except DecodeError α)
    (inside : ∀ place : Fin count, row place = checked (result place)) :
    rows count row = checked ((List.finRange count).mapM result) := by
  rw [rows, ← List.map_coe_finRange_eq_range, List.mapM_map]
  induction List.finRange count with
  | nil => rfl
  | cons place places induction =>
      rw [List.mapM_cons, List.mapM_cons, induction, checked_bind, Function.comp, inside]
      refine bind_congr fun first => ?_
      rw [checked_bind]
      rfl

theorem mapM_map_eq {γ : Type} {check : α → Except DecodeError β} {make : α → β → γ}
    (places : List α) : places.mapM (fun place => make place <$> check place) =
      List.zipWith make places <$> places.mapM check := by
  induction places with
  | nil => rfl
  | cons place places induction =>
      rw [List.mapM_cons, List.mapM_cons, induction]
      cases check place with
      | error cause => rfl
      | ok first => cases places.mapM check <;> rfl

/-- A field that is checked for all rows first, and put into its place afterwards. -/
theorem checked_rows_eq {γ : Type} {check : Fin count → Except DecodeError β}
    {make : Fin count → β → γ} {combine : List β → List γ}
    (same : ∀ field : Fin count → β, combine ((List.finRange count).map field) =
      (List.finRange count).map fun place => make place (field place)) :
    checked ((List.finRange count).mapM fun place => make place <$> check place) =
      ofReader (ColumnReader.lift ((List.finRange count).mapM check) >>= fun fields =>
        pure (combine fields)) := by
  rw [mapM_map_eq]
  cases passed : (List.finRange count).mapM check with
  | error cause => rfl
  | ok fields =>
      rcases exists_field ((length_mapM passed).trans List.length_finRange) with ⟨field, rfl⟩
      have rowwise : List.zipWith make (List.finRange count) ((List.finRange count).map field) =
          combine ((List.finRange count).map field) := by
        rw [same, List.zipWith_map_right, List.zipWith_self]
      change checked (.ok (List.zipWith make _ _)) = _
      rw [rowwise]
      rfl

/-- The columns of a kind are read with their lengths. -/
theorem column_bind {cell : CellFormat α} {guarded : List α → GuardedReader ColumnSource β}
    {next : List α → ColumnReader β}
    (same : ∀ field : Fin count → α, guarded ((List.finRange count).map field) =
      ofReader (next ((List.finRange count).map field))) :
    column cell count >>= guarded = ofReader (ColumnReader.column cell count >>= next) := by
  rw [column_eq]
  refine ofReader_bind_of_yields (ColumnReader.yields_column cell count) fun cells length => ?_
  rcases exists_field length with ⟨field, rfl⟩
  exact same field

theorem yields_column_bind {cell : CellFormat α} {next : List α → ColumnReader β} {holds : β → Prop}
    (yields : ∀ field : Fin count → α, Yields (next ((List.finRange count).map field)) holds) :
    Yields (ColumnReader.column cell count >>= next) holds := by
  refine (ColumnReader.yields_column cell count).bind fun cells length => ?_
  rcases exists_field length with ⟨field, rfl⟩
  exact yields field

theorem yields_lift {result : Except DecodeError α} {holds : α → Prop}
    (passes : ∀ value, result = .ok value → holds value) :
    Yields (ColumnReader.lift result) holds := by
  cases result with
  | ok value => exact .pure (passes value rfl)
  | error cause => exact .throw cause

end Rows

end GuardedReader

/-! ### Kinds -/

section Kinds

variable (count : Nat)

theorem JvmGc.guardedRead_eq : JvmGc.guardedRead count = ofReader (JvmGc.read count) := by
  refine column_bind fun codes => column_bind fun heapUsed => column_bind fun heapMax => ?_
  refine column_bind fun nonHeapUsed => column_bind fun nonHeapMax => ?_
  refine column_bind fun gcOldCount => column_bind fun gcOldTime => ?_
  rw [rows_eq fun place => (fun gcType => JvmGc.mk gcType (heapUsed place) (heapMax place)
    (nonHeapUsed place) (nonHeapMax place) (gcOldCount place) (gcOldTime place)) <$>
      GcKind.ofCode (codes place)]
  · rw [List.mapM_map]
    exact checked_rows_eq fun kind => by simp
  · intro place
    simp only [cellAt_map, pure_bind, map_eq_pure_bind, checked_bind]
    rfl

theorem CpuLoad.guardedRead_eq : CpuLoad.guardedRead count = ofReader (CpuLoad.read count) := by
  refine column_bind fun jvm => column_bind fun system => ?_
  rw [pairs_eq (by simp), pure_bind]
  simp [List.zip_map', ofReader_pure, Function.comp_def]

theorem LoadedClass.guardedRead_eq :
    LoadedClass.guardedRead count = ofReader (LoadedClass.read count) := by
  refine column_bind fun loaded => column_bind fun unloaded => ?_
  rw [pairs_eq (by simp), pure_bind]
  simp [List.zip_map', ofReader_pure, Function.comp_def]

theorem DataSource.guardedRead_eq :
    DataSource.guardedRead count = ofReader (DataSource.read count) := by
  refine column_bind fun ids => column_bind fun serviceTypeCodes => ?_
  refine column_bind fun databaseNames => column_bind fun jdbcUrls => ?_
  refine column_bind fun active => column_bind fun max => ?_
  rw [rows_eq fun place => ofCells (ids place) (serviceTypeCodes place) (databaseNames place)
    (jdbcUrls place) (active place) (max place)]
  · simp only [List.map_map, applyEach_map, List.mapM_map]
    rfl
  · intro place
    simp only [cellAt_map, pure_bind, ofCells, checked_bind]
    rfl

/-- The kinds give as many values as their columns have cells. -/
theorem StatKind.yields_read (kind : StatKind) : Yields (kind.read count) (·.length = count) := by
  cases kind with
  | jvmGc =>
      refine yields_column_bind fun codes => yields_column_bind fun heapUsed => ?_
      refine yields_column_bind fun heapMax => yields_column_bind fun nonHeapUsed => ?_
      refine yields_column_bind fun nonHeapMax => yields_column_bind fun gcOldCount => ?_
      refine yields_column_bind fun gcOldTime => ?_
      refine (yields_lift fun kinds passed => length_mapM passed).bind fun kinds length => ?_
      refine .pure ?_
      simp [applyEach, length]
  | cpuLoad =>
      refine yields_column_bind fun jvm => yields_column_bind fun system => .pure ?_
      simp [applyEach]
  | totalThreadCount => exact yields_column_bind fun counts => .pure (by simp)
  | fileDescriptor => exact yields_column_bind fun counts => .pure (by simp)
  | loadedClass =>
      refine yields_column_bind fun loaded => yields_column_bind fun unloaded => .pure ?_
      simp [applyEach]
  | dataSource =>
      refine yields_column_bind fun ids => yields_column_bind fun serviceTypeCodes => ?_
      refine yields_column_bind fun databaseNames => yields_column_bind fun jdbcUrls => ?_
      refine yields_column_bind fun active => yields_column_bind fun max => ?_
      refine yields_lift fun values passed => (length_mapM passed).trans ?_
      simp [applyEach]

theorem StatKind.guardedRead_eq (kind : StatKind) :
    kind.guardedRead count = ofReader (kind.read count) := by
  cases kind with
  | jvmGc => exact JvmGc.guardedRead_eq count
  | cpuLoad => exact CpuLoad.guardedRead_eq count
  | totalThreadCount => exact column_bind fun _ => rfl
  | fileDescriptor => exact column_bind fun _ => rfl
  | loadedClass => exact LoadedClass.guardedRead_eq count
  | dataSource => exact DataSource.guardedRead_eq count

end Kinds

/-! ### Batches -/

theorem GuardedReader.run_ofReader {α : Type} (header : Bytes) (reader : ColumnReader α) :
    run header (ofReader reader) = ofReader (ColumnReader.run header reader) := by
  funext bytes
  simp only [run, GuardedReader.ofReader, ColumnReader.run]
  cases reader ⟨unpackCodes header, bytes⟩ <;> rfl

theorem yields_run {α : Type} {reader : ColumnReader α} {holds : α → Prop} (header : Bytes)
    (yields : Yields reader holds) : Yields (ColumnReader.run header reader) holds := by
  intro bytes value rest read
  rw [ColumnReader.run] at read
  split at read
  next columnsRead =>
    cases read
    exact yields columnsRead
  next => cases read

namespace StatBatch

theorem length_timestampsFrom (timestamp : Int64) (deltas : List Int64) :
    (timestampsFrom timestamp deltas).length = deltas.length + 1 := by
  induction deltas generalizing timestamp with
  | nil => rfl
  | cons delta deltas induction =>
      rw [timestampsFrom, List.length_cons, List.length_cons, induction]

theorem guardedRead_eq (kind : StatKind) (context : BatchContext) :
    guardedRead kind context = ofReader (read kind context) := by
  refine ofReader_bind fun version => ?_
  split
  next => rfl
  refine ofReader_bind fun count => ofReader_bind fun remaining => ?_
  by_cases empty : count = 0
  · rw [if_pos empty, if_pos (.inl empty)]
  rw [if_neg empty, difference_eq (Nat.one_le_iff_ne_zero.mpr empty), pure_bind]
  by_cases large : remaining < count - 1
  · rw [if_pos large, if_pos (.inr large)]
  rw [if_neg large, if_neg (not_or_intro empty large), Strategy.guardedRead_eq]
  have startsRead := Strategy.yields_read .unsigned count (.anything _) .runs
  refine ofReader_bind_of_yields startsRead fun starts startsFilled => ?_
  have deltasRead := yields_many (.anything Reader.vlong) (count - 1)
  refine ofReader_bind_of_yields deltasRead fun deltas deltasFilled => ?_
  refine ofReader_bind fun header => ?_
  rw [StatKind.guardedRead_eq, run_ofReader]
  have valuesRead := yields_run header (kind.yields_read count)
  refine ofReader_bind_of_yields valuesRead fun values length => ?_
  have timestampsLength := length_timestampsFrom context.initialTimestamp
    (deltas.map fun delta => delta.toInt64)
  rw [List.length_map, deltasFilled.length, Nat.sub_add_cancel (Nat.one_le_iff_ne_zero.mpr empty)]
    at timestampsLength
  rcases exists_field startsFilled.length with ⟨start, rfl⟩
  rcases exists_field timestampsLength with ⟨timestamp, timestamps⟩
  rcases exists_field length with ⟨value, rfl⟩
  rw [timestamps, pairs_eq (by simp), pure_bind, pairs_eq (by simp), pure_bind]
  simp [combine, List.zip_map', ofReader_pure, Function.comp_def]

end StatBatch

end Telemetry.Stat
