import Telemetry.Proofs.Stat.Columns
import Telemetry.Stat.Layout

namespace Telemetry.Stat

open Wire

/-! Every kind of statistic reads its columns in the order in which it writes them. -/

@[simp] theorem applyEach_map {α β γ : Type} (make : α → β → γ) (field : α → β) (values : List α) :
    applyEach (values.map make) (values.map field) =
      values.map fun value => make value (field value) := by
  rw [applyEach, List.zipWith_map, List.zipWith_self]

theorem GcKind.ofCode_code (kind : GcKind) : GcKind.ofCode kind.code = .ok kind := by
  cases kind <;> rfl

theorem narrow32_toInt64 (field : String) (value : Int32) :
    narrow32 field value.toInt64 = .ok value := by
  have same : value.toInt64.toInt = value.toInt := by simp
  have fits : -2147483648 ≤ value.toInt ∧ value.toInt ≤ 2147483647 := by
    have low := value.le_toInt
    have high := value.toInt_lt
    omega
  rw [narrow32, same, if_pos fits, Int32.ofInt_toInt]

theorem narrow16_toInt64 (field : String) (value : Int16) :
    narrow16 field value.toInt64 = .ok value := by
  have same : value.toInt64.toInt = value.toInt := by simp
  have fits : -32768 ≤ value.toInt ∧ value.toInt ≤ 32767 := by
    have low := value.le_toInt
    have high := value.toInt_lt
    omega
  rw [narrow16, same, if_pos fits, Int16.ofInt_toInt]

namespace ColumnReader.ReadsSet

variable {α γ : Type} {columns : List Column} {values : List γ} {result : α}

/-- The next column holds one signed field of all values. -/
theorem signed {next : List Int64 → ColumnReader α} (fits : values.length < 2 ^ 32)
    (field : γ → Int64) (others : ReadsSet (next (values.map field)) columns result) :
    ReadsSet (column .signed values.length >>= next) (.signed (values.map field) :: columns)
      result :=
  cons CellFormat.faithful_signed (by rw [List.length_map]) fits rfl others

theorem unsigned {next : List Int64 → ColumnReader α} (fits : values.length < 2 ^ 32)
    (field : γ → Int64) (others : ReadsSet (next (values.map field)) columns result) :
    ReadsSet (column .unsigned values.length >>= next) (.unsigned (values.map field) :: columns)
      result :=
  cons CellFormat.faithful_unsigned (by rw [List.length_map]) fits rfl others

theorem text {next : List (Option String) → ColumnReader α} (fits : values.length < 2 ^ 32)
    (field : γ → Option String) (others : ReadsSet (next (values.map field)) columns result) :
    ReadsSet (column .text values.length >>= next) (.text (values.map field) :: columns) result :=
  cons CellFormat.faithful_text (by rw [List.length_map]) fits rfl others

theorem pure {value : α} (equal : value = result) : ReadsSet (Pure.pure value) [] result :=
  .nil fun _ => equal ▸ rfl

/-- A check that the columns read so far have passed. -/
theorem lift {β : Type} {check : Except DecodeError β} {checked : β} {next : β → ColumnReader α}
    (passes : check = .ok checked) (others : ReadsSet (next checked) columns result) :
    ReadsSet (ColumnReader.lift check >>= next) columns result := by
  subst passes
  exact others

theorem checked {check : Except DecodeError α} (passes : check = .ok result) :
    ReadsSet (ColumnReader.lift check) [] result :=
  .nil fun _ => passes ▸ rfl

theorem kept {reader : ColumnReader (List γ)} (reads : ReadsSet reader columns values) :
    ReadsSet reader columns (values.map id) := by
  rwa [List.map_id]

end ColumnReader.ReadsSet

open ColumnReader

theorem JvmGc.readsSet {values : List JvmGc} (fits : values.length < 2 ^ 32) :
    ReadsSet (JvmGc.read values.length) (JvmGc.columns values) values := by
  have kinds : (values.map fun value => value.gcType.code).mapM GcKind.ofCode =
      .ok (values.map gcType) := by
    rw [List.mapM_map]
    exact mapM_eq_ok fun value _ => GcKind.ofCode_code value.gcType
  refine .unsigned fits _ (.signed fits _ (.signed fits _ (.signed fits _ (.signed fits _
    (.signed fits _ (.signed fits _ (.lift kinds (.pure ?_))))))))
  simp

theorem CpuLoad.readsSet {values : List CpuLoad} (fits : values.length < 2 ^ 32) :
    ReadsSet (CpuLoad.read values.length) (CpuLoad.columns values) (values.map rounded) := by
  refine .signed fits _ (.signed fits _ (.pure ?_))
  simp [rounded]

theorem TotalThreadCount.readsSet {values : List TotalThreadCount}
    (fits : values.length < 2 ^ 32) :
    ReadsSet (TotalThreadCount.read values.length) (TotalThreadCount.columns values) values := by
  refine .signed fits _ (.pure ?_)
  rw [List.map_map]
  exact List.map_id values

theorem FileDescriptor.readsSet {values : List FileDescriptor} (fits : values.length < 2 ^ 32) :
    ReadsSet (FileDescriptor.read values.length) (FileDescriptor.columns values) values := by
  refine .signed fits _ (.pure ?_)
  rw [List.map_map]
  exact List.map_id values

theorem LoadedClass.readsSet {values : List LoadedClass} (fits : values.length < 2 ^ 32) :
    ReadsSet (LoadedClass.read values.length) (LoadedClass.columns values) values := by
  refine .signed fits _ (.signed fits _ (.pure ?_))
  simp

namespace DataSource

theorem ofCells_fields (value : DataSource) :
    ofCells value.id.toInt64 value.serviceTypeCode.toInt64 value.databaseName value.jdbcUrl
      value.activeConnectionSize.toInt64 value.maxConnectionSize.toInt64 = .ok value := by
  simp only [ofCells, narrow32_toInt64, narrow16_toInt64]
  rfl

theorem readsSet {values : List DataSource} (fits : values.length < 2 ^ 32) :
    ReadsSet (DataSource.read values.length) (DataSource.columns values) values := by
  refine .signed fits _ (.signed fits _ (.text fits _ (.text fits _ (.signed fits _
    (.signed fits _ (.checked ?_))))))
  have passes := mapM_eq_ok fun value (_ : value ∈ values) => ofCells_fields value
  rw [List.map_id'] at passes
  simp only [List.map_map, applyEach_map, List.mapM_map]
  exact passes

end DataSource

/-- The columns of every kind give its values back, CPU loads rounded. -/
theorem StatKind.readsSet (kind : StatKind) {values : List kind.Value}
    (fits : values.length < 2 ^ 32) :
    ReadsSet (kind.read values.length) (kind.columns values) (values.map kind.rounded) := by
  cases kind with
  | jvmGc => exact .kept (JvmGc.readsSet fits)
  | cpuLoad => exact CpuLoad.readsSet fits
  | totalThreadCount => exact .kept (TotalThreadCount.readsSet fits)
  | fileDescriptor => exact .kept (FileDescriptor.readsSet fits)
  | loadedClass => exact .kept (LoadedClass.readsSet fits)
  | dataSource => exact .kept (DataSource.readsSet fits)

end Telemetry.Stat
