import Telemetry.Stat.Columns
import Telemetry.Stat.Kind

namespace Telemetry.Stat

open Wire

/-! The columns of every kind of statistic: one per field, in a fixed order. -/

/-- Applies a list of functions to a list of arguments, place by place. -/
def applyEach {α β : Type} (functions : List (α → β)) (arguments : List α) : List β :=
  List.zipWith (fun function argument => function argument) functions arguments

def narrow32 (field : String) (value : Int64) : Except DecodeError Int32 :=
  if -2147483648 ≤ value.toInt ∧ value.toInt ≤ 2147483647 then .ok (Int32.ofInt value.toInt)
  else .error (.invalidFormat (.outOfRange field value.toInt))

def narrow16 (field : String) (value : Int64) : Except DecodeError Int16 :=
  if -32768 ≤ value.toInt ∧ value.toInt ≤ 32767 then .ok (Int16.ofInt value.toInt)
  else .error (.invalidFormat (.outOfRange field value.toInt))

namespace JvmGc

def columns (values : List JvmGc) : List Column :=
  [.unsigned (values.map fun value => value.gcType.code),
   .signed (values.map heapUsed), .signed (values.map heapMax),
   .signed (values.map nonHeapUsed), .signed (values.map nonHeapMax),
   .signed (values.map gcOldCount), .signed (values.map gcOldTime)]

def read (count : Nat) : ColumnReader (List JvmGc) := do
  let codes ← ColumnReader.column .unsigned count
  let heapUsed ← ColumnReader.column .signed count
  let heapMax ← ColumnReader.column .signed count
  let nonHeapUsed ← ColumnReader.column .signed count
  let nonHeapMax ← ColumnReader.column .signed count
  let gcOldCount ← ColumnReader.column .signed count
  let gcOldTime ← ColumnReader.column .signed count
  let gcTypes ← ColumnReader.lift (codes.mapM GcKind.ofCode)
  let rows := gcTypes.map JvmGc.mk
  pure (applyEach (applyEach (applyEach (applyEach (applyEach (applyEach rows
    heapUsed) heapMax) nonHeapUsed) nonHeapMax) gcOldCount) gcOldTime)

end JvmGc

namespace CpuLoad

def columns (values : List CpuLoad) : List Column :=
  [.signed (values.map fun value => quantize value.jvmCpuLoad),
   .signed (values.map fun value => quantize value.systemCpuLoad)]

def read (count : Nat) : ColumnReader (List CpuLoad) := do
  let jvm ← ColumnReader.column .signed count
  let system ← ColumnReader.column .signed count
  pure (applyEach (jvm.map fun value => CpuLoad.mk (dequantize value)) (system.map dequantize))

/-- The load as it comes back after travelling in thousandths. -/
def rounded (value : CpuLoad) : CpuLoad :=
  ⟨dequantize (quantize value.jvmCpuLoad), dequantize (quantize value.systemCpuLoad)⟩

end CpuLoad

namespace TotalThreadCount

def columns (values : List TotalThreadCount) : List Column :=
  [.signed (values.map totalThreadCount)]

def read (count : Nat) : ColumnReader (List TotalThreadCount) := do
  let counts ← ColumnReader.column .signed count
  pure (counts.map TotalThreadCount.mk)

end TotalThreadCount

namespace FileDescriptor

def columns (values : List FileDescriptor) : List Column :=
  [.signed (values.map openFileDescriptorCount)]

def read (count : Nat) : ColumnReader (List FileDescriptor) := do
  let counts ← ColumnReader.column .signed count
  pure (counts.map FileDescriptor.mk)

end FileDescriptor

namespace LoadedClass

def columns (values : List LoadedClass) : List Column :=
  [.signed (values.map loadedClassCount), .signed (values.map unloadedClassCount)]

def read (count : Nat) : ColumnReader (List LoadedClass) := do
  let loaded ← ColumnReader.column .signed count
  let unloaded ← ColumnReader.column .signed count
  pure (applyEach (loaded.map LoadedClass.mk) unloaded)

end LoadedClass

namespace DataSource

def columns (values : List DataSource) : List Column :=
  [.signed (values.map fun value => value.id.toInt64),
   .signed (values.map fun value => value.serviceTypeCode.toInt64),
   .text (values.map databaseName), .text (values.map jdbcUrl),
   .signed (values.map fun value => value.activeConnectionSize.toInt64),
   .signed (values.map fun value => value.maxConnectionSize.toInt64)]

def ofCells (id serviceTypeCode : Int64) (databaseName jdbcUrl : Option String)
    (active max : Int64) : Except DecodeError DataSource := do
  let id ← narrow32 "data source id" id
  let serviceTypeCode ← narrow16 "data source service type" serviceTypeCode
  let activeConnectionSize ← narrow32 "active connection size" active
  let maxConnectionSize ← narrow32 "max connection size" max
  pure { id, serviceTypeCode, databaseName, jdbcUrl, activeConnectionSize, maxConnectionSize }

def read (count : Nat) : ColumnReader (List DataSource) := do
  let ids ← ColumnReader.column .signed count
  let serviceTypeCodes ← ColumnReader.column .signed count
  let databaseNames ← ColumnReader.column .text count
  let jdbcUrls ← ColumnReader.column .text count
  let active ← ColumnReader.column .signed count
  let max ← ColumnReader.column .signed count
  let rows := applyEach (applyEach (applyEach (applyEach (applyEach (ids.map ofCells)
    serviceTypeCodes) databaseNames) jdbcUrls) active) max
  ColumnReader.lift (rows.mapM fun row => row)

end DataSource

namespace StatKind

def columns : (kind : StatKind) → List kind.Value → List Column
  | .jvmGc => JvmGc.columns
  | .cpuLoad => CpuLoad.columns
  | .totalThreadCount => TotalThreadCount.columns
  | .fileDescriptor => FileDescriptor.columns
  | .loadedClass => LoadedClass.columns
  | .dataSource => DataSource.columns

def read : (kind : StatKind) → (count : Nat) → ColumnReader (List kind.Value)
  | .jvmGc => JvmGc.read
  | .cpuLoad => CpuLoad.read
  | .totalThreadCount => TotalThreadCount.read
  | .fileDescriptor => FileDescriptor.read
  | .loadedClass => LoadedClass.read
  | .dataSource => DataSource.read

/-- The value as it comes back after being written: CPU loads are rounded, all else is kept. -/
def rounded : (kind : StatKind) → kind.Value → kind.Value
  | .jvmGc => id
  | .cpuLoad => CpuLoad.rounded
  | .totalThreadCount => id
  | .fileDescriptor => id
  | .loadedClass => id
  | .dataSource => id

end StatKind

end Telemetry.Stat
