import Telemetry.Stat.Batch

namespace Telemetry.Stat

open Wire

/-! Reading batches with every step guarded. The columns of a batch are put together by place, two
lists are paired up to the end of the shorter one, and counts are subtracted from each other. Each
of these steps has a meaning only inside its range: a place inside the column, lists of one length,
a difference that is not negative. The guarded readers stop where a step would leave its range. They
do the same as the readers of the batches, so no step ever does. -/

/-- Why a guarded reader stops: it refuses the bytes, or a step would leave its range. -/
inductive Stop where
  | refused (cause : DecodeError)
  | outOfRange
deriving DecidableEq, Repr

abbrev GuardedReader (σ : Type) := EStateM Stop σ

namespace GuardedReader

variable {σ α β : Type}

/-- A reader none of whose steps has a range. -/
def ofReader (reader : EStateM DecodeError σ α) : GuardedReader σ α := fun state =>
  match reader state with
  | .ok value after => .ok value after
  | .error cause after => .error (.refused cause) after

def require (condition : Prop) [Decidable condition] (value : α) : GuardedReader σ α :=
  if condition then pure value else throw .outOfRange

/-- What is left of `whole` without `part`. -/
def difference (whole part : Nat) : GuardedReader σ Nat := require (part ≤ whole) (whole - part)

def cellAt (cells : List α) (place : Nat) : GuardedReader σ α :=
  match cells[place]? with
  | some cell => pure cell
  | none => throw .outOfRange

/-- The pairs of two lists of one length. -/
def pairs (left : List α) (right : List β) : GuardedReader σ (List (α × β)) :=
  require (left.length = right.length) (left.zip right)

/-- Reads from the bytes and leaves the strategy codes alone. -/
def ofBytes (reader : GuardedReader Bytes α) : GuardedReader ColumnSource α := fun source =>
  match reader source.rest with
  | .ok value rest => .ok value { source with rest }
  | .error stop rest => .error stop { source with rest }

def run (header : Bytes) (reader : GuardedReader ColumnSource α) : GuardedReader Bytes α :=
  fun rest =>
    match reader ⟨unpackCodes header, rest⟩ with
    | .ok value source => .ok value source.rest
    | .error stop source => .error stop source.rest

end GuardedReader

open GuardedReader

namespace Strategy

variable {α : Type}

/-- Fills the column up run by run, behind the cells that are there already. -/
def guardedRuns (cell : CellFormat α) (count : Nat) (cells : List α) :
    GuardedReader Bytes (List α) :=
  if _short : cells.length < count then do
    let run ← ofReader Reader.vint
    let missing ← difference count cells.length
    if _fits : run.toNat = 0 ∨ missing < run.toNat then
      ofReader (Reader.malformed (.repeatCount run.toNat cells.length count))
    else
      let value ← ofReader cell.read
      guardedRuns cell count (cells ++ List.replicate run.toNat value)
  else pure cells
termination_by count - cells.length
decreasing_by
  rw [List.length_append, List.length_replicate]
  omega

def guardedRead (cell : CellFormat α) (count : Nat) : Strategy → GuardedReader Bytes (List α)
  | .plain => ofReader (plain.read cell count)
  | .runs => guardedRuns cell count []
  | .constant => ofReader (constant.read cell count)

end Strategy

def GuardedReader.column {α : Type} (cell : CellFormat α) (count : Nat) :
    GuardedReader ColumnSource (List α) := do
  let code ← ofReader ColumnReader.nextCode
  match Strategy.ofCode code with
  | .ok strategy => ofBytes (strategy.guardedRead cell count)
  | .error error => throw (.refused error)

/-- One row for each place of the columns. -/
def GuardedReader.rows {α : Type} (count : Nat) (row : Nat → GuardedReader ColumnSource α) :
    GuardedReader ColumnSource (List α) :=
  (List.range count).mapM row

def GuardedReader.checked {α : Type} (result : Except DecodeError α) :
    GuardedReader ColumnSource α :=
  ofReader (ColumnReader.lift result)

def JvmGc.guardedRead (count : Nat) : GuardedReader ColumnSource (List JvmGc) := do
  let codes ← column .unsigned count
  let heapUsed ← column .signed count
  let heapMax ← column .signed count
  let nonHeapUsed ← column .signed count
  let nonHeapMax ← column .signed count
  let gcOldCount ← column .signed count
  let gcOldTime ← column .signed count
  rows count fun place => do
    let code ← cellAt codes place
    let gcType ← checked (GcKind.ofCode code)
    let heapUsed ← cellAt heapUsed place
    let heapMax ← cellAt heapMax place
    let nonHeapUsed ← cellAt nonHeapUsed place
    let nonHeapMax ← cellAt nonHeapMax place
    let gcOldCount ← cellAt gcOldCount place
    let gcOldTime ← cellAt gcOldTime place
    pure { gcType, heapUsed, heapMax, nonHeapUsed, nonHeapMax, gcOldCount, gcOldTime }

def CpuLoad.guardedRead (count : Nat) : GuardedReader ColumnSource (List CpuLoad) := do
  let jvm ← column .signed count
  let system ← column .signed count
  let loads ← pairs jvm system
  pure (loads.map fun load => ⟨dequantize load.1, dequantize load.2⟩)

def TotalThreadCount.guardedRead (count : Nat) :
    GuardedReader ColumnSource (List TotalThreadCount) := do
  let counts ← column .signed count
  pure (counts.map TotalThreadCount.mk)

def FileDescriptor.guardedRead (count : Nat) :
    GuardedReader ColumnSource (List FileDescriptor) := do
  let counts ← column .signed count
  pure (counts.map FileDescriptor.mk)

def LoadedClass.guardedRead (count : Nat) : GuardedReader ColumnSource (List LoadedClass) := do
  let loaded ← column .signed count
  let unloaded ← column .signed count
  let counts ← pairs loaded unloaded
  pure (counts.map fun count => ⟨count.1, count.2⟩)

def DataSource.guardedRead (count : Nat) : GuardedReader ColumnSource (List DataSource) := do
  let ids ← column .signed count
  let serviceTypeCodes ← column .signed count
  let databaseNames ← column .text count
  let jdbcUrls ← column .text count
  let active ← column .signed count
  let max ← column .signed count
  rows count fun place => do
    let id ← cellAt ids place
    let id ← checked (narrow32 "data source id" id)
    let serviceTypeCode ← cellAt serviceTypeCodes place
    let serviceTypeCode ← checked (narrow16 "data source service type" serviceTypeCode)
    let databaseName ← cellAt databaseNames place
    let jdbcUrl ← cellAt jdbcUrls place
    let activeConnectionSize ← cellAt active place
    let activeConnectionSize ← checked (narrow32 "active connection size" activeConnectionSize)
    let maxConnectionSize ← cellAt max place
    let maxConnectionSize ← checked (narrow32 "max connection size" maxConnectionSize)
    pure { id, serviceTypeCode, databaseName, jdbcUrl, activeConnectionSize, maxConnectionSize }

def StatKind.guardedRead : (kind : StatKind) → (count : Nat) →
    GuardedReader ColumnSource (List kind.Value)
  | .jvmGc => JvmGc.guardedRead
  | .cpuLoad => CpuLoad.guardedRead
  | .totalThreadCount => TotalThreadCount.guardedRead
  | .fileDescriptor => FileDescriptor.guardedRead
  | .loadedClass => LoadedClass.guardedRead
  | .dataSource => DataSource.guardedRead

def StatBatch.guardedRead (kind : StatKind) (context : BatchContext) :
    GuardedReader Bytes StatBatch := do
  let version ← ofReader Reader.byte
  if version ≠ batchVersion then throw (.refused (.unknownVersion version))
  else
    let count ← ofReader ((fun count => count.toNat) <$> Reader.vint)
    let remaining ← ofReader Reader.remaining
    if count = 0 then ofReader (Reader.malformed (.statPointCount count remaining))
    else
      let steps ← difference count 1
      if remaining < steps then ofReader (Reader.malformed (.statPointCount count remaining))
      else
        let starts ← Strategy.runs.guardedRead .unsigned count
        let deltas ← ofReader (Reader.many Reader.vlong steps)
        let timestamps :=
          timestampsFrom context.initialTimestamp (deltas.map fun delta => delta.toInt64)
        let header ← ofReader readHeader
        let values ← run header (kind.guardedRead count)
        let times ← pairs starts timestamps
        let points ← pairs times values
        pure ⟨kind, points.map fun point =>
          ⟨context.agentId, point.1.1, point.1.2, point.2⟩⟩

end Telemetry.Stat
