import Telemetry.Stat.Batch
import Telemetry.Wire.Writer

namespace Telemetry.Stat

open Wire

/-! Writing batches into a buffer that already has content. The columns are collected in a buffer of
their own, since the header in front of them is known only after the last one. -/

namespace Strategy

variable {α : Type}

def writeRun (cell : CellFormat α) (run : Nat × α) : Writer Unit := do
  Writer.append (putCount run.1)
  Writer.value cell.put run.2

/-- Writes a column cell by cell or run by run. Where a cell cannot be written, the ones in front
of it stay. -/
def write [DecidableEq α] (cell : CellFormat α) (cells : List α) : Strategy → Writer Unit
  | .plain => cells.forM (Writer.value cell.put)
  | .runs => (runsOf cells).forM (writeRun cell)
  | .constant =>
      match cells with
      | [] => pure ()
      | first :: _ => Writer.value cell.put first

end Strategy

/-- The strategies of the columns that are collected, and their bytes one after the other. -/
structure ColumnBuffer where
  codes : List UInt8
  bytes : Bytes
deriving DecidableEq, Repr

abbrev ColumnWriter := EStateM EncodeError ColumnBuffer

namespace ColumnBuffer

def empty : ColumnBuffer := ⟨[], []⟩

/-- The code is noted before the column is written. -/
def column {α : Type} [DecidableEq α] (cell : CellFormat α) (cells : List α) : ColumnWriter Unit :=
  fun buffer =>
    let strategy := Strategy.choose cell cells
    let codes := buffer.codes ++ [strategy.code]
    match strategy.write cell cells buffer.bytes with
    | .ok _ bytes => .ok () ⟨codes, bytes⟩
    | .error cause bytes => .error cause ⟨codes, bytes⟩

/-- The header behind its length, then the columns. -/
def finish (buffer : ColumnBuffer) : Writer Unit := do
  Writer.value putBytes (packCodes buffer.codes)
  Writer.append buffer.bytes

end ColumnBuffer

namespace Column

def write : Column → ColumnWriter Unit
  | .unsigned cells => ColumnBuffer.column .unsigned cells
  | .signed cells => ColumnBuffer.column .signed cells
  | .text cells => ColumnBuffer.column .text cells

def collect (columns : List Column) : Except EncodeError ColumnBuffer :=
  match columns.forM write .empty with
  | .ok _ buffer => .ok buffer
  | .error cause _ => .error cause

end Column

/-- Writes a batch behind what the buffer holds. Whatever can be wrong with the samples is found out
before the first byte is written. -/
def StatBatch.write (batch : StatBatch) : Writer Unit :=
  match batch.points with
  | [] => throw (.emptyBatch "stat data points")
  | first :: others => do
      let points := first :: others
      let deltas ← Writer.lift (timestampDeltas (points.map StatPoint.timestamp))
      match points.find? fun point => point.agentId ≠ first.agentId with
      | some other => throw (.mixedAgentIds first.agentId other.agentId)
      | none =>
          let columns ← Writer.lift <|
            Column.collect (batch.kind.columns (points.map StatPoint.value))
          Writer.append [batchVersion]
          Writer.append (putCount points.length)
          Strategy.runs.write .unsigned (points.map StatPoint.startTimestamp)
          deltas.forM fun delta => Writer.append (putVlong delta.toUInt64)
          columns.finish

end Telemetry.Stat
