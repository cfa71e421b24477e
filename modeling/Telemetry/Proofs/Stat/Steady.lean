import Telemetry.Proofs.Wire.Steady
import Telemetry.Stat.Batch

namespace Telemetry.Stat

open Wire Reader

/-! The readers of statistics are steady. Strategy codes are all taken from a header that is read
before the columns, so what stands behind the columns cannot change them. -/

/-! ### Columns -/

/-- A format of which every cell shows where it ends. -/
def CellFormat.Steady {α : Type} (cell : CellFormat α) : Prop := Wire.Steady cell.read

theorem CellFormat.steady_unsigned : CellFormat.unsigned.Steady := steady_vlong.map _

theorem CellFormat.steady_signed : CellFormat.signed.Steady := steady_svlong

theorem CellFormat.steady_text : CellFormat.text.Steady := steady_optionalText

theorem Strategy.steady_readRuns {α : Type} {cell : CellFormat α} (steady : cell.Steady)
    (count left : Nat) : Wire.Steady (readRuns cell count left) := by
  induction left using Nat.strong_induction_on with
  | _ left induction =>
      cases left with
      | zero =>
          rw [readRuns]
          exact .pure []
      | succ left =>
          rw [readRuns]
          refine steady_vint.bind fun run => ?_
          split
          next => exact steady_malformed _
          next fits =>
            have shorter : left + 1 - run.toNat < left + 1 := by omega
            exact steady.bind fun value => (induction _ shorter).bind fun _ => .pure _

theorem Strategy.steady_read {α : Type} {cell : CellFormat α} (steady : cell.Steady) (count : Nat)
    (strategy : Strategy) : Wire.Steady (strategy.read cell count) := by
  cases strategy with
  | plain => exact steady_many steady count
  | runs => exact steady_readRuns steady count count
  | constant => exact .ite (.pure []) (steady.map _)

instance : HAppend ColumnSource Bytes ColumnSource where
  hAppend source more := { source with rest := source.rest ++ more }

namespace ColumnReader

variable {α : Type}

theorem steady_ofReader {reader : Reader α} (steady : Steady reader) :
    Steady (ofReader reader) := by
  intro source value after read more
  rw [ofReader] at read
  split at read
  next rest itemRead =>
    cases read
    change ofReader reader ⟨source.codes, source.rest ++ more⟩ = _
    rw [ofReader, steady itemRead more]
    rfl
  next => cases read

theorem steady_nextCode : Steady nextCode := by
  rintro ⟨codes, rest⟩ value after read more
  cases codes with
  | nil => cases read
  | cons code codes =>
      cases read
      rfl

theorem steady_column {cell : CellFormat α} (steady : cell.Steady) (count : Nat) :
    Steady (column cell count) := by
  refine steady_nextCode.bind fun code => ?_
  split
  · exact steady_ofReader (Strategy.steady_read steady count _)
  · exact .throw _

theorem steady_lift (result : Except DecodeError α) : Steady (lift result) := by
  cases result with
  | ok value => exact .pure value
  | error error => exact .throw error

theorem steady_run (header : Bytes) {reader : ColumnReader α} (steady : Steady reader) :
    Steady (run header reader) := by
  intro bytes value rest read more
  rw [run] at read
  split at read
  next source columnsRead =>
    cases read
    have readOn := steady columnsRead more
    change reader ⟨unpackCodes header, bytes ++ more⟩ = _ at readOn
    rw [run, readOn]
    rfl
  next => cases read

end ColumnReader

/-! ### Batches -/

theorem StatKind.steady_read (kind : StatKind) (count : Nat) : Steady (kind.read count) := by
  have signed := ColumnReader.steady_column CellFormat.steady_signed count
  have text := ColumnReader.steady_column CellFormat.steady_text count
  cases kind with
  | jvmGc =>
      refine (ColumnReader.steady_column CellFormat.steady_unsigned count).bind fun _ => ?_
      refine signed.bind fun _ => signed.bind fun _ => signed.bind fun _ => ?_
      refine signed.bind fun _ => signed.bind fun _ => signed.bind fun _ => ?_
      exact (ColumnReader.steady_lift _).bind fun _ => .pure _
  | cpuLoad => exact signed.bind fun _ => signed.bind fun _ => .pure _
  | totalThreadCount => exact signed.bind fun _ => .pure _
  | fileDescriptor => exact signed.bind fun _ => .pure _
  | loadedClass => exact signed.bind fun _ => signed.bind fun _ => .pure _
  | dataSource =>
      refine signed.bind fun _ => signed.bind fun _ => text.bind fun _ => text.bind fun _ => ?_
      exact signed.bind fun _ => signed.bind fun _ => ColumnReader.steady_lift _

namespace StatBatch

theorem steady_readHeader : Steady readHeader := by
  refine steady_optionalBytes.bind fun header => ?_
  cases header with
  | some header => exact .pure header
  | none => exact steady_malformed _

theorem steady_read (kind : StatKind) (context : BatchContext) : Steady (read kind context) := by
  refine steady_byte.bind fun version => .ite (.throw _) ?_
  refine (steady_vint.map _).bind fun count => steady_afterRemaining (fun longer failed => ?_) ?_
  · omega
  · refine (Strategy.steady_read CellFormat.steady_unsigned count .runs).bind fun starts => ?_
    refine (steady_many steady_vlong _).bind fun deltas => steady_readHeader.bind fun header => ?_
    exact (ColumnReader.steady_run header (kind.steady_read count)).bind fun _ => .pure _

end StatBatch

end Telemetry.Stat
