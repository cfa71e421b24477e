import Telemetry.Wire.Sequence

namespace Telemetry.Stat

open Wire

/-! Columns of equally typed cells and the three ways to write one. The shortest way is chosen per
column: a constant column as its single value, any other as runs where that saves bytes and cell
by cell where it does not. -/

structure CellFormat (α : Type) where
  put : α → Except EncodeError Bytes
  read : Reader α

namespace CellFormat

/-- Counters and codes. A negative value takes ten bytes. -/
def unsigned : CellFormat Int64 where
  put value := .ok (putVlong value.toUInt64)
  read := (fun value => value.toInt64) <$> Reader.vlong

/-- Values that may be -1, the mark of a value that could not be collected. -/
def signed : CellFormat Int64 where
  put value := .ok (putSvlong value)
  read := Reader.svlong

def text : CellFormat (Option String) where
  put := putOptionalText
  read := Reader.optionalText

end CellFormat

inductive Strategy where
  | plain
  /-- Run lengths, each with the value of its run. -/
  | runs
  | constant
deriving DecidableEq, Repr

/-- Equal neighbours collected into runs. -/
def runsOf {α : Type} [DecidableEq α] : List α → List (Nat × α)
  | [] => []
  | value :: values =>
      match runsOf values with
      | (length, shared) :: others =>
          if value = shared then (length + 1, shared) :: others
          else (1, value) :: (length, shared) :: others
      | [] => [(1, value)]

namespace Strategy

variable {α : Type}

def code : Strategy → UInt8
  | .plain => 0
  | .runs => 1
  | .constant => 2

def ofCode : UInt8 → Except DecodeError Strategy
  | 0 => .ok .plain
  | 1 => .ok .runs
  | 2 => .ok .constant
  | code => .error (.invalidType (.columnStrategy code))

def putRun (cell : CellFormat α) (run : Nat × α) : Except EncodeError Bytes := do
  let value ← cell.put run.2
  pure (putCount run.1 ++ value)

def put [DecidableEq α] (cell : CellFormat α) (cells : List α) :
    Strategy → Except EncodeError Bytes
  | .plain => putEach cell.put cells
  | .runs => putEach (putRun cell) (runsOf cells)
  | .constant => putIfPresent cell.put cells.head?

/-- Reads runs until `left` of the column's `count` cells, those that are still missing, are
filled. A run of nothing or one that reaches past the column is refused. -/
def readRuns (cell : CellFormat α) (count : Nat) : (left : Nat) → Reader (List α)
  | 0 => pure []
  | left + 1 => do
      let run ← Reader.vint
      if _fits : run.toNat = 0 ∨ left + 1 < run.toNat then
        Reader.malformed (.repeatCount run.toNat (count - (left + 1)) count)
      else
        let value ← cell.read
        let others ← readRuns cell count (left + 1 - run.toNat)
        pure (List.replicate run.toNat value ++ others)
termination_by left => left
decreasing_by omega

def read (cell : CellFormat α) (count : Nat) : Strategy → Reader (List α)
  | .plain => Reader.many cell.read count
  | .runs => readRuns cell count count
  | .constant =>
      if count = 0 then pure [] else (fun value => List.replicate count value) <$> cell.read

/-- The size of a column that cannot be written. -/
def unwritableSize : Nat := UInt64.size - 1

def size [DecidableEq α] (cell : CellFormat α) (cells : List α) (strategy : Strategy) : Nat :=
  match strategy.put cell cells with
  | .ok bytes => bytes.length
  | .error _ => unwritableSize

def choose [DecidableEq α] (cell : CellFormat α) : List α → Strategy
  | [] => .constant
  | first :: others =>
      if others.all fun value => value = first then .constant
      else if size cell (first :: others) .runs < size cell (first :: others) .plain then .runs
      else .plain

end Strategy

end Telemetry.Stat
