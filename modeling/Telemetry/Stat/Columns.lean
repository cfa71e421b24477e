import Telemetry.Stat.Strategy

namespace Telemetry.Stat

open Wire

/-! A set of columns behind one header. The header names the strategy of every column in two bits
each, four codes to a byte, so that a reader knows how a column is laid out before it reads it. -/

inductive Column where
  | unsigned (cells : List Int64)
  | signed (cells : List Int64)
  | text (cells : List (Option String))
deriving DecidableEq, Repr

/-! ### Packed strategy codes -/

/-- Four codes in one byte, the first in the highest bits. -/
def packByte (first second third fourth : UInt8) : UInt8 :=
  UInt8.ofNat (first.toNat % 4 * 64 + second.toNat % 4 * 16 + third.toNat % 4 * 4 +
    fourth.toNat % 4)

/-- Codes in groups of four; the last byte is filled up with zeros. -/
def packCodes : List UInt8 → Bytes
  | [] => []
  | [first] => [packByte first 0 0 0]
  | [first, second] => [packByte first second 0 0]
  | [first, second, third] => [packByte first second third 0]
  | first :: second :: third :: fourth :: others =>
      packByte first second third fourth :: packCodes others

def unpackCodes (bytes : Bytes) : List UInt8 :=
  bytes.flatMap fun byte => [byte / 64, byte / 16 % 4, byte / 4 % 4, byte % 4]

/-! ### Writing -/

def putColumn {α : Type} [DecidableEq α] (cell : CellFormat α) (cells : List α) :
    Except EncodeError (Strategy × Bytes) := do
  let strategy := Strategy.choose cell cells
  let bytes ← strategy.put cell cells
  pure (strategy, bytes)

namespace Column

def put : Column → Except EncodeError (Strategy × Bytes)
  | .unsigned cells => putColumn .unsigned cells
  | .signed cells => putColumn .signed cells
  | .text cells => putColumn .text cells

/-- The header behind its length, then the columns in order. -/
def putSet (columns : List Column) : Except EncodeError Bytes := do
  let written ← columns.mapM put
  let header ← putBytes (packCodes (written.map fun column => column.1.code))
  pure (header ++ written.flatMap fun column => column.2)

end Column

/-! ### Reading -/

/-- What reading columns works on: the strategy codes not used yet and the bytes not read yet. -/
structure ColumnSource where
  codes : List UInt8
  rest : Bytes
deriving DecidableEq, Repr

abbrev ColumnReader := EStateM DecodeError ColumnSource

namespace ColumnReader

variable {α : Type}

/-- Reads from the bytes and leaves the codes alone. -/
def ofReader (reader : Reader α) : ColumnReader α := fun source =>
  match reader source.rest with
  | .ok value rest => .ok value { source with rest }
  | .error error rest => .error error { source with rest }

def nextCode : ColumnReader UInt8 := fun source =>
  match source.codes with
  | [] => .error (.invalidFormat .statHeaderExhausted) source
  | code :: codes => .ok code { source with codes }

def column (cell : CellFormat α) (count : Nat) : ColumnReader (List α) := do
  let code ← nextCode
  match Strategy.ofCode code with
  | .ok strategy => ofReader (strategy.read cell count)
  | .error error => throw error

def run (header : Bytes) (reader : ColumnReader α) : Reader α := fun rest =>
  match reader ⟨unpackCodes header, rest⟩ with
  | .ok value source => .ok value source.rest
  | .error error source => .error error source.rest

def lift : Except DecodeError α → ColumnReader α
  | .ok value => pure value
  | .error error => throw error

end ColumnReader

end Telemetry.Stat
