import Telemetry.Stat.Buffered

namespace Telemetry.Stat

open Wire

/-! Sets of columns with their codes packed one after the other. A code goes behind the one before
it, into a new byte where the last one is full. A reader has two places that it moves on from, one
in the header and one in the bytes of the columns. -/

/-- How far the bits of the code at this place of a byte are from the lowest ones. -/
def codeShift (slot : Nat) : UInt8 := UInt8.ofNat (8 - 2 * (slot + 1))

/-! ### Writing -/

structure CodePacker where
  bytes : Bytes
  count : Nat
deriving DecidableEq, Repr

namespace CodePacker

def empty : CodePacker := ⟨[], 0⟩

def add (packer : CodePacker) (code : UInt8) : CodePacker :=
  let slot := packer.count % 4
  let bytes := if slot = 0 then packer.bytes ++ [0] else packer.bytes
  match bytes.getLast? with
  | some last => ⟨bytes.dropLast ++ [last ||| (code &&& 3) <<< codeShift slot], packer.count + 1⟩
  | none => ⟨bytes, packer.count + 1⟩

end CodePacker

structure ColumnPacker where
  codes : CodePacker
  bytes : Bytes
deriving DecidableEq, Repr

abbrev PackerWriter := EStateM EncodeError ColumnPacker

namespace ColumnPacker

def empty : ColumnPacker := ⟨.empty, []⟩

def column {α : Type} [DecidableEq α] (cell : CellFormat α) (cells : List α) : PackerWriter Unit :=
  fun packer =>
    let strategy := Strategy.choose cell cells
    let codes := packer.codes.add strategy.code
    match strategy.write cell cells packer.bytes with
    | .ok _ bytes => .ok () ⟨codes, bytes⟩
    | .error cause bytes => .error cause ⟨codes, bytes⟩

def write : Column → PackerWriter Unit
  | .unsigned cells => column .unsigned cells
  | .signed cells => column .signed cells
  | .text cells => column .text cells

def finish (packer : ColumnPacker) : Writer Unit := do
  Writer.value putBytes packer.codes.bytes
  Writer.append packer.bytes

end ColumnPacker

/-! ### Reading -/

structure CodeCursor where
  header : Bytes
  position : Nat
deriving DecidableEq, Repr

def CodeCursor.next : EStateM DecodeError CodeCursor UInt8 := fun cursor =>
  match cursor.header[cursor.position / 4]? with
  | none => .error (.invalidFormat .statHeaderExhausted) cursor
  | some byte =>
      .ok (byte >>> codeShift (cursor.position % 4) &&& 3)
        { cursor with position := cursor.position + 1 }

structure ColumnCursor where
  codes : CodeCursor
  rest : Bytes
deriving DecidableEq, Repr

abbrev CursorReader := EStateM DecodeError ColumnCursor

namespace CursorReader

variable {α : Type}

def ofReader (reader : Reader α) : CursorReader α := fun cursor =>
  match reader cursor.rest with
  | .ok value rest => .ok value { cursor with rest }
  | .error error rest => .error error { cursor with rest }

def nextCode : CursorReader UInt8 := fun cursor =>
  match CodeCursor.next cursor.codes with
  | .ok code codes => .ok code { cursor with codes }
  | .error error codes => .error error { cursor with codes }

def column (cell : CellFormat α) (count : Nat) : CursorReader (List α) := do
  let code ← nextCode
  match Strategy.ofCode code with
  | .ok strategy => ofReader (strategy.read cell count)
  | .error error => throw error

def run (header : Bytes) (reader : CursorReader α) : Reader α := fun rest =>
  match reader ⟨⟨header, 0⟩, rest⟩ with
  | .ok value cursor => .ok value cursor.rest
  | .error error cursor => .error error cursor.rest

end CursorReader

/-! ### Columns of known kinds -/

inductive ColumnKind where
  | unsigned
  | signed
  | text
deriving DecidableEq, Repr

namespace Column

def kind : Column → ColumnKind
  | .unsigned _ => .unsigned
  | .signed _ => .signed
  | .text _ => .text

def length : Column → Nat
  | .unsigned cells => cells.length
  | .signed cells => cells.length
  | .text cells => cells.length

end Column

/-- Reads a column of this kind, given how to read one of any cells. -/
def ColumnKind.read {m : Type → Type} [Functor m]
    (column : {α : Type} → CellFormat α → m (List α)) : ColumnKind → m Column
  | .unsigned => Column.unsigned <$> column .unsigned
  | .signed => Column.signed <$> column .signed
  | .text => Column.text <$> column .text

/-- Reads columns of these kinds, of `count` cells each, with the header in front of them. -/
def Column.readSet (kinds : List ColumnKind) (count : Nat) : Reader (List Column) := do
  let header ← StatBatch.readHeader
  CursorReader.run header (kinds.mapM (ColumnKind.read (CursorReader.column · count)))

end Telemetry.Stat
