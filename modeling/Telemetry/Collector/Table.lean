import Telemetry.Wire.Bytes

namespace Telemetry.Collector

open Wire

/-! Sorted tables: rows in ascending byte order of their keys, every key once. All keys that begin
alike stand next to each other, so a scan starts at the first key that is not below the beginning
it looks for and ends at the first key that does not have it. -/

variable {α : Type}

/-- The rows with `update` applied to what the key holds, at its place in the order. -/
def updateRows (key : Bytes) (update : Option α → α) : List (Bytes × α) → List (Bytes × α)
  | [] => [(key, update none)]
  | row :: rows =>
      if key < row.1 then (key, update none) :: row :: rows
      else if key = row.1 then (key, update (some row.2)) :: rows
      else row :: updateRows key update rows

theorem mem_keys_updateRows {key : Bytes} {update : Option α → α} {rows : List (Bytes × α)}
    {other : Bytes} (member : other ∈ (updateRows key update rows).map Prod.fst) :
    other = key ∨ other ∈ rows.map Prod.fst := by
  induction rows with
  | nil => simpa [updateRows] using member
  | cons row rows induction =>
      rw [updateRows] at member
      split at member
      · simpa using member
      · split at member
        · simp only [List.map_cons, List.mem_cons] at member
          exact member.imp_right fun later => List.mem_cons_of_mem _ later
        · simp only [List.map_cons, List.mem_cons] at member
          rcases member with first | later
          · exact .inr (by simp [first])
          · exact (induction later).imp_right fun old => List.mem_cons_of_mem _ old

theorem sorted_updateRows (key : Bytes) (update : Option α → α) {rows : List (Bytes × α)}
    (sorted : (rows.map Prod.fst).Pairwise (· < ·)) :
    ((updateRows key update rows).map Prod.fst).Pairwise (· < ·) := by
  induction rows with
  | nil => simp [updateRows]
  | cons row rows induction =>
      rw [List.map_cons, List.pairwise_cons] at sorted
      rw [updateRows]
      split
      next below =>
        rw [List.map_cons, List.pairwise_cons, List.map_cons, List.pairwise_cons]
        refine ⟨fun other member => ?_, sorted⟩
        rcases List.mem_cons.mp member with first | later
        · exact first ▸ below
        · exact List.lt_trans below (sorted.1 other later)
      next notBelow =>
        split
        next same => simpa only [List.map_cons, List.pairwise_cons, same] using sorted
        next different =>
          rw [List.map_cons, List.pairwise_cons]
          refine ⟨fun other member => ?_, induction sorted.2⟩
          rcases mem_keys_updateRows member with inserted | old
          · exact inserted ▸ Std.lt_of_le_of_ne notBelow (Ne.symm different)
          · exact sorted.1 other old

structure Table (α : Type) where
  rows : List (Bytes × α)
  sorted : (rows.map Prod.fst).Pairwise (· < ·)

namespace Table

def empty : Table α := ⟨[], .nil⟩

def update (table : Table α) (key : Bytes) (change : Option α → α) : Table α :=
  ⟨updateRows key change table.rows, sorted_updateRows key change table.sorted⟩

def get? (table : Table α) (key : Bytes) : Option α := table.rows.lookup key

/-- Adds a cell to a row that holds a list of them. -/
def append (table : Table (List α)) (key : Bytes) (cell : α) : Table (List α) :=
  table.update key fun cells => cells.getD [] ++ [cell]

def insert (table : Table α) (key : Bytes) (value : α) : Table α :=
  table.update key fun _ => value

/-- The rows whose keys begin with the given bytes. -/
def scan (table : Table α) (beginning : Bytes) : List (Bytes × α) :=
  (table.rows.dropWhile fun row => row.1 < beginning).takeWhile fun row =>
    beginning.isPrefixOf row.1

end Table

end Telemetry.Collector
