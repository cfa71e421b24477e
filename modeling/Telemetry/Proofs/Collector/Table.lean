import Telemetry.Collector.Table

namespace Telemetry.Collector

open Wire

/-! What sorted tables hold. A row is found under its key, a change of one row leaves the others
alone, and a scan finds every key with the beginning it looks for, although it stops at the first
key that does not have it. -/

variable {α : Type}

/-- Byte strings that begin alike stand next to each other. -/
theorem prefix_of_between {beginning key later : Bytes} (begins : beginning <+: later)
    (least : beginning ≤ key) (before : key < later) : beginning <+: key := by
  induction beginning generalizing key later with
  | nil => exact List.nil_prefix
  | cons byte beginning induction =>
      rcases begins with ⟨rest, rfl⟩
      cases key with
      | nil => exact absurd least (by simp)
      | cons first key =>
          rw [List.cons_le_cons_iff] at least
          rw [List.cons_append, List.cons_lt_cons_iff] at before
          have same : byte = first ∧ beginning ≤ key ∧ key < beginning ++ rest := by
            rcases least with above | ⟨same, least⟩
            · rcases before with below | ⟨same, -⟩
              · exact absurd (UInt8.lt_trans above below) (UInt8.lt_irrefl byte)
              · exact absurd (same ▸ above) (UInt8.lt_irrefl byte)
            · rcases before with below | ⟨-, before⟩
              · exact absurd (same ▸ below) (UInt8.lt_irrefl first)
              · exact ⟨same, least, before⟩
          rcases same with ⟨rfl, least, before⟩
          exact (List.prefix_cons_inj byte).mpr
            (induction (List.prefix_append beginning rest) least before)

section Rows

variable {key other beginning : Bytes} {rows : List (Bytes × α)} {update : Option α → α}

theorem lookup_row (key : Bytes) (row : Bytes × α) (rows : List (Bytes × α)) :
    (row :: rows).lookup key = if key = row.1 then some row.2 else rows.lookup key := by
  rcases row with ⟨present, value⟩
  by_cases same : key = present
  · simp [same]
  · have passed : (key == present) = false := by simpa using same
    rw [List.lookup_cons, passed, if_neg same]

theorem lookup_of_lt (below : ∀ present ∈ rows.map Prod.fst, key < present) :
    rows.lookup key = none := by
  rw [List.lookup_eq_none_iff]
  intro row member
  have above := below row.1 (List.mem_map_of_mem member)
  simpa using fun same : key = row.1 => List.lt_irrefl key (same ▸ above)

theorem lookup_updateRows (sorted : (rows.map Prod.fst).Pairwise (· < ·)) :
    (updateRows key update rows).lookup other =
      if other = key then some (update (rows.lookup key)) else rows.lookup other := by
  induction rows with
  | nil => exact lookup_row other (key, update none) []
  | cons row rows induction =>
      rw [List.map_cons, List.pairwise_cons] at sorted
      rw [updateRows]
      split
      next below =>
        have absent : (row :: rows).lookup key = none := by
          apply lookup_of_lt
          intro present member
          rcases List.mem_cons.mp member with first | later
          · exact first ▸ below
          · exact List.lt_trans below (sorted.1 present later)
        rw [absent, lookup_row]
      next =>
        split
        next same =>
          rw [lookup_row, lookup_row, lookup_row, if_pos same]
          by_cases found : other = key <;> simp [found, ← same]
        next different =>
          rw [lookup_row, lookup_row, lookup_row, if_neg different, induction sorted.2]
          by_cases first : other = row.1
          · simp [first, Ne.symm different]
          · simp [first]

/-- Where no key is below the beginning, the keys that have it come first. -/
theorem takeWhile_eq_filter (sorted : (rows.map Prod.fst).Pairwise (· < ·))
    (least : ∀ row ∈ rows, beginning ≤ row.1) :
    (rows.takeWhile fun row => beginning.isPrefixOf row.1) =
      rows.filter fun row => beginning.isPrefixOf row.1 := by
  induction rows with
  | nil => rfl
  | cons row rows induction =>
      rw [List.map_cons, List.pairwise_cons] at sorted
      rw [List.takeWhile_cons, List.filter_cons]
      split
      next =>
        rw [induction sorted.2 fun later member => least later (List.mem_cons_of_mem row member)]
      next other =>
        symm
        rw [List.filter_eq_nil_iff]
        intro later member begins
        rw [List.isPrefixOf_iff_prefix] at begins other
        exact other (prefix_of_between begins (least row List.mem_cons_self)
          (sorted.1 later.1 (List.mem_map_of_mem member)))

end Rows

namespace Table

variable {table : Table α} {key other : Bytes}

theorem get?_update (table : Table α) (key other : Bytes) (change : Option α → α) :
    (table.update key change).get? other =
      if other = key then some (change (table.get? key)) else table.get? other :=
  lookup_updateRows table.sorted

/-- A scan returns exactly the rows whose keys have the beginning. -/
theorem scan_eq_filter (table : Table α) (beginning : Bytes) :
    table.scan beginning = table.rows.filter fun row => beginning.isPrefixOf row.1 := by
  rcases table with ⟨rows, sorted⟩
  rw [scan]
  induction rows with
  | nil => rfl
  | cons row rows induction =>
      rw [List.dropWhile_cons]
      split
      next below =>
        rw [List.map_cons, List.pairwise_cons] at sorted
        have different : ¬ beginning.isPrefixOf row.1 := by
          intro begins
          rw [List.isPrefixOf_iff_prefix] at begins
          exact List.lt_irrefl _ (Std.lt_of_lt_of_le (by simpa using below) begins.le)
        rw [induction sorted.2, List.filter_cons_of_neg (by simpa using different)]
      next least =>
        apply takeWhile_eq_filter sorted
        intro present member
        have first : beginning ≤ row.1 := by simpa using least
        rcases List.mem_cons.mp member with rfl | later
        · exact first
        · rw [List.map_cons, List.pairwise_cons] at sorted
          exact Std.le_trans first
            (Std.le_of_lt (sorted.1 present.1 (List.mem_map_of_mem later)))

theorem filter_key_eq (table : Table α) (key : Bytes) :
    table.rows.filter (fun row => row.1 = key) =
      (table.get? key).toList.map fun value => (key, value) := by
  rcases table with ⟨rows, sorted⟩
  rw [get?]
  induction rows with
  | nil => rfl
  | cons row rows induction =>
      rw [List.map_cons, List.pairwise_cons] at sorted
      by_cases same : row.1 = key
      · have absent : rows.filter (fun row => row.1 = key) = [] := by
          rw [List.filter_eq_nil_iff]
          intro later member found
          have above := sorted.1 later.1 (List.mem_map_of_mem member)
          exact List.lt_irrefl key (by simpa [same, of_decide_eq_true found] using above)
        rw [List.filter_cons_of_pos (by simpa using same), absent, lookup_row, if_pos same.symm]
        simp [← same]
      · rw [List.filter_cons_of_neg (by simpa using same), lookup_row, if_neg (Ne.symm same)]
        exact induction sorted.2

theorem get?_of_mem {row : Bytes × α} (member : row ∈ table.rows) :
    table.get? row.1 = some row.2 := by
  have found : row ∈ table.rows.filter fun other => other.1 = row.1 :=
    List.mem_filter.mpr ⟨member, decide_eq_true rfl⟩
  rw [filter_key_eq] at found
  rcases List.mem_map.mp found with ⟨value, held, same⟩
  rw [Option.mem_toList] at held
  rw [held, ← same]

theorem mem_scan_iff (table : Table α) (beginning : Bytes) (row : Bytes × α) :
    row ∈ table.scan beginning ↔ table.get? row.1 = some row.2 ∧ beginning <+: row.1 := by
  rw [scan_eq_filter, List.mem_filter, List.isPrefixOf_iff_prefix]
  refine and_congr_left fun _ => ⟨get?_of_mem, fun held => ?_⟩
  have found : row ∈ table.rows.filter fun other => other.1 = row.1 := by
    rw [filter_key_eq, held]
    simp
  exact (List.mem_filter.mp found).1

theorem pairwise_scan (table : Table α) (beginning : Bytes) :
    (table.scan beginning).Pairwise fun first later => first.1 < later.1 := by
  rw [scan_eq_filter]
  exact (List.pairwise_map.mp table.sorted).filter _

/-- The cells under a key, none where there is no row. -/
def cells (table : Table (List α)) (key : Bytes) : List α := (table.get? key).getD []

@[simp] theorem cells_empty (key : Bytes) : (empty : Table (List α)).cells key = [] := rfl

theorem cells_append (table : Table (List α)) (key other : Bytes) (cell : α) :
    (table.append key cell).cells other =
      table.cells other ++ if other = key then [cell] else [] := by
  rw [cells, append, get?_update, cells]
  by_cases same : other = key <;> simp [same]

theorem mem_keys_append {table : Table (List α)} {key present : Bytes} {cell : α}
    (member : present ∈ (table.append key cell).rows.map Prod.fst) :
    present = key ∨ present ∈ table.rows.map Prod.fst :=
  mem_keys_updateRows member

end Table

end Telemetry.Collector
