import Telemetry.Proofs.Collector.Table

namespace Telemetry.Collector

open Wire

/-! Scans of sorted tables. The keys that begin alike are one block of the table: the keys below the
beginning stand in front of it, and what stands behind it is above everything that begins so. A scan
returns this block, so neither its start nor its end loses a key. -/

variable {α : Type}

/-- Behind the end of a property that goes from later items over to earlier ones, no item has it. -/
theorem not_of_mem_dropWhile {items : List α} {holds : α → Bool}
    (closed : items.Pairwise fun first second => holds second → holds first) {item : α}
    (member : item ∈ items.dropWhile holds) : ¬ holds item := by
  induction items with
  | nil => cases member
  | cons first items induction =>
      rw [List.pairwise_cons] at closed
      rw [List.dropWhile_cons] at member
      split at member
      next => exact induction closed.2 member
      next ended =>
        rcases List.mem_cons.mp member with rfl | later
        · exact ended
        · exact fun held => ended (closed.1 item later held)

/-- What is not below a beginning and does not have it is above all that has it. -/
theorem append_lt_of_not_prefix {beginning key : Bytes} (least : beginning ≤ key)
    (other : ¬ beginning <+: key) (rest : Bytes) : beginning ++ rest < key := by
  have begins : beginning <+: beginning ++ rest := List.prefix_append beginning rest
  apply Std.not_le.mp
  intro notAbove
  by_cases same : key = beginning ++ rest
  · exact other (same ▸ begins)
  · exact other (prefix_of_between begins least (Std.lt_of_le_of_ne notAbove same))

namespace Table

variable {table : Table α} {beginning : Bytes} {row : Bytes × α}

/-- A scan starts where the keys stop being below the beginning. -/
theorem least_of_mem_dropWhile
    (member : row ∈ table.rows.dropWhile fun row => row.1 < beginning) : beginning ≤ row.1 := by
  have closed : table.rows.Pairwise fun first second =>
      decide (second.1 < beginning) → decide (first.1 < beginning) := by
    refine (List.pairwise_map.mp table.sorted).imp fun {first second} before below => ?_
    rw [decide_eq_true_iff] at below ⊢
    exact List.lt_trans before below
  simpa using not_of_mem_dropWhile closed member

theorem above_of_mem_dropWhile
    (member : row ∈ (table.rows.dropWhile fun row => row.1 < beginning).dropWhile
      fun row => beginning.isPrefixOf row.1) (rest : Bytes) : beginning ++ rest < row.1 := by
  have sorted := (List.pairwise_map.mp table.sorted).sublist
    (List.dropWhile_sublist fun row => decide (row.1 < beginning))
  have closed := sorted.imp_of_mem fun {first second} firstMember _ before => show
      beginning.isPrefixOf second.1 → beginning.isPrefixOf first.1 by
    rw [List.isPrefixOf_iff_prefix, List.isPrefixOf_iff_prefix]
    exact fun begins => prefix_of_between begins (least_of_mem_dropWhile firstMember) before
  have other := not_of_mem_dropWhile closed member
  rw [List.isPrefixOf_iff_prefix] at other
  have inside := (List.dropWhile_sublist _).subset member
  exact append_lt_of_not_prefix (least_of_mem_dropWhile inside) other rest

/-- A scan returns every row under a key with the beginning and no other row, each of them once and
in ascending order of the keys. They are all that stands in the table between the keys below the
beginning and the keys above whatever has it. -/
theorem scan_exact (table : Table α) (beginning : Bytes) :
    (∀ key value, (key, value) ∈ table.scan beginning ↔
      table.get? key = some value ∧ beginning <+: key) ∧
    ((table.scan beginning).map Prod.fst).Pairwise (· < ·) ∧
    ∃ below above, table.rows = below ++ table.scan beginning ++ above ∧
      (∀ row ∈ below, row.1 < beginning) ∧
      ∀ row ∈ above, ∀ rest, beginning ++ rest < row.1 := by
  refine ⟨fun key value => table.mem_scan_iff beginning (key, value),
    List.pairwise_map.mpr (table.pairwise_scan beginning),
    table.rows.takeWhile fun row => row.1 < beginning,
    (table.rows.dropWhile fun row => row.1 < beginning).dropWhile
      fun row => beginning.isPrefixOf row.1, ?_, fun row member => ?_,
    fun row => above_of_mem_dropWhile⟩
  · rw [scan, List.append_assoc, List.takeWhile_append_dropWhile, List.takeWhile_append_dropWhile]
  · exact of_decide_eq_true (List.all_eq_true.mp List.all_takeWhile row member)

/-- No byte is above the last one of this beginning. -/
example : ((((empty.insert [255, 255, 0] ()).insert [255] ()).insert [255, 255] ()).insert
    [255, 254, 1] ()).scan [255, 255] = [([255, 255], ()), ([255, 255, 0], ())] := by
  decide

end Table

end Telemetry.Collector
