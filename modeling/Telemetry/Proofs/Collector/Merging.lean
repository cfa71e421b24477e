import Telemetry.Collector.Table

namespace Telemetry.Collector

/-! Merging what was found in several places. A stable sort leaves items with one key in the order
in which they came, so for the result it does not matter how items with different keys were
mixed. -/

variable {α κ : Type} [LE κ] [Std.IsLinearOrder κ] {key : α → κ} {left right : List α}

theorem key_le_of_mem {first item : α} {others : List α}
    (sorted : (first :: others).Pairwise fun earlier later => key earlier ≤ key later)
    (member : item ∈ first :: others) : key first ≤ key item := by
  rcases List.mem_cons.mp member with rfl | later
  · exact Std.le_refl (key item)
  · exact (List.pairwise_cons.mp sorted).1 item later

variable [DecidableEq κ]

/-- Sorted lists with the same items under each key, in the same order, are the same. -/
theorem eq_of_sorted (leftSorted : left.Pairwise fun earlier later => key earlier ≤ key later)
    (rightSorted : right.Pairwise fun earlier later => key earlier ≤ key later)
    (same : ∀ value,
      left.filter (fun item => key item = value) = right.filter (fun item => key item = value)) :
    left = right := by
  induction left generalizing right with
  | nil =>
      cases right with
      | nil => rfl
      | cons first others => simpa using same (key first)
  | cons head tail induction =>
      cases right with
      | nil => simpa using same (key head)
      | cons first others =>
          have headFound : head ∈ (first :: others).filter fun item => key item = key head := by
            rw [← same]
            simp
          have firstFound : first ∈ (head :: tail).filter fun item => key item = key first := by
            rw [same]
            simp
          have sameKey : key first = key head :=
            Std.le_antisymm (key_le_of_mem rightSorted (List.mem_filter.mp headFound).1)
              (key_le_of_mem leftSorted (List.mem_filter.mp firstFound).1)
          have heads := same (key head)
          rw [List.filter_cons_of_pos (by simp), List.filter_cons_of_pos (by simpa using sameKey),
            List.cons.injEq] at heads
          rcases heads with ⟨rfl, tails⟩
          rw [induction (List.pairwise_cons.mp leftSorted).2 (List.pairwise_cons.mp rightSorted).2]
          intro value
          by_cases here : key head = value
          · exact here ▸ tails
          · simpa [here] using same value

variable [DecidableLE κ]

/-- The items under one key keep their order. -/
theorem filter_mergeSort (items : List α) (value : κ) :
    (items.mergeSort fun first second => key first ≤ key second).filter
        (fun item => key item = value) =
      items.filter fun item => key item = value := by
  have alike : (items.filter fun item => key item = value).Pairwise
      fun first second => decide (key first ≤ key second) = true := by
    rw [List.pairwise_iff_forall_sublist]
    intro first second sublist
    have firstFound := List.mem_filter.mp (sublist.subset (List.mem_cons_self))
    have secondFound := List.mem_filter.mp (sublist.subset (by simp : second ∈ [first, second]))
    simp_all [Std.le_refl]
  have kept := List.sublist_mergeSort (fun first second third => by simpa using Std.le_trans)
    (fun first second => by simpa using Std.le_total) alike List.filter_sublist
  have found := kept.filter fun item => decide (key item = value)
  rw [List.filter_filter] at found
  simp only [Bool.and_self] at found
  refine (found.eq_of_length ?_).symm
  exact ((List.mergeSort_perm items _).filter _).length_eq.symm

/-- Two mixtures of the same items are sorted to the same list. -/
theorem mergeSort_eq_of_filter_eq (key : α → κ) (same : ∀ value,
      left.filter (fun item => key item = value) = right.filter (fun item => key item = value)) :
    (left.mergeSort fun first second => key first ≤ key second) =
      right.mergeSort fun first second => key first ≤ key second := by
  have sorted (items : List α) :
      (items.mergeSort fun first second => key first ≤ key second).Pairwise
        fun first second => key first ≤ key second := by
    simpa using @List.pairwise_mergeSort α (fun first second => decide (key first ≤ key second))
      (fun first second third => by simpa using Std.le_trans)
      (fun first second => by simpa using Std.le_total) items
  apply eq_of_sorted (sorted left) (sorted right)
  intro value
  rw [filter_mergeSort, filter_mergeSort, same]

end Telemetry.Collector
