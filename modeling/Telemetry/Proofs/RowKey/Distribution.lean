import Telemetry.Proofs.Wire.Reading
import Telemetry.RowKey.Distribution

namespace Telemetry.RowKey

open Wire

/-! Keys behind their buckets. A key has one bucket, so a scan under every bucket comes across it
once. -/

@[simp] theorem undistributed_distribute (distributor : Distributor) (key : Bytes) :
    undistributed (distributor.distribute key) = key := rfl

theorem readUndistributed_distribute {α : Type} {length : Nat} {key : Bytes}
    (distributor : Distributor) (item : Bytes → Except RowKeyError α)
    (complete : key.length = length) :
    readUndistributed length (distributor.distribute key) item = item key := by
  rw [readUndistributed, undistributed_distribute, if_pos complete]

/-- Of a list without repetitions only one member gives anything. -/
theorem flatMap_ite_eq {α β : Type} [DecidableEq α] {items : List α} {chosen : α}
    (nodup : items.Nodup) (member : chosen ∈ items) (found : List β) :
    (items.flatMap fun item => if item = chosen then found else []) = found := by
  induction items with
  | nil => cases member
  | cons head tail induction =>
      rw [List.nodup_cons] at nodup
      rw [List.flatMap_cons]
      by_cases here : head = chosen
      · have others : (tail.flatMap fun item => if item = chosen then found else []) = [] := by
          rw [List.flatMap_eq_nil_iff]
          intro item later
          have other : item ≠ chosen := fun same => nodup.1 (here.trans same.symm ▸ later)
          rw [if_neg other]
        rw [if_pos here, others, List.append_nil]
      · rw [if_neg here, List.nil_append]
        exact induction nodup.2 (List.mem_of_ne_of_mem (Ne.symm here) member)

namespace Distributor

theorem ofBuckets_eq_ok (hash : Bytes → UInt64) (part : HashedPart) {buckets : Nat}
    (positive : 0 < buckets) (bounded : buckets ≤ maxBuckets) :
    ofBuckets hash part buckets = .ok ⟨hash, part, buckets, positive, bounded⟩ := by
  rw [ofBuckets, dif_pos positive, dif_pos bounded]

theorem toNat_bucket_lt (distributor : Distributor) (key : Bytes) :
    (distributor.bucket key).toNat < distributor.buckets := by
  have below := Nat.mod_lt (distributor.hash (distributor.part.select key)).toNat
    distributor.buckets_pos
  exact Nat.lt_of_le_of_lt (UInt8.toNat_ofNat' ▸ Nat.mod_le _ _) below

/-- Bucket numbers fit into their byte. -/
theorem toNat_ofNat_place (distributor : Distributor) {place : Nat}
    (inside : place < distributor.buckets) : (UInt8.ofNat place).toNat = place := by
  have bounded : distributor.buckets ≤ 256 := distributor.buckets_le
  rw [UInt8.toNat_ofNat', Nat.mod_eq_of_lt (by omega)]

theorem ofNat_eq_bucket_iff (distributor : Distributor) (key : Bytes) {place : Nat}
    (inside : place < distributor.buckets) :
    UInt8.ofNat place = distributor.bucket key ↔ place = (distributor.bucket key).toNat := by
  rw [← UInt8.toNat_inj, distributor.toNat_ofNat_place inside]

/-- The beginnings under all buckets together find a key once if it has the beginning that they
share, and not at all otherwise. -/
theorem flatMap_distributeAll {α : Type} (distributor : Distributor) (beginning key : Bytes)
    (found : List α) :
    ((distributor.distributeAll beginning).flatMap fun start =>
      if start.isPrefixOf (distributor.distribute key) then found else []) =
      if beginning.isPrefixOf key then found else [] := by
  rw [distributeAll, List.flatMap_map]
  have buckets : ((List.range distributor.buckets).flatMap fun place =>
      if (UInt8.ofNat place :: beginning).isPrefixOf (distributor.distribute key) then found
      else []) =
      (List.range distributor.buckets).flatMap fun place =>
        if place = (distributor.bucket key).toNat then
          if beginning.isPrefixOf key then found else []
        else [] := by
    rw [List.flatMap_def, List.flatMap_def]
    refine congrArg List.flatten (List.map_congr_left ?_)
    intro place member
    have same := distributor.ofNat_eq_bucket_iff key (List.mem_range.mp member)
    rw [distribute, List.isPrefixOf_cons_cons]
    by_cases here : place = (distributor.bucket key).toNat <;> simp [same, here]
  rw [buckets]
  exact flatMap_ite_eq List.nodup_range
    (List.mem_range.mpr (distributor.toNat_bucket_lt key)) _

end Distributor

end Telemetry.RowKey
