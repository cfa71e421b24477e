import Mathlib.Data.List.Nodup
import Telemetry.Proofs.RowKey.Identity
import Telemetry.Proofs.RowKey.Limits

namespace Telemetry.RowKey

open Wire Trace Text

/-! Scans under every bucket. A writer takes the bucket from a whole key, a reader has only the
beginning of it. Whatever is hashed, the buckets that a reader tries are those that a writer can
take, each of them once, so a scan comes across every key with the beginning in one place. -/

/-! ### What is hashed -/

namespace HashedPart

def Covers : HashedPart → Nat → Prop
  | .whole, _ => True
  | .range start stop, place => start ≤ place ∧ place < stop

/-- The keys have the same bytes, or none, at all places that are hashed. -/
def Agree (part : HashedPart) (key other : Bytes) : Prop :=
  ∀ place, part.Covers place → key[place]? = other[place]?

/-- A range that is reversed or lies behind the end of the key selects nothing. -/
theorem getElem?_select_range (start stop : Nat) (key : Bytes) (offset : Nat) :
    ((range start stop).select key)[offset]? =
      if start + offset < stop then key[start + offset]? else none := by
  rw [select, List.getElem?_drop, List.getElem?_take]
  by_cases before : start ≤ min stop key.length
  · rw [Nat.min_eq_left before]
    by_cases inside : start + offset < stop
    · by_cases short : start + offset < key.length
      · rw [if_pos (by omega), if_pos inside]
      · rw [if_neg (by omega), if_pos inside, List.getElem?_eq_none (by omega)]
    · rw [if_neg (by omega), if_neg inside]
  · rw [if_neg (by omega)]
    split
    · rw [List.getElem?_eq_none (by omega)]
    · rfl

theorem select_eq_iff (part : HashedPart) (key other : Bytes) :
    part.select key = part.select other ↔ part.Agree key other := by
  rw [List.ext_getElem?_iff]
  cases part with
  | whole => exact ⟨fun same place _ => same place, fun agree place => agree place trivial⟩
  | range start stop =>
      simp only [getElem?_select_range]
      constructor
      · intro same place covered
        have shown := same (place - start)
        rw [Nat.add_sub_cancel' covered.1, if_pos covered.2, if_pos covered.2] at shown
        exact shown
      · intro agree offset
        split
        next inside => exact agree (start + offset) ⟨Nat.le_add_right _ _, inside⟩
        next => rfl

end HashedPart

/-! ### Buckets -/

theorem countP_eq_length_flatMap {α : Type} (holds : α → Bool) (items : List α) :
    items.countP holds = (items.flatMap fun item => if holds item then [()] else []).length := by
  induction items with
  | nil => rfl
  | cons item items induction =>
      rw [List.countP_cons, List.flatMap_cons, List.length_append, ← induction, Nat.add_comm]
      split <;> rfl

namespace Distributor

variable (distributor : Distributor)

theorem bucket_eq_of_agree {key other : Bytes} (agree : distributor.part.Agree key other) :
    distributor.bucket key = distributor.bucket other := by
  rw [bucket, bucket, (distributor.part.select_eq_iff key other).mpr agree]

theorem length_distributeAll (key : Bytes) :
    (distributor.distributeAll key).length = distributor.buckets := by
  rw [distributeAll, List.length_map, List.length_range]

theorem mem_distributeAll {key start : Bytes} : start ∈ distributor.distributeAll key ↔
    ∃ place < distributor.buckets, UInt8.ofNat place :: key = start := by
  simp only [distributeAll, List.mem_map, List.mem_range]

theorem nodup_distributeAll (key : Bytes) : (distributor.distributeAll key).Nodup := by
  refine List.Nodup.map_on ?_ List.nodup_range
  intro place inside otherPlace otherInside same
  have bytes := congrArg UInt8.toNat (List.cons.inj same).1
  rw [distributor.toNat_ofNat_place (List.mem_range.mp inside),
    distributor.toNat_ofNat_place (List.mem_range.mp otherInside)] at bytes
  exact bytes

theorem distribute_mem_distributeAll (key : Bytes) :
    distributor.distribute key ∈ distributor.distributeAll key := by
  have inside := distributor.toNat_bucket_lt key
  refine distributor.mem_distributeAll.mpr ⟨(distributor.bucket key).toNat, inside, ?_⟩
  rw [(distributor.ofNat_eq_bucket_iff key inside).mpr rfl, distribute]

/-- Of the beginnings under all buckets a key has one if it has the beginning that they share, and
none otherwise. -/
theorem countP_distributeAll (beginning key : Bytes) :
    (distributor.distributeAll beginning).countP
        (fun start => start.isPrefixOf (distributor.distribute key)) =
      if beginning.isPrefixOf key then 1 else 0 := by
  have found := congrArg List.length (distributor.flatMap_distributeAll beginning key [()])
  rw [← countP_eq_length_flatMap] at found
  rw [found]
  split <;> rfl

/-- What a distributor does with a key: every bucket stands before it once, its own among them, and
can be taken off again. -/
structure Spreads (buckets : Nat) (key : Bytes) : Prop where
  restored : undistributed (distributor.distribute key) = key
  length : (distributor.distributeAll key).length = buckets
  nodup : (distributor.distributeAll key).Nodup
  strips : ∀ start ∈ distributor.distributeAll key, undistributed start = key
  once : (distributor.distributeAll key).count (distributor.distribute key) = 1

theorem spreads (key : Bytes) : distributor.Spreads distributor.buckets key where
  restored := undistributed_distribute distributor key
  length := distributor.length_distributeAll key
  nodup := distributor.nodup_distributeAll key
  strips := by
    intro start member
    rcases distributor.mem_distributeAll.mp member with ⟨place, -, rfl⟩
    rfl
  once := List.count_eq_one_of_mem (distributor.nodup_distributeAll key)
    (distributor.distribute_mem_distributeAll key)

end Distributor

/-! ### Scans over an application -/

namespace TraceIndexKeys

/-- A scan over an application comes across the key of a trace under one beginning if the trace
belongs to the application, and under none otherwise. -/
theorem countP_scanPrefixes (keys : TraceIndexKeys) {name : String} {span : Span}
    (nameFits : (utf8 name).length ≤ applicationNameWidth)
    (fits : (utf8 span.applicationName).length ≤ applicationNameWidth)
    (notNegative : 0 ≤ span.collectorAcceptTime.toInt) :
    ∃ starts key, keys.scanPrefixes name = .ok starts ∧ keys.encodeSpan span = .ok key ∧
      starts.countP (fun start => start.isPrefixOf key) =
        if putPadded applicationNameWidth name =
          putPadded applicationNameWidth span.applicationName then 1 else 0 := by
  rcases (exists_putPadded_iff applicationNameWidth name).mpr nameFits with ⟨field, nameWritten⟩
  rcases (keys.exists_encode_iff span.applicationName span.collectorAcceptTime span.elapsed).mpr
    ⟨fits, notNegative⟩ with ⟨key, encoded⟩
  refine ⟨_, key, map_eq_ok.mpr ⟨field, written_eq_ok.mpr nameWritten, rfl⟩, encoded, ?_⟩
  rcases encodeSpan_eq_ok.mp encoded with ⟨_, written, rfl⟩
  rcases undistributedKey_eq_ok.mp written with ⟨otherField, otherWritten, -, rfl⟩
  have width := (length_putPadded nameWritten).trans (length_putPadded otherWritten).symm
  rw [keys.distributor.countP_distributeAll, nameWritten, otherWritten, List.append_assoc]
  simp only [List.isPrefixOf_iff_prefix, prefix_append_iff width, Except.ok.injEq,
    @eq_comm _ otherField]

end TraceIndexKeys

/-- Scans under every bucket cover every key once, whatever the hash is and whatever part of the
keys is hashed: a key comes back from behind its bucket, which is one of the buckets that are tried
and depends on the hashed bytes alone. So the key of a trace has one of the beginnings that are
scanned for an application if the two names fill their field alike, and none otherwise. -/
theorem bucketScans_cover_once (hash : Bytes → UInt64) (part : HashedPart) {buckets : Nat}
    (positive : 0 < buckets) (bounded : buckets ≤ maxBuckets) :
    ∃ distributor, Distributor.ofBuckets hash part buckets = .ok distributor ∧
      (∀ key, distributor.Spreads buckets key) ∧
      (∀ key other, part.select key = part.select other ↔ part.Agree key other) ∧
      (∀ key other, part.Agree key other →
        distributor.bucket key = distributor.bucket other) ∧
      ∀ (name : String) (span : Span), (utf8 name).length ≤ applicationNameWidth →
        (utf8 span.applicationName).length ≤ applicationNameWidth →
        0 ≤ span.collectorAcceptTime.toInt →
        ∃ starts key, (TraceIndexKeys.mk distributor).scanPrefixes name = .ok starts ∧
          (TraceIndexKeys.mk distributor).encodeSpan span = .ok key ∧
          starts.countP (fun start => start.isPrefixOf key) =
            if putPadded applicationNameWidth name =
              putPadded applicationNameWidth span.applicationName then 1 else 0 := by
  let distributor : Distributor := ⟨hash, part, buckets, positive, bounded⟩
  refine ⟨distributor, Distributor.ofBuckets_eq_ok hash part positive bounded,
    distributor.spreads, part.select_eq_iff, fun _ _ => distributor.bucket_eq_of_agree, ?_⟩
  intro name span nameFits fits notNegative
  exact TraceIndexKeys.countP_scanPrefixes ⟨distributor⟩ nameFits fits notNegative

/-- A trace of an application whose name ends in a NUL. -/
def nulAtEnd : Span where
  transactionId := ⟨"agent", 0, 0⟩
  agentId := "agent"
  applicationName := "a\u0000"
  agentStartTime := 0
  spanId := 1
  parentSpanId := 0
  startTime := 0
  elapsed := 250
  rpc := none
  serviceType := 0
  endPoint := none
  remoteAddr := none
  apiId := 0
  errCode := none
  exceptionInfo := none
  flag := 0
  acceptorHost := none
  loggingTransactionInfo := 0
  collectorAcceptTime := 1000
  parentApplicationName := none
  parentApplicationServiceType := none
  annotations := []
  spanEvents := []

/-- It is found under the name without the NUL, also if a reversed range is hashed. -/
theorem bucketScans_cover_once_nulAtEnd : ∃ distributor starts key,
    Distributor.ofBuckets fnv1a (.range 7 3) 256 = .ok distributor ∧
    (TraceIndexKeys.mk distributor).scanPrefixes "a" = .ok starts ∧
    (TraceIndexKeys.mk distributor).encodeSpan nulAtEnd = .ok key ∧
    starts.countP (fun start => start.isPrefixOf key) = 1 := by
  rcases @bucketScans_cover_once fnv1a (.range 7 3) 256 (by decide) (by decide) with
    ⟨distributor, made, -, -, -, scanned⟩
  rcases scanned "a" nulAtEnd (by decide) (by decide) (by decide) with
    ⟨starts, key, scan, encoded, once⟩
  have same : putPadded applicationNameWidth "a" =
      putPadded applicationNameWidth nulAtEnd.applicationName := by decide +kernel
  rw [if_pos same] at once
  exact ⟨distributor, starts, key, made, scan, encoded, once⟩

end Telemetry.RowKey
