import Telemetry.Collector.Query
import Telemetry.Proofs.Collector.Merging
import Telemetry.Proofs.Collector.TraceIndex
import Telemetry.Proofs.Message.SpanEnvelope

namespace Telemetry.Collector

open Wire Trace Message RowKey Delivery

/-! Queries for recent traces. The rows that a query finds under all buckets hold, key by key, the
spans that were stored under that key, and a stable merge by the keys brings these into the order
of a list of all spans that is sorted by accept time and slot. -/

/-- The field that the name of an application fills in a key. -/
def nameField (name : String) : Bytes :=
  Text.utf8 name ++ List.replicate (applicationNameWidth - (Text.utf8 name).length) 0

/-- Whether a query asks for a span. -/
def asksFor (name : String) (range : ElapsedRange) (span : Span) : Bool :=
  nameField span.applicationName = nameField name &&
    min range.oneEnd.toInt range.otherEnd.toInt ≤ span.elapsed.toInt &&
    span.elapsed.toInt ≤ max range.oneEnd.toInt range.otherEnd.toInt

def TraceHit.ofSpan (span : Span) : TraceHit :=
  ⟨span.transactionId, span.collectorAcceptTime, span.elapsed⟩

/-- The order of answers, for spans with their places in the order of arrival: the newest first,
then lower slots, then earlier arrivals. -/
def Precedes (first later : Span × Nat) : Prop :=
  later.1.collectorAcceptTime < first.1.collectorAcceptTime ∨
    first.1.collectorAcceptTime = later.1.collectorAcceptTime ∧
      (elapsedSlot first.1.elapsed.toInt < elapsedSlot later.1.elapsed.toInt ∨
        elapsedSlot first.1.elapsed.toInt = elapsedSlot later.1.elapsed.toInt ∧
          first.2 < later.2)

theorem putPadded_nameField {name : String}
    (fits : (Text.utf8 name).length ≤ applicationNameWidth) :
    putPadded applicationNameWidth name = .ok (nameField name) :=
  putPadded_eq_ok.mpr ⟨fits, rfl⟩

/-- What the key of a span is made of. -/
theorem indexKey?_parts {span : Span} {key : Bytes} (keyed : indexKey? span = some key) :
    0 ≤ span.collectorAcceptTime.toInt ∧
      (nameField span.applicationName).length = applicationNameWidth ∧
      key = nameField span.applicationName ++
        putInt64 (maxTimestamp - span.collectorAcceptTime) ++ [elapsedSlot span.elapsed.toInt] := by
  rcases TraceIndexKeys.undistributedKey_eq_ok.mp (indexKey?_eq_some.mp keyed) with
    ⟨application, written, notNegative, rfl⟩
  have width := length_putPadded written
  rcases putPadded_eq_ok.mp written with ⟨-, rfl⟩
  exact ⟨notNegative, width, rfl⟩

/-- A key begins with one name only. -/
theorem isPrefixOf_indexKey {span : Span} {key : Bytes} {name : String}
    (fits : (nameField name).length = applicationNameWidth) (keyed : indexKey? span = some key) :
    (nameField name).isPrefixOf key =
      decide (nameField span.applicationName = nameField name) := by
  rcases indexKey?_parts keyed with ⟨-, width, rfl⟩
  rw [Bool.eq_iff_iff, decide_eq_true_iff, List.isPrefixOf_iff_prefix, List.append_assoc,
    prefix_append_iff (fits.trans width.symm)]

/-! ### Rows -/

namespace ElapsedRange

variable {range : ElapsedRange} {elapsed : Int32}

theorem contains_iff : range.contains elapsed ↔
    min range.oneEnd.toInt range.otherEnd.toInt ≤ elapsed.toInt ∧
      elapsed.toInt ≤ max range.oneEnd.toInt range.otherEnd.toInt := by
  simp [contains]

/-- No slot is left out in which a trace of the range may be. -/
theorem meets_of_contains (contained : range.contains elapsed) :
    range.meets (elapsedSlot elapsed.toInt) := by
  rw [contains_iff] at contained
  rw [meets, elapsedSlots, Bool.and_eq_true_iff, decide_eq_true_iff, decide_eq_true_iff]
  exact ⟨elapsedSlot_mono contained.1, elapsedSlot_mono contained.2⟩

end ElapsedRange

/-- Spans with one key agree in what the key tells. -/
theorem indexKey?_inj {first second : Span} {key : Bytes}
    (firstKeyed : indexKey? first = some key) (secondKeyed : indexKey? second = some key) :
    first.collectorAcceptTime = second.collectorAcceptTime ∧
      elapsedSlot first.elapsed.toInt = elapsedSlot second.elapsed.toInt := by
  have distributor : Distributor := ⟨fnv1a, .whole, 1, by decide, by decide⟩
  have decoded :=
    TraceIndexKeys.decode_distribute distributor (indexKey?_eq_some.mp secondKeyed)
  rw [TraceIndexKeys.decode_distribute distributor (indexKey?_eq_some.mp firstKeyed),
    Except.ok.injEq, TraceIndexRow.mk.injEq] at decoded
  exact decoded.2

/-- The hits that a query finds among the spans with one key. -/
def hitsUnder (spans : List Span) (range : ElapsedRange) (key : Bytes) :
    List (Bytes × TraceHit) :=
  (spans.filter fun span => indexKey? span = some key && range.contains span.elapsed).map
    fun span => (key, TraceHit.ofSpan span)

section Rows

variable {keys : TraceIndexKeys} {table : Table (List TraceIndexEntry)} {spans : List Span}
  {range : ElapsedRange} {key : Bytes}

theorem filter_hitsUnder (spans : List Span) (range : ElapsedRange) (key value : Bytes) :
    (hitsUnder spans range key).filter (fun hit => hit.1 = value) =
      if key = value then hitsUnder spans range value else [] := by
  by_cases same : key = value
  · simp [hitsUnder, same, List.filter_map, Function.comp_def]
  · simp [hitsUnder, same, List.filter_map, Function.comp_def]

/-- A row that is read back gives the hits under its key. -/
theorem rowHits_eq_ok (indexes : Indexes keys table spans)
    {row : Bytes × List TraceIndexEntry} (member : row ∈ table.rows) :
    rowHits range row.1 row.2 = .ok (hitsUnder spans range (undistributed row.1)) := by
  rcases indexes.rows row.1 (List.mem_map_of_mem member) with ⟨first, -, key, keyed, place⟩
  have entries : row.2 = (spans.filter fun span => indexKey? span = some key).map indexEntry := by
    rw [← indexes.cells, ← place, Table.cells, Table.get?_of_mem member, Option.getD_some]
  have decoded :=
    TraceIndexKeys.decode_distribute keys.distributor (indexKey?_eq_some.mp keyed)
  have alike {span : Span} (listed : indexKey? span = some key) := indexKey?_inj listed keyed
  have stamped : hitsUnder spans range key =
      (spans.filter fun span => indexKey? span = some key && range.contains span.elapsed).map
        fun span => (key, ⟨span.transactionId, first.collectorAcceptTime, span.elapsed⟩) := by
    apply List.map_congr_left
    intro span found
    have listed := (List.mem_filter.mp found).2
    rw [Bool.and_eq_true_iff, decide_eq_true_iff] at listed
    rw [TraceHit.ofSpan, (alike listed.1).1]
  rw [rowHits, place, decoded, entries, undistributed_distribute]
  refine bind_eq_ok.mpr ⟨_, rfl, ?_⟩
  dsimp only
  split
  next meets =>
    rw [stamped, List.filter_map, List.map_map, List.filter_filter]
    simp only [Function.comp_def, indexEntry, Bool.and_comm]
    rfl
  next apart =>
    have none : (spans.filter fun span =>
        indexKey? span = some key && range.contains span.elapsed) = [] := by
      rw [List.filter_eq_nil_iff]
      intro span _ found
      rw [Bool.and_eq_true_iff, decide_eq_true_iff] at found
      exact apart ((alike found.1).2 ▸ ElapsedRange.meets_of_contains found.2)
    rw [hitsUnder, none]
    rfl

end Rows

/-! ### Scans -/

section Scans

variable {keys : TraceIndexKeys} {table : Table (List TraceIndexEntry)} {spans : List Span}
  {range : ElapsedRange} {name : String}

/-- Without a row there is no span with the key. -/
theorem hitsUnder_of_absent (indexes : Indexes keys table spans) {key : Bytes}
    (absent : table.get? (keys.distributor.distribute key) = none) :
    hitsUnder spans range key = [] := by
  have cells := indexes.cells key
  rw [Table.cells, absent, Option.getD_none, eq_comm, List.map_eq_nil_iff,
    List.filter_eq_nil_iff] at cells
  rw [hitsUnder, List.map_eq_nil_iff, List.filter_eq_nil_iff]
  intro span member found
  rw [Bool.and_eq_true_iff] at found
  exact cells span member found.1

theorem flatMap_ite {α β : Type} (items : List α) (condition : α → Bool) (found : List β) :
    (items.flatMap fun item => if condition item then found else []) =
      (items.filter condition).flatMap fun _ => found := by
  induction items with
  | nil => rfl
  | cons item items induction =>
      rw [List.flatMap_cons, induction, List.filter_cons]
      split <;> simp

/-- What the scan of one bucket finds under a key: all of its hits where the key has the beginning
that is scanned for. -/
theorem filter_scan (indexes : Indexes keys table spans) (start value : Bytes) :
    ((table.scan start).flatMap fun row => hitsUnder spans range (undistributed row.1)).filter
        (fun hit => hit.1 = value) =
      if start.isPrefixOf (keys.distributor.distribute value) then hitsUnder spans range value
      else [] := by
  let place := keys.distributor.distribute value
  have here : ((table.scan start).filter fun row => undistributed row.1 = value) =
      ((table.get? place).toList.map fun entries => (place, entries)).filter fun row =>
        start.isPrefixOf row.1 := by
    rw [← table.filter_key_eq, table.scan_eq_filter, List.filter_filter, List.filter_filter]
    apply List.filter_congr
    intro row member
    rcases indexes.rows row.1 (List.mem_map_of_mem member) with ⟨span, -, key, -, written⟩
    rw [written, Bool.and_comm, undistributed_distribute]
    refine congrArg _ (decide_eq_decide.mpr ⟨fun same => same ▸ rfl, fun same => ?_⟩)
    exact congrArg undistributed same
  simp only [List.filter_flatMap, filter_hitsUnder]
  have gathered := flatMap_ite (table.scan start) (fun row => undistributed row.1 = value)
    (hitsUnder spans range value)
  simp only [decide_eq_true_eq] at gathered
  rw [gathered, here]
  cases held : table.get? place with
  | none => simp [hitsUnder_of_absent indexes held]
  | some entries => by_cases begins : start.isPrefixOf place <;> simp [begins, place]

/-- What the scans of all buckets find, in the order of the buckets. -/
def scannedHits (keys : TraceIndexKeys) (table : Table (List TraceIndexEntry)) (spans : List Span)
    (range : ElapsedRange) (beginning : Bytes) : List (Bytes × TraceHit) :=
  ((keys.distributor.distributeAll beginning).flatMap table.scan).flatMap fun row =>
    hitsUnder spans range (undistributed row.1)

/-- All buckets together have the hits under every key with the beginning once. -/
theorem filter_scannedHits (indexes : Indexes keys table spans) (range : ElapsedRange)
    (beginning value : Bytes) :
    (scannedHits keys table spans range beginning).filter (fun hit => hit.1 = value) =
      if beginning.isPrefixOf value then hitsUnder spans range value else [] := by
  rw [scannedHits, List.flatMap_assoc, List.filter_flatMap]
  simp only [filter_scan indexes]
  exact keys.distributor.flatMap_distributeAll beginning value _

end Scans

/-! ### Answers -/

/-- A span as a hit, with its key. -/
def keyedHit (span : Span) : Bytes × TraceHit := ((indexKey? span).getD [], TraceHit.ofSpan span)

section Answers

variable {keys : TraceIndexKeys} {table : Table (List TraceIndexEntry)} {spans : List Span}
  {range : ElapsedRange} {name : String}

theorem filter_asked (indexes : Indexes keys table spans)
    (fits : (nameField name).length = applicationNameWidth) (value : Bytes) :
    ((spans.filter (asksFor name range)).map keyedHit).filter (fun hit => hit.1 = value) =
      if (nameField name).isPrefixOf value then hitsUnder spans range value else [] := by
  have listed : ∀ span ∈ spans,
      ((decide ((keyedHit span).1 = value)) && asksFor name range span) =
        ((nameField name).isPrefixOf value &&
          (indexKey? span = some value && range.contains span.elapsed)) := by
    intro span member
    rcases indexes.keyed span member with ⟨key, keyed⟩
    by_cases same : key = value
    · rw [← same, isPrefixOf_indexKey fits keyed]
      simp [keyedHit, keyed, asksFor, ElapsedRange.contains, Bool.and_assoc]
    · simp [keyedHit, keyed, same]
  rw [List.filter_map, List.filter_filter, Function.comp_def, List.filter_congr listed]
  split
  next begins =>
    simp only [begins, Bool.true_and]
    apply List.map_congr_left
    intro span found
    have same := (List.mem_filter.mp found).2
    rw [Bool.and_eq_true_iff, decide_eq_true_iff] at same
    rw [keyedHit, same.1, Option.getD_some]
  next other => simp [other]

/-- Keys of one application are in the order of answers, without the order of arrival. -/
theorem keyedHit_le_iff {first later : Span} (firstKeyed : ∃ key, indexKey? first = some key)
    (laterKeyed : ∃ key, indexKey? later = some key)
    (same : nameField first.applicationName = nameField later.applicationName) :
    (keyedHit first).1 ≤ (keyedHit later).1 ↔
      later.collectorAcceptTime.toInt < first.collectorAcceptTime.toInt ∨
        first.collectorAcceptTime = later.collectorAcceptTime ∧
          elapsedSlot first.elapsed.toInt ≤ elapsedSlot later.elapsed.toInt := by
  rcases firstKeyed with ⟨firstKey, firstKeyed⟩
  rcases laterKeyed with ⟨laterKey, laterKeyed⟩
  rcases indexKey?_parts firstKeyed with ⟨firstTime, -, firstParts⟩
  rcases indexKey?_parts laterKeyed with ⟨laterTime, -, laterParts⟩
  rw [keyedHit, keyedHit, firstKeyed, laterKeyed, Option.getD_some, Option.getD_some, firstParts,
    laterParts, same]
  exact TraceIndexKeys.le_iff_of_application firstTime laterTime

/-- The order of keys, and of places among equal keys, is the order of answers. -/
theorem precedes_of_zipIdxLE {first later : Span × Nat}
    (firstKeyed : ∃ key, indexKey? first.1 = some key)
    (laterKeyed : ∃ key, indexKey? later.1 = some key)
    (same : nameField first.1.applicationName = nameField later.1.applicationName)
    (different : first.2 ≠ later.2)
    (le : List.zipIdxLE (fun first later => (keyedHit first).1 ≤ (keyedHit later).1) first later) :
    Precedes first later := by
  have forward := keyedHit_le_iff firstKeyed laterKeyed same
  have backward := keyedHit_le_iff laterKeyed firstKeyed same.symm
  simp only [List.zipIdxLE, decide_eq_true_eq, forward, backward, ← Int64.toInt_inj,
    UInt8.le_iff_toNat_le] at le
  simp only [Precedes, Int64.lt_iff_toInt_lt, ← Int64.toInt_inj, ← UInt8.toNat_inj,
    UInt8.lt_iff_toNat_lt]
  split at le
  next =>
    split at le
    next => have places := of_decide_eq_true le; omega
    next => omega
  next => cases le

/-- A stable sort by the keys of the spans that are asked for puts them into the order of
answers. -/
theorem pairwise_precedes (indexes : Indexes keys table spans) (name : String)
    (range : ElapsedRange) :
    ((spans.filter (asksFor name range)).zipIdx.mergeSort
      (List.zipIdxLE fun first later => (keyedHit first).1 ≤ (keyedHit later).1)).Pairwise
        Precedes := by
  let asked := spans.filter (asksFor name range)
  let le (first later : Span) : Bool := (keyedHit first).1 ≤ (keyedHit later).1
  have total (first later : Span) : le first later || le later first := by
    simpa [le] using Std.le_total
  have trans (first second third : Span) (start : le first second) (next : le second third) :
      le first third := by
    simp only [le, decide_eq_true_eq] at start next ⊢
    exact Std.le_trans start next
  have perm : (asked.zipIdx.mergeSort (List.zipIdxLE le)).Perm asked.zipIdx :=
    List.mergeSort_perm _ _
  have sorted := List.pairwise_mergeSort (List.zipIdxLE_trans trans) (List.zipIdxLE_total total)
    asked.zipIdx
  have places : ((asked.zipIdx.mergeSort (List.zipIdxLE le)).map Prod.snd).Nodup := by
    rw [(perm.map Prod.snd).nodup_iff, List.zipIdx_map_snd]
    exact List.nodup_range'
  have belongs {listed : Span × Nat} (member : listed ∈ asked.zipIdx.mergeSort (List.zipIdxLE le)) :
      (∃ key, indexKey? listed.1 = some key) ∧
        nameField listed.1.applicationName = nameField name := by
    have found := List.mem_filter.mp (List.fst_mem_of_mem_zipIdx (perm.mem_iff.mp member))
    simp only [asksFor, Bool.and_eq_true, decide_eq_true_eq] at found
    exact ⟨indexes.keyed _ found.1, found.2.1.1⟩
  refine (sorted.and (List.pairwise_map.mp places)).imp_of_mem ?_
  intro first later firstMember laterMember related
  exact precedes_of_zipIdxLE (belongs firstMember).1 (belongs laterMember).1
    ((belongs firstMember).2.trans (belongs laterMember).2.symm) related.2 related.1

end Answers

namespace Service

variable {service : Service} {spans : List Span} {name : String}

/-- An answer is cut from the sorted hits of all buckets. -/
theorem recentTraces_scanned (inService : service.outages = [])
    (indexes : Indexes service.receiver.traceIndexKeys service.store.traceIndex spans)
    (fits : (Text.utf8 name).length ≤ applicationNameWidth) (range : ElapsedRange) (limit : Nat) :
    service.recentTraces name range limit =
      .ok ((((scannedHits service.receiver.traceIndexKeys service.store.traceIndex spans range
        (nameField name)).mergeSort fun left right => left.1 ≤ right.1).take limit).map
          Prod.snd) := by
  let beginnings := service.receiver.traceIndexKeys.distributor.distributeAll (nameField name)
  have written : service.receiver.traceIndexKeys.scanPrefixes name = .ok beginnings :=
    map_eq_ok.mpr ⟨_, written_eq_ok.mpr (putPadded_nameField fits), rfl⟩
  have scanned : service.scanIndex beginnings =
      .ok (beginnings.flatMap service.store.traceIndex.scan) := by
    rw [scanIndex, inService, if_neg List.not_mem_nil]
  have hits : ((beginnings.flatMap service.store.traceIndex.scan).mapM fun row =>
      rowHits range row.1 row.2) =
      .ok ((beginnings.flatMap service.store.traceIndex.scan).map fun row =>
        hitsUnder spans range (undistributed row.1)) := by
    apply mapM_eq_ok
    intro row member
    rcases List.mem_flatMap.mp member with ⟨beginning, -, found⟩
    rw [Table.scan_eq_filter] at found
    exact rowHits_eq_ok indexes (List.mem_filter.mp found).1
  exact bind_eq_ok.mpr ⟨_, keyed_eq_ok.mpr written, bind_eq_ok.mpr ⟨_, scanned,
    bind_eq_ok.mpr ⟨_, keyed_eq_ok.mpr hits, rfl⟩⟩⟩

/-- An answer is made of the first spans in order. -/
theorem recentTraces_of_indexes (inService : service.outages = [])
    (indexes : Indexes service.receiver.traceIndexKeys service.store.traceIndex spans)
    (fits : (Text.utf8 name).length ≤ applicationNameWidth) (range : ElapsedRange) (limit : Nat) :
    ∃ ordered : List (Span × Nat),
      ordered.Perm (spans.filter (asksFor name range)).zipIdx ∧ ordered.Pairwise Precedes ∧
      service.recentTraces name range limit =
        .ok ((ordered.take limit).map fun listed => TraceHit.ofSpan listed.1) := by
  let asked := spans.filter (asksFor name range)
  let le (first later : Span) : Bool := (keyedHit first).1 ≤ (keyedHit later).1
  refine ⟨asked.zipIdx.mergeSort (List.zipIdxLE le), List.mergeSort_perm _ _, ?_, ?_⟩
  · exact pairwise_precedes indexes name range
  · have merged := mergeSort_eq_of_filter_eq Prod.fst fun value =>
      (filter_scannedHits indexes range (nameField name) value).trans
        (filter_asked indexes (length_putPadded (putPadded_nameField fits)) value).symm
    have sorted : (asked.map keyedHit).mergeSort (fun left right => left.1 ≤ right.1) =
        (asked.zipIdx.mergeSort (List.zipIdxLE le)).map fun listed => keyedHit listed.1 := by
      have places : (asked.zipIdx.mergeSort (List.zipIdxLE le)).map Prod.fst =
          asked.mergeSort le := List.mergeSort_zipIdx
      have mapped := List.map_mergeSort (r := le)
        (s := fun left right : Bytes × TraceHit => left.1 ≤ right.1) (f := keyedHit) (l := asked)
        fun _ _ _ _ => rfl
      rw [← mapped, ← places, List.map_map]
      rfl
    rw [recentTraces_scanned inService indexes fits, merged, sorted, ← List.map_take,
      List.map_map]
    rfl

/-- A query for recent traces is answered with the first traces of those that it asks for, in the
order of their times and slots. -/
theorem recentTraces_eq_ok {config : Config}
    (traceBuckets : 0 < config.traceBuckets ∧ config.traceBuckets ≤ maxBuckets)
    (indexBuckets : 0 < config.indexBuckets ∧ config.indexBuckets ≤ maxBuckets)
    (statBuckets : 0 < config.statBuckets ∧ config.statBuckets ≤ maxBuckets) :
    ∃ service, ofConfig config [] = .ok service ∧
      ∀ arrivals name range limit, (Text.utf8 name).length ≤ applicationNameWidth →
        ∃ ordered : List (Span × Nat),
          ordered.Perm ((handledRoots arrivals service).filter (asksFor name range)).zipIdx ∧
          ordered.Pairwise Precedes ∧
          (service.takeInAll arrivals).recentTraces name range limit =
            .ok ((ordered.take limit).map fun listed => TraceHit.ofSpan listed.1) := by
  rcases Receiver.exists_ofConfig config traceBuckets indexBuckets statBuckets with ⟨receiver, made⟩
  let service : Service := ⟨receiver, .empty, .zero, []⟩
  refine ⟨service, bind_eq_ok.mpr ⟨receiver, made, rfl⟩, ?_⟩
  intro arrivals name range limit fits
  have listed : Indexes service.receiver.traceIndexKeys service.store.traceIndex [] :=
    indexes_empty receiver.traceIndexKeys
  rcases takeInAll_indexes rfl listed arrivals with ⟨kept, inService, indexes⟩
  rw [← kept] at indexes
  exact recentTraces_of_indexes inService indexes fits range limit

set_option maxRecDepth 4000 in
theorem recentTraces_eq_ok_nestedCalls :
    ∃ service, ofConfig {} [] = .ok service ∧
      (service.takeInAll [.streamed 1000 ⟨.span, SpanEnvelope.nestedCallsPayload⟩]).recentTraces
        "a" ⟨0, -1⟩ 1 = .ok [⟨⟨"", -1, 0⟩, 1000, -1⟩] := by
  rcases @recentTraces_eq_ok {} (by decide) (by decide) (by decide) with
    ⟨service, made, answers⟩
  rcases answers [.streamed 1000 ⟨.span, SpanEnvelope.nestedCallsPayload⟩] "a" ⟨0, -1⟩ 1
    (by decide) with ⟨ordered, perm, -, answer⟩
  have asked : ((handledRoots [.streamed 1000 ⟨.span, SpanEnvelope.nestedCallsPayload⟩]
      service).filter (asksFor "a" ⟨0, -1⟩)).map TraceHit.ofSpan =
        [⟨⟨"", -1, 0⟩, 1000, -1⟩] := by
    cases made
    cbv
  have hits := perm.map fun listed => TraceHit.ofSpan listed.1
  rw [← Function.comp_def TraceHit.ofSpan, ← List.map_map, ← List.map_map, List.zipIdx_map_fst,
    asked, List.perm_singleton] at hits
  refine ⟨service, made, ?_⟩
  rw [answer, List.map_take, ← Function.comp_def TraceHit.ofSpan, ← List.map_map, hits]
  rfl

end Service

end Telemetry.Collector
