import Telemetry.Collector.Service
import Telemetry.Proofs.RowKey.TraceIndexKey

namespace Telemetry.Collector

open Wire Trace Stat Message RowKey Delivery

/-! What the collector decides to write for a frame, and what the writes do to the store. -/

theorem decoded_eq_ok {α : Type} {result : Except DecodeError α} {value : α} :
    decoded result = .ok value ↔ result = .ok value := by
  cases result <;> simp [decoded]

theorem keyed_eq_ok {α : Type} {result : Except RowKeyError α} {value : α} :
    keyed result = .ok value ↔ result = .ok value := by
  cases result <;> simp [keyed]

namespace Store

def applyAll (writes : List Write) (store : Store) : Store :=
  writes.foldl (fun store write => store.apply write) store

theorem applyAll_append (writes more : List Write) (store : Store) :
    store.applyAll (writes ++ more) = (store.applyAll writes).applyAll more := List.foldl_append

/-- The writes that are done before the first one falls to a part that is out of service. -/
def reached (outages : List StoreCall) (writes : List Write) : List Write :=
  writes.takeWhile fun write => write.call ∉ outages

theorem perform_nil (writes : List Write) (store : Store) :
    perform [] writes store = (.ok (), store.applyAll writes) := by
  induction writes generalizing store with
  | nil => rfl
  | cons write writes induction => simp [perform, induction, applyAll]

theorem snd_perform (outages : List StoreCall) (writes : List Write) (store : Store) :
    (perform outages writes store).2 = store.applyAll (reached outages writes) := by
  induction writes generalizing store with
  | nil => rfl
  | cons write writes induction =>
      rw [perform]
      split
      next out => simp [reached, out, applyAll]
      next inService =>
        rw [induction, reached, reached, List.takeWhile_cons_of_pos (by simpa using inService)]
        rfl

/-- Writes succeed together if all of them are done. -/
theorem isOk_fst_perform (outages : List StoreCall) (writes : List Write) (store : Store) :
    (perform outages writes store).1.isOk = true ↔ reached outages writes = writes := by
  induction writes generalizing store with
  | nil => exact ⟨fun _ => rfl, fun _ => rfl⟩
  | cons write writes induction =>
      rw [perform]
      split
      next out => simp [reached, out, Except.isOk, Except.toBool]
      next inService =>
        rw [induction, reached, reached, List.takeWhile_cons_of_pos (by simpa using inService)]
        simp

end Store

namespace Receiver

variable {receiver : Receiver} {now : Int64} {payload : Bytes} {record : Record} {span : Span}
  {frame : Frame} {writes : List Write}

theorem exists_ofConfig (config : Config)
    (traceBuckets : 0 < config.traceBuckets ∧ config.traceBuckets ≤ maxBuckets)
    (indexBuckets : 0 < config.indexBuckets ∧ config.indexBuckets ≤ maxBuckets)
    (statBuckets : 0 < config.statBuckets ∧ config.statBuckets ≤ maxBuckets) :
    ∃ receiver, ofConfig config = .ok receiver := by
  rw [ofConfig, TransactionKeys.ofBuckets, TraceIndexKeys.ofBuckets, StatKeys.ofBuckets,
    Distributor.ofBuckets_eq_ok _ _ traceBuckets.1 traceBuckets.2,
    Distributor.ofBuckets_eq_ok _ _ indexBuckets.1 indexBuckets.2,
    Distributor.ofBuckets_eq_ok _ _ statBuckets.1 statBuckets.2]
  exact ⟨_, rfl⟩

theorem indexWrites_of_root (root : span.isRoot = true) :
    receiver.indexWrites (.span span) = .ok writes ↔
      ∃ key, receiver.traceIndexKeys.encodeSpan span = .ok key ∧
        writes = [.traceIndex key ⟨span.transactionId, span.elapsed⟩] := by
  rw [indexWrites, if_pos root, bind_eq_ok]
  simp [pure, Except.pure, eq_comm]

theorem indexWrites_of_not_root (other : ∀ span, record = .span span → span.isRoot = false) :
    receiver.indexWrites record = .ok [] := by
  cases record with
  | span span => rw [indexWrites, other span rfl, if_neg Bool.false_ne_true]
  | chunk chunk => rfl

theorem recordWrites_eq_ok : receiver.recordWrites record = .ok writes ↔
    ∃ index key, receiver.indexWrites record = .ok index ∧
      receiver.transactionKeys.encode record.transactionId = .ok key ∧
      writes = .trace key record :: index := by
  simp only [recordWrites, bind_eq_ok, pure, Except.pure, Except.ok.injEq]
  grind

theorem spanWrites_eq_ok : receiver.spanWrites now payload = .ok writes ↔
    ∃ envelope record, SpanEnvelope.decode payload = .ok envelope ∧
      envelope.decodeRecord = .ok record ∧
      receiver.recordWrites (record.acceptedAt now) = .ok writes := by
  simp only [spanWrites, bind_eq_ok, decoded_eq_ok, keyed_eq_ok]
  grind

theorem statWrites_eq_ok : receiver.statWrites payload = .ok writes ↔
    ∃ envelope context batch key, StatEnvelope.decode payload = .ok envelope ∧
      envelope.decodeBatch receiver.statTimespan = .ok (context, batch) ∧
      receiver.statKeys.encode (.ofContext envelope.kind context) = .ok key ∧
      writes = [.agentStat key batch] := by
  simp only [statWrites, bind_eq_ok, decoded_eq_ok, keyed_eq_ok, pure, Except.pure,
    Except.ok.injEq, Prod.exists]
  grind

theorem streamWrites_of_record (streamed : frame.kind = .span ∨ frame.kind = .spanChunk) :
    receiver.streamWrites now frame = receiver.spanWrites now frame.payload := by
  rcases streamed with kind | kind <;> rw [streamWrites, kind]

/-- What is no record and can be streamed all the same is a batch. -/
theorem streamWrites_of_other (other : ¬ (frame.kind = .span ∨ frame.kind = .spanChunk))
    (allowed : receiver.streamWrites now frame = .ok writes) :
    ∃ key batch, writes = [.agentStat key batch] := by
  rw [streamWrites] at allowed
  split at allowed
  next kind => exact absurd (.inl kind) other
  next kind => exact absurd (.inr kind) other
  next =>
    rcases statWrites_eq_ok.mp allowed with ⟨-, -, batch, key, -, -, -, written⟩
    exact ⟨key, batch, written⟩
  next => cases allowed

/-- A streamed frame asks for one write, or for the cell and the index entry of a root span. -/
theorem streamWrites_eq_ok (allowed : receiver.streamWrites now frame = .ok writes) :
    (∃ write, writes = [write] ∧ write.call ≠ .metadata) ∨
      ∃ key indexKey span, span.isRoot = true ∧ writes = [.trace key (.span span),
        .traceIndex indexKey ⟨span.transactionId, span.elapsed⟩] := by
  by_cases streamed : frame.kind = .span ∨ frame.kind = .spanChunk
  · rw [streamWrites_of_record streamed] at allowed
    rcases spanWrites_eq_ok.mp allowed with ⟨envelope, record, -, -, written⟩
    rcases recordWrites_eq_ok.mp written with ⟨index, key, indexed, -, rfl⟩
    by_cases root : ∃ span, record.acceptedAt now = .span span ∧ span.isRoot = true
    · rcases root with ⟨span, stamped, isRoot⟩
      rw [stamped] at indexed ⊢
      rcases (indexWrites_of_root isRoot).mp indexed with ⟨indexKey, -, rfl⟩
      exact .inr ⟨key, indexKey, span, isRoot, rfl⟩
    · have unlisted : receiver.indexWrites (record.acceptedAt now) = .ok [] := by
        apply indexWrites_of_not_root
        intro span stamped
        apply Bool.eq_false_iff.mpr
        exact fun isRoot => root ⟨span, stamped, isRoot⟩
      rw [unlisted, Except.ok.injEq] at indexed
      subst indexed
      exact .inl ⟨_, rfl, nofun⟩
  · rcases streamWrites_of_other streamed allowed with ⟨key, batch, rfl⟩
    exact .inl ⟨_, rfl, nofun⟩

/-- A request asks for one write of metadata. -/
theorem requestWrites_eq_ok (allowed : receiver.requestWrites frame = .ok writes) :
    ∃ write, writes = [write] ∧ write.call = .metadata := by
  rw [requestWrites] at allowed
  split at allowed
  case h_1 | h_2 | h_3 =>
    rcases bind_eq_ok.mp allowed with ⟨metadata, -, written⟩
    exact ⟨_, (Except.ok.inj written).symm, rfl⟩
  next =>
    rcases bind_eq_ok.mp allowed with ⟨info, -, written⟩
    rcases bind_eq_ok.mp written with ⟨key, -, written⟩
    exact ⟨_, (Except.ok.inj written).symm, rfl⟩
  next => cases allowed

end Receiver

namespace Service

variable {service : Service} {asked : Except CollectorError (List Write)} {writes : List Write}
  {error : CollectorError}

/-- The writes that the collector does of those that it decides on. -/
def performed (service : Service) : Except CollectorError (List Write) → List Write
  | .ok writes => Store.reached service.outages writes
  | .error _ => []

theorem store_execute (service : Service) (asked : Except CollectorError (List Write)) :
    (service.execute asked).2.store = service.store.applyAll (service.performed asked) := by
  cases asked with
  | ok writes => exact Store.snd_perform service.outages writes service.store
  | error cause => rfl

/-- What is executed successfully is done as a whole. -/
theorem performed_of_execute (executed : (service.execute asked).1.isOk = true) :
    asked = .ok (service.performed asked) := by
  cases asked with
  | ok writes =>
      have whole := (Store.isOk_fst_perform service.outages writes service.store).mp executed
      rw [performed, whole]
  | error cause => cases executed

theorem execute_ok (inService : service.outages = []) :
    service.execute (.ok writes) =
      (.ok (), { service with
        store := service.store.applyAll writes
        counters := service.counters.count (.ok ()) }) := by
  rw [execute, inService, Store.perform_nil]

theorem execute_error : service.execute (.error error) =
    (.error error, { service with counters := service.counters.count (.error error) }) := rfl

end Service

end Telemetry.Collector
