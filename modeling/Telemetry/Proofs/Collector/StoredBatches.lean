import Telemetry.Proofs.Collector.Dialogue
import Telemetry.Proofs.Message.StatEnvelope
import Telemetry.Proofs.Stat.Rewriting

namespace Telemetry.Collector

open Wire Trace Stat Message RowKey Delivery

/-! What batches a collector stores. All of them are from one agent each, but whether their samples
are in order is up to the steps that the frames hold. -/

/-! ### Batches in the store -/

namespace Store

variable {store : Store} {batch : StatBatch}

def HoldsBatch (store : Store) (batch : StatBatch) : Prop :=
  ∃ key, batch ∈ store.agentStats.cells key

theorem holdsBatch_apply {write : Write} : (store.apply write).HoldsBatch batch ↔
    store.HoldsBatch batch ∨ ∃ key, write = .agentStat key batch := by
  cases write with
  | agentStat place added =>
      simp only [HoldsBatch, apply, Table.cells_append, List.mem_append, exists_or]
      refine or_congr_right ⟨?_, ?_⟩
      · rintro ⟨key, member⟩
        split at member
        next => exact ⟨place, List.mem_singleton.mp member ▸ rfl⟩
        next => cases member
      · rintro ⟨_, ⟨⟩⟩
        exact ⟨place, by simp⟩
  | trace | traceIndex | agent | apiMetadata | sqlMetadata | stringMetadata =>
      simp [HoldsBatch, apply]

theorem holdsBatch_applyAll {writes : List Write} : (store.applyAll writes).HoldsBatch batch ↔
    store.HoldsBatch batch ∨ ∃ key, .agentStat key batch ∈ writes := by
  induction writes generalizing store with
  | nil => simp [applyAll]
  | cons write writes induction =>
      change ((store.apply write).applyAll writes).HoldsBatch batch ↔ _
      simp only [induction, holdsBatch_apply, List.mem_cons, exists_or, or_assoc, eq_comm]

end Store

namespace Receiver

variable {receiver : Receiver} {record : Record} {writes : List Write} {key : Bytes}
  {batch : StatBatch} {now : Int64} {frame : Frame} {payload : Bytes}

theorem agentStat_notMem_recordWrites (allowed : receiver.recordWrites record = .ok writes) :
    .agentStat key batch ∉ writes := by
  rcases recordWrites_eq_ok.mp allowed with ⟨index, traceKey, indexed, -, rfl⟩
  rw [List.mem_cons, not_or]
  refine ⟨nofun, fun member => ?_⟩
  by_cases root : ∃ span, record = .span span ∧ span.isRoot = true
  · rcases root with ⟨span, rfl, isRoot⟩
    rcases (indexWrites_of_root isRoot).mp indexed with ⟨indexKey, -, rfl⟩
    cases List.mem_singleton.mp member
  · have unlisted : receiver.indexWrites record = .ok [] :=
      indexWrites_of_not_root fun span same =>
        Bool.eq_false_iff.mpr fun isRoot => root ⟨span, same, isRoot⟩
    cases indexed.symm.trans unlisted
    cases member

/-- Only frames that hold a batch lead to one in the store. -/
theorem agentStat_mem_streamWrites (allowed : receiver.streamWrites now frame = .ok writes)
    (member : .agentStat key batch ∈ writes) :
    frame.kind = .statBatch ∧ receiver.statWrites frame.payload = .ok writes := by
  rw [streamWrites] at allowed
  split at allowed
  case h_1 | h_2 =>
    rcases spanWrites_eq_ok.mp allowed with ⟨-, record, -, -, written⟩
    exact absurd member (agentStat_notMem_recordWrites written)
  next kind => exact ⟨kind, allowed⟩
  next => cases allowed

/-- What a payload that is stored holds. -/
theorem statWrites_steps (allowed : receiver.statWrites payload = .ok writes) :
    ∃ key batch envelope steps left, writes = [.agentStat key batch] ∧
      StatEnvelope.decode payload = .ok envelope ∧
      StatBatch.readSteps envelope.value = .ok steps left ∧
      (batch.Keeps ↔ StepsFit envelope.firstTimestamp steps) := by
  rcases statWrites_eq_ok.mp allowed with ⟨envelope, context, batch, key, opened, read, -, rfl⟩
  rcases StatEnvelope.read_of_decodeBatch read with ⟨begins, accepted⟩
  rcases StatBatch.keeps_of_read_iff accepted with ⟨steps, left, stepsRead, -, keeps⟩
  rw [begins] at keeps
  exact ⟨key, batch, envelope, steps, left, rfl, opened, stepsRead, keeps⟩

end Receiver

/-- The frame holds a batch with this first timestamp and these steps from each sample to the
next. -/
def HoldsSteps (frame : Frame) (first : Int64) (steps : List UInt64) : Prop :=
  frame.kind = .statBatch ∧ ∃ envelope left, StatEnvelope.decode frame.payload = .ok envelope ∧
    envelope.firstTimestamp = first ∧ StatBatch.readSteps envelope.value = .ok steps left

theorem HoldsSteps.unique {frame : Frame} {first other : Int64} {steps others : List UInt64}
    (holds : HoldsSteps frame first steps) (holdsToo : HoldsSteps frame other others) :
    first = other ∧ steps = others := by
  rcases holds with ⟨-, envelope, left, opened, rfl, stepsRead⟩
  rcases holdsToo with ⟨-, envelopeToo, leftToo, openedToo, rfl, stepsReadToo⟩
  cases opened.symm.trans openedToo
  cases stepsRead.symm.trans stepsReadToo
  exact ⟨rfl, rfl⟩

namespace Service

variable {service : Service} {batch : StatBatch} {key : Bytes}

theorem mem_performed {asked : Except CollectorError (List Write)} {write : Write}
    (member : write ∈ service.performed asked) : ∃ writes, asked = .ok writes ∧ write ∈ writes := by
  cases asked with
  | ok writes => exact ⟨writes, rfl, (List.takeWhile_sublist _).subset member⟩
  | error cause => cases member

/-- A write that is the only one to do and is done was successful. -/
theorem execute_of_mem {write : Write} (member : write ∈ service.performed (.ok [write])) :
    (service.execute (.ok [write])).1 = .ok () := by
  have inService : write.call ∉ service.outages := by
    intro out
    simp [performed, Store.reached, out] at member
  simp [execute, Store.perform, inService]

/-- A batch that is stored for an arrival keeps the contract exactly if its steps fit. -/
theorem keeps_of_performed {arrival : Arrival}
    (member : .agentStat key batch ∈ service.arrivalPerformed arrival) :
    ∃ now frame first steps, arrival = .streamed now frame ∧
      (service.handle now frame).1 = .ok () ∧ HoldsSteps frame first steps ∧
      (batch.Keeps ↔ StepsFit first steps) := by
  cases arrival with
  | request id frame =>
      rcases mem_performed member with ⟨writes, asked, inWrites⟩
      rcases Receiver.requestWrites_eq_ok asked with ⟨write, rfl, other⟩
      rw [← List.mem_singleton.mp inWrites] at other
      cases other
  | streamed now frame =>
      rcases mem_performed member with ⟨writes, asked, inWrites⟩
      rcases Receiver.agentStat_mem_streamWrites asked inWrites with ⟨kind, allowed⟩
      rcases Receiver.statWrites_steps allowed with
        ⟨place, stored, envelope, steps, left, rfl, opened, stepsRead, keeps⟩
      cases List.mem_singleton.mp inWrites
      refine ⟨now, frame, envelope.firstTimestamp, steps, rfl, ?_,
        ⟨kind, envelope, left, opened, rfl, stepsRead⟩, keeps⟩
      rw [arrivalPerformed, asked] at member
      rw [handle, asked]
      exact execute_of_mem member

theorem arrivalPerformed_takeIn (service : Service) (earlier arrival : Arrival) :
    (service.takeIn earlier).arrivalPerformed arrival = service.arrivalPerformed arrival := by
  cases earlier <;> cases arrival <;> rfl

theorem holdsBatch_takeInAll {arrivals : List Arrival} :
    (service.takeInAll arrivals).store.HoldsBatch batch ↔ service.store.HoldsBatch batch ∨
      ∃ arrival ∈ arrivals, ∃ key, .agentStat key batch ∈ service.arrivalPerformed arrival := by
  induction arrivals generalizing service with
  | nil => simp [takeInAll]
  | cons arrival arrivals induction =>
      change ((service.takeIn arrival).takeInAll arrivals).store.HoldsBatch batch ↔ _
      simp only [induction, store_takeIn, Store.holdsBatch_applyAll, arrivalPerformed_takeIn,
        List.exists_mem_cons_iff, or_assoc]

/-- For every batch that is taken in, one is stored that keeps the contract exactly if the steps
fit. -/
theorem exists_performed_of_handled {now : Int64} {frame : Frame} {first : Int64}
    {steps : List UInt64} (handled : (service.handle now frame).1 = .ok ())
    (holds : HoldsSteps frame first steps) :
    ∃ key batch, .agentStat key batch ∈ service.arrivalPerformed (.streamed now frame) ∧
      (batch.Keeps ↔ StepsFit first steps) := by
  rcases holds with ⟨kind, envelope, left, opened, rfl, stepsRead⟩
  have allowed := performed_of_execute (congrArg Except.isOk handled)
  change service.receiver.streamWrites now frame =
    .ok (service.arrivalPerformed (.streamed now frame)) at allowed
  rw [Receiver.streamWrites, kind] at allowed
  rcases Receiver.statWrites_steps allowed with
    ⟨key, batch, sameEnvelope, sameSteps, sameLeft, written, openedAgain, readAgain, keeps⟩
  cases opened.symm.trans openedAgain
  cases stepsRead.symm.trans readAgain
  exact ⟨key, batch, written ▸ List.mem_singleton_self _, keeps⟩

/-- Batches that are read are from one agent each. Their samples are in order, so that the writer
accepts them again, exactly if the steps between them are below 2 ^ 63 and the first timestamp and
all steps add up to less. And a collector comes to hold only such batches exactly if it held only
such ones before and the steps in all batches that it takes in fit. -/
theorem batches_keep_iff (kind : StatKind) (context : BatchContext) (bytes : Bytes)
    (service : Service) (arrivals : List Arrival) :
    (∀ batch rest, StatBatch.read kind context bytes = .ok batch rest →
      (∀ point ∈ batch.points, point.agentId = context.agentId) ∧
      ∃ steps left, StatBatch.readSteps bytes = .ok steps left ∧
        ((batch.points.map StatPoint.timestamp).IsChain Follows ↔
          StepsFit context.initialTimestamp steps) ∧
        ((∃ written, batch.put = .ok written) ↔ StepsFit context.initialTimestamp steps)) ∧
    ((∀ batch, (service.takeInAll arrivals).store.HoldsBatch batch → batch.Keeps) ↔
      (∀ batch, service.store.HoldsBatch batch → batch.Keeps) ∧
      ∀ now frame first steps, .streamed now frame ∈ arrivals →
        (service.handle now frame).1 = .ok () → HoldsSteps frame first steps →
          StepsFit first steps) := by
  constructor
  · intro batch rest accepted
    rcases StatBatch.keeps_of_read_iff accepted with ⟨steps, left, stepsRead, ordered, keeps⟩
    rcases StatBatch.points_of_read accepted with ⟨points, rfl, -, sameAgent, -, -⟩
    exact ⟨sameAgent, steps, left, stepsRead, ordered, StatBatch.exists_put_iff.trans keeps⟩
  · simp only [holdsBatch_takeInAll, or_imp, forall_and]
    refine and_congr_right' ⟨fun keeping now frame first steps member handled holds => ?_,
      fun fitting batch stored => ?_⟩
    · rcases exists_performed_of_handled handled holds with ⟨key, batch, performed, keeps⟩
      exact keeps.mp (keeping batch ⟨_, member, key, performed⟩)
    · rcases stored with ⟨arrival, member, key, performed⟩
      rcases keeps_of_performed performed with
        ⟨now, frame, first, steps, rfl, handled, holds, keeps⟩
      exact keeps.mpr (fitting now frame first steps member handled holds)

/-- The value of a batch with two samples and this step from the first to the second. -/
def twoSamples (step : UInt64) : Bytes := [2, 2, 2, 0] ++ putVlong step ++ [2, 128, 0]

/-- A frame with two samples, the first at 42. -/
def twoSamplesFrame (step : UInt64) : Frame := ⟨.statBatch, [1, 3, 2, 97, 84] ++ twoSamples step⟩

def emptyService (receiver : Receiver) : Service := ⟨receiver, .empty, .zero, []⟩

theorem emptyService_handle {receiver : Receiver} (made : Receiver.ofConfig {} = .ok receiver) :
    ((emptyService receiver).handle 0 (twoSamplesFrame 5)).1 = .ok () ∧
      ((emptyService receiver).handle 0 (twoSamplesFrame (-1))).1 = .ok () := by
  cases made
  constructor <;> cbv

theorem holdsSteps_twoSamplesFrame :
    HoldsSteps (twoSamplesFrame 5) 42 [5] ∧ HoldsSteps (twoSamplesFrame (-1)) 42 [-1] := by
  refine ⟨⟨rfl, ⟨.totalThreadCount, "a", 42, twoSamples 5⟩, [2, 128, 0], ?_, rfl, ?_⟩,
    ⟨rfl, ⟨.totalThreadCount, "a", 42, twoSamples (-1)⟩, [2, 128, 0], ?_, rfl, ?_⟩⟩ <;> cbv

theorem stepsFit_five : StepsFit 42 [5] := ⟨by simp, by simp⟩

theorem not_stepsFit_back : ¬ StepsFit 42 [-1] :=
  fun fits => absurd (fits.forward (-1) List.mem_cons_self) (by simp)

theorem batches_keep_iff_twoSamples :
    (∃ batch, StatBatch.read .totalThreadCount ⟨"a", 0, 42⟩ (twoSamples 5) = .ok batch [] ∧
      (∀ point ∈ batch.points, point.agentId = "a") ∧ ∃ written, batch.put = .ok written) ∧
    ∃ service, ofConfig {} [] = .ok service ∧
      (service.handle 0 (twoSamplesFrame 5)).1 = .ok () ∧
      (∀ batch, (service.takeInAll [.streamed 0 (twoSamplesFrame 5)]).store.HoldsBatch batch →
        batch.Keeps) ∧
      ¬ ∀ batch, (service.takeInAll [.streamed 0 (twoSamplesFrame (-1))]).store.HoldsBatch batch →
        batch.Keeps := by
  rcases Receiver.exists_ofConfig {} (by decide) (by decide) (by decide) with ⟨receiver, made⟩
  rcases emptyService_handle made with ⟨handled, handledBack⟩
  rcases holdsSteps_twoSamplesFrame with ⟨five, back⟩
  rcases batches_keep_iff .totalThreadCount ⟨"a", 0, 42⟩ (twoSamples 5) (emptyService receiver)
    [.streamed 0 (twoSamplesFrame 5)] with ⟨reading, storing⟩
  constructor
  · have accepted : ∃ batch, StatBatch.read .totalThreadCount ⟨"a", 0, 42⟩ (twoSamples 5) =
        .ok batch [] := ⟨_, by cbv⟩
    rcases accepted with ⟨batch, accepted⟩
    rcases reading batch [] accepted with ⟨sameAgent, steps, left, stepsRead, -, again⟩
    have five : StatBatch.readSteps (twoSamples 5) = .ok [5] [2, 128, 0] := by cbv
    cases five.symm.trans stepsRead
    exact ⟨batch, accepted, sameAgent, again.mpr stepsFit_five⟩
  · refine ⟨emptyService receiver, bind_eq_ok.mpr ⟨receiver, made, rfl⟩, handled,
      storing.mpr ⟨?_, ?_⟩, ?_⟩
    · rintro batch ⟨key, member⟩
      cases member
    · intro now frame first steps member _ holds
      cases List.mem_singleton.mp member
      rcases five.unique holds with ⟨rfl, rfl⟩
      exact stepsFit_five
    · intro keeping
      rcases batches_keep_iff .totalThreadCount ⟨"a", 0, 42⟩ (twoSamples 5) (emptyService receiver)
        [.streamed 0 (twoSamplesFrame (-1))] with ⟨-, storingBack⟩
      exact not_stepsFit_back
        ((storingBack.mp keeping).2 0 _ 42 [-1] List.mem_cons_self handledBack back)

/-- The steps of a batch that is read may lead back, and the collector stores such a batch. -/
theorem backwards_batch_stored :
    (¬ ∀ (kind : StatKind) (context : BatchContext) (bytes rest : Bytes) (batch : StatBatch),
      StatBatch.read kind context bytes = .ok batch rest → ∃ written, batch.put = .ok written) ∧
    ¬ ∀ (service : Service) (now : Int64) (frame : Frame),
      (∀ batch, service.store.HoldsBatch batch → batch.Keeps) →
        ∀ batch, (service.handle now frame).2.store.HoldsBatch batch → batch.Keeps := by
  constructor
  · intro claim
    have accepted : ∃ batch, StatBatch.read .totalThreadCount ⟨"a", 0, 42⟩ (twoSamples (-1)) =
        .ok batch [] := ⟨_, by cbv⟩
    rcases accepted with ⟨batch, accepted⟩
    rcases StatBatch.keeps_of_read_iff accepted with ⟨steps, left, stepsRead, -, keeps⟩
    have back : StatBatch.readSteps (twoSamples (-1)) = .ok [-1] [2, 128, 0] := by cbv
    cases back.symm.trans stepsRead
    exact not_stepsFit_back (keeps.mp (StatBatch.exists_put_iff.mp (claim _ _ _ _ _ accepted)))
  · intro claim
    rcases Receiver.exists_ofConfig {} (by decide) (by decide) (by decide) with ⟨receiver, made⟩
    rcases emptyService_handle made with ⟨-, handled⟩
    rcases exists_performed_of_handled handled holdsSteps_twoSamplesFrame.2 with
      ⟨key, batch, performed, keeps⟩
    have kept := claim (emptyService receiver) 0 (twoSamplesFrame (-1))
    refine not_stepsFit_back (keeps.mp (kept ?_ batch ?_))
    · rintro stored ⟨place, member⟩
      cases member
    · change ((emptyService receiver).takeIn (.streamed 0 (twoSamplesFrame (-1)))).store.HoldsBatch
        batch
      rw [store_takeIn, Store.holdsBatch_applyAll]
      exact .inr ⟨key, performed⟩

end Service

end Telemetry.Collector
