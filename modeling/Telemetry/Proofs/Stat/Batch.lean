import Telemetry.Proofs.Stat.Layout
import Telemetry.Stat.Batch

namespace Telemetry.Stat

open Wire

/-! A batch gives its points back to a reader that knows the agent and the time of the first one. -/

namespace BatchContext

/-- However wide the rows are, the first sample keeps its time. -/
theorem initialTimestamp_of_aligned {agentId : String} {first timespan : Int64}
    {context : BatchContext} (made : aligned agentId first timespan = .ok context) :
    context.initialTimestamp = first := by
  rw [aligned] at made
  split at made
  next => cases made
  next =>
    cases made
    rw [initialTimestamp, ← Int64.ofInt_add, Int.sub_add_cancel, Int64.ofInt_toInt]

/-- The row of a timestamp begins at the last multiple of its width. -/
theorem aligned_eq_ok (agentId : String) {first timespan : Int64}
    (positive : 0 < timespan.toInt) (room : -2 ^ 63 + timespan.toInt ≤ first.toInt) :
    ∃ context, aligned agentId first timespan = .ok context ∧
      context.agentId = agentId ∧ context.initialTimestamp = first ∧
      context.baseTimestamp.toInt = first.toInt - first.toInt % timespan.toInt := by
  have notNegative := Int.emod_nonneg first.toInt (Int.ne_of_gt positive)
  have below := Int.emod_lt_of_pos first.toInt positive
  have high := first.toInt_lt
  have made : aligned agentId first timespan = .ok _ := if_neg (Int.not_le.mpr positive)
  refine ⟨_, made, rfl, initialTimestamp_of_aligned made, ?_⟩
  exact Int64.toInt_ofInt_of_le (by omega) (by omega)

end BatchContext

/-! ### Timestamps -/

section Timestamps

variable {first : Int64} {others deltas : List Int64}

theorem timestampDeltas_cons_eq_ok {second : Int64}
    (steps : timestampDeltas (first :: second :: others) = .ok deltas) :
    ∃ left, timestampDeltas (second :: others) = .ok left ∧ deltas = (second - first) :: left := by
  rw [timestampDeltas] at steps
  split at steps
  next => cases steps
  next =>
    split at steps
    next => cases steps
    next =>
      rcases bind_eq_ok.mp steps with ⟨left, leftSteps, equal⟩
      cases equal
      exact ⟨left, leftSteps, rfl⟩

theorem length_timestampDeltas (steps : timestampDeltas (first :: others) = .ok deltas) :
    deltas.length = others.length := by
  induction others generalizing first deltas with
  | nil =>
      cases steps
      rfl
  | cons second others induction =>
      rcases timestampDeltas_cons_eq_ok steps with ⟨left, leftSteps, rfl⟩
      rw [List.length_cons, List.length_cons, induction leftSteps]

/-- Adding up the steps leads through the timestamps that they were taken between. -/
theorem timestampsFrom_timestampDeltas (steps : timestampDeltas (first :: others) = .ok deltas) :
    StatBatch.timestampsFrom first deltas = first :: others := by
  induction others generalizing first deltas with
  | nil =>
      cases steps
      rfl
  | cons second others induction =>
      rcases timestampDeltas_cons_eq_ok steps with ⟨left, leftSteps, rfl⟩
      have next : first + (second - first) = second := by grind
      rw [StatBatch.timestampsFrom, next, induction leftSteps]

end Timestamps

theorem putEach_vlong (deltas : List Int64) :
    putEach (fun delta : UInt64 => .ok (putVlong delta)) (deltas.map Int64.toUInt64) =
      .ok (deltas.flatMap fun delta => putVlong delta.toUInt64) := by
  induction deltas with
  | nil => rfl
  | cons delta deltas induction =>
      rw [List.map_cons, putEach, induction]
      rfl

theorem takesAtLeast_vlong : TakesAtLeast 1 fun delta : UInt64 => .ok (putVlong delta) := by
  intro delta bytes written
  cases written
  exact length_varint_pos delta.toNat

theorem readsBack_vlong : ReadsBack (fun delta : UInt64 => .ok (putVlong delta)) Reader.vlong := by
  intro delta bytes written
  cases written
  exact Reader.reads_vlong delta

namespace StatBatch

/-- The batch as it comes back after being written. -/
def rounded (batch : StatBatch) : StatBatch where
  kind := batch.kind
  points := batch.points.map fun point => { point with value := batch.kind.rounded point.value }

theorem combine_points {α β : Type} {points : List (StatPoint α)} {agentId : String}
    (sameAgent : ∀ point ∈ points, point.agentId = agentId) (transform : α → β) :
    combine agentId (points.map StatPoint.startTimestamp) (points.map StatPoint.timestamp)
        ((points.map StatPoint.value).map transform) =
      points.map fun point => { point with value := transform point.value } := by
  rw [combine, List.map_map, List.map_map, applyEach_map, applyEach_map]
  apply List.map_congr_left
  intro point member
  rw [← sameAgent point member]
  rfl

theorem reads_header {header bytes : Bytes} (written : putBytes header = .ok bytes) :
    Reader.Reads readHeader bytes header := by
  intro rest
  rw [readHeader, (Reader.reads_presentBytes written).run_bind]
  rfl

/-- What a batch that could be written is made of. -/
theorem put_eq_ok {batch : StatBatch} {agentId : String} {timestamp : Int64} {bytes : Bytes}
    (begins : batch.first? = some (agentId, timestamp)) (written : batch.put = .ok bytes) :
    ∃ deltas starts columns,
      deltas.length + 1 = batch.length ∧
      timestampsFrom timestamp deltas = batch.points.map StatPoint.timestamp ∧
      (∀ point ∈ batch.points, point.agentId = agentId) ∧
      Strategy.put .unsigned (batch.points.map StatPoint.startTimestamp) .runs = .ok starts ∧
      Column.putSet (batch.kind.columns (batch.points.map StatPoint.value)) = .ok columns ∧
      bytes = batchVersion :: putCount batch.length ++ starts ++
        deltas.flatMap (fun delta => putVlong delta.toUInt64) ++ columns := by
  rcases batch with ⟨kind, points⟩
  cases points with
  | nil => cases written
  | cons first others =>
      cases begins
      rcases bind_eq_ok.mp written with ⟨deltas, steps, written⟩
      split at written
      next => cases written
      next none =>
        rcases bind_eq_ok.mp written with ⟨columns, columnsWritten, written⟩
        rcases bind_eq_ok.mp written with ⟨starts, startsWritten, written⟩
        cases written
        have lengths : deltas.length + 1 = (first :: others).length := by
          rw [length_timestampDeltas steps, List.length_map, List.length_cons]
        have sameAgent : ∀ point ∈ first :: others, point.agentId = first.agentId := by
          simpa using none
        exact ⟨deltas, starts, columns, lengths, timestampsFrom_timestampDeltas steps, sameAgent,
          startsWritten, columnsWritten, rfl⟩

/-- The reader stops exactly behind the bytes of the batch. -/
theorem reads_put {batch : StatBatch} {context : BatchContext} {bytes : Bytes}
    (fits : batch.length < 2 ^ 32)
    (begins : batch.first? = some (context.agentId, context.initialTimestamp))
    (written : batch.put = .ok bytes) :
    Reader.Reads (read batch.kind context) bytes batch.rounded := by
  rcases put_eq_ok begins written with
    ⟨deltas, starts, columns, lengths, timestamps, sameAgent, startsWritten, columnsWritten, rfl⟩
  rcases Column.putSet_eq_ok columnsWritten with
    ⟨header, headerBytes, columnBytes, headerWritten, rfl, columnsRead⟩
  have startsFit : (batch.points.map StatPoint.startTimestamp).length < 2 ^ 32 := by
    rwa [List.length_map]
  have valuesFit : (batch.points.map StatPoint.value).length < 2 ^ 32 := by
    rwa [List.length_map]
  have startsRead := Strategy.reads_put CellFormat.faithful_unsigned startsFit
    (Strategy.runs_appliesTo _) startsWritten
  have deltasRead := Reader.reads_many readsBack_vlong (putEach_vlong deltas)
  have deltasLength := length_putEach takesAtLeast_vlong (putEach_vlong deltas)
  have valuesRead := columnsRead (batch.kind.readsSet valuesFit)
  simp only [List.length_map] at startsRead deltasRead deltasLength valuesRead
  have deltaCount : batch.points.length - 1 = deltas.length := by
    rw [← length, ← lengths, Nat.add_sub_cancel]
  simp only [List.append_assoc, List.cons_append]
  apply (Reader.reads_byte batchVersion).bind
  rw [if_neg (by simp)]
  refine ((Reader.reads_count _).map fun count => count.toNat).bind ?_
  rw [toNat_count fits]
  refine Reader.Reads.afterRemaining ?_ ?_
  · apply startsRead.bind
    rw [length, deltaCount]
    apply deltasRead.bind
    apply (reads_header headerWritten).bind
    have signed : (deltas.map Int64.toUInt64).map (fun delta => delta.toInt64) = deltas := by
      rw [List.map_map]
      exact List.map_id deltas
    rw [signed, timestamps, rounded, ← combine_points sameAgent]
    exact valuesRead.bind_pure
  · -- Every step between two timestamps takes a byte, so the announced count is not too large.
    intro count enough
    simp only [List.length_append] at enough
    omega

end StatBatch

end Telemetry.Stat
