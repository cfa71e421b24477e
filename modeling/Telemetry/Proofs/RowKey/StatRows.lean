import Telemetry.Proofs.RowKey.ScanOrder
import Telemetry.Proofs.Stat.Batch

namespace Telemetry

open Wire Text

/-! Rows of statistics. Rows begin at the multiples of their timespan, and a batch is filed in the
row that its first sample falls into. The key of the row and the time since its beginning are all
that a reader needs to find the first timestamp again. -/

/-! ### Alignment -/

namespace Stat.BatchContext

theorem timestampDelta_of_aligned {agentId : String} {first timespan : Int64}
    {context : BatchContext} (positive : 0 < timespan.toInt)
    (made : aligned agentId first timespan = .ok context) :
    context.timestampDelta.toInt = first.toInt % timespan.toInt := by
  have notNegative := Int.emod_nonneg first.toInt (Int.ne_of_gt positive)
  have below := Int.emod_lt_of_pos first.toInt positive
  have high := timespan.toInt_lt
  rw [aligned, if_neg (Int.not_le.mpr positive)] at made
  cases made
  exact Int64.toInt_ofInt_of_le (by omega) (by omega)

theorem baseTimestamp_of_aligned {agentId : String} {first timespan : Int64}
    {context : BatchContext} (positive : 0 < timespan.toInt)
    (room : -2 ^ 63 + timespan.toInt ≤ first.toInt)
    (made : aligned agentId first timespan = .ok context) :
    context.agentId = agentId ∧
      context.baseTimestamp.toInt = first.toInt / timespan.toInt * timespan.toInt := by
  rcases aligned_eq_ok agentId positive room with ⟨_, again, agent, -, base⟩
  rw [made] at again
  cases again
  have parts := Int.ediv_mul_add_emod first.toInt timespan.toInt
  exact ⟨agent, by omega⟩

end Stat.BatchContext

namespace RowKey

open Stat

/-! ### Rows -/

namespace StatKeys

variable {keys : StatKeys} {row : StatRow}

theorem encode_of_negative (fits : (utf8 row.agentId).length ≤ agentIdWidth)
    (below : row.baseTimestamp.toInt < 0) :
    keys.encode row = .error (.negativeTimestamp row.baseTimestamp) := by
  have earlier : ∀ field ∈ [KeyField.text agentIdWidth row.agentId, .byte row.kind.code],
      field.Fits := by
    simpa [KeyField.Fits] using fits
  rw [encode, undistributedKey_eq_putAll]
  exact congrArg _ (KeyField.putAll_of_negative earlier below)

/-- The batches of one agent and kind share a row, or are refused for the same reason, exactly if
their rows begin at the same time. -/
theorem encode_inj {agentId : String} {kind : StatKind} {base other : Int64}
    (fits : (utf8 agentId).length ≤ agentIdWidth) :
    keys.encode ⟨agentId, kind, base⟩ = keys.encode ⟨agentId, kind, other⟩ ↔ base = other := by
  refine ⟨fun same => ?_, fun same => by rw [same]⟩
  have accepted (base : Int64) (notNegative : 0 ≤ base.toInt) :
      ∃ key, keys.encode ⟨agentId, kind, base⟩ = .ok key :=
    (keys.exists_encode_iff _).mpr ⟨fits, notNegative⟩
  have refused (base : Int64) (below : base.toInt < 0) :
      keys.encode ⟨agentId, kind, base⟩ = .error (.negativeTimestamp base) :=
    encode_of_negative fits below
  rcases Int.lt_or_le base.toInt 0 with below | notNegative
  · rcases Int.lt_or_le other.toInt 0 with otherBelow | otherNotNegative
    · rw [refused base below, refused other otherBelow] at same
      simpa using same
    · rcases accepted other otherNotNegative with ⟨key, encoded⟩
      rw [refused base below, encoded] at same
      cases same
  · rcases accepted base notNegative with ⟨key, encoded⟩
    have rows := (key_eq_iff encoded (same ▸ encoded)).mp rfl
    exact congrArg StatRow.baseTimestamp rows

end StatKeys

/-- How a batch is filed whose first sample was taken at `first`, in rows of `timespan` millis. -/
structure FiledIn (keys : StatKeys) (kind : StatKind) (timespan first : Int64)
    (context : BatchContext) : Prop where
  multiple : timespan.toInt ∣ context.baseTimestamp.toInt
  delta_nonneg : 0 ≤ context.timestampDelta.toInt
  delta_lt : context.timestampDelta.toInt < timespan.toInt
  sum : context.baseTimestamp.toInt + context.timestampDelta.toInt = first.toInt
  accepted_iff : (∃ key, keys.encode (.ofContext kind context) = .ok key) ↔ 0 ≤ first.toInt
  /-- The key of the row gives the context back, without the padding that the agent id ends in. -/
  context_eq : ∀ {key}, keys.encode (.ofContext kind context) = .ok key →
    StatKeys.context key context.timestampDelta =
      .ok { context with agentId := withoutPadding context.agentId }

theorem filedIn_of_aligned (keys : StatKeys) (kind : StatKind) {agentId : String}
    {timespan first : Int64} {context : BatchContext}
    (fits : (utf8 agentId).length ≤ agentIdWidth) (positive : 0 < timespan.toInt)
    (room : -2 ^ 63 + timespan.toInt ≤ first.toInt)
    (made : BatchContext.aligned agentId first timespan = .ok context) :
    FiledIn keys kind timespan first context := by
  rcases BatchContext.baseTimestamp_of_aligned positive room made with ⟨rfl, base⟩
  have delta := BatchContext.timestampDelta_of_aligned positive made
  refine ⟨?_, ?_, ?_, ?_, ?_, fun encoded => ?_⟩
  · exact base ▸ Int.dvd_mul_left _ _
  · exact delta ▸ Int.emod_nonneg _ (Int.ne_of_gt positive)
  · exact delta ▸ Int.emod_lt_of_pos _ positive
  · rw [base, delta]
    exact Int.ediv_mul_add_emod _ _
  · rw [StatKeys.exists_encode_iff, StatRow.ofContext, base,
      Int.mul_nonneg_iff_of_pos_right positive, Int.ediv_nonneg_iff_of_pos positive]
    exact and_iff_right fits
  · exact bind_eq_ok.mpr ⟨_, StatKeys.decode_encode encoded, rfl⟩

/-- Rows partition time: each batch has a row whose beginning and key give its context back, and two
batches of an agent are in one row exactly if their first samples fall into the same timespan. -/
theorem rows_partition (keys : StatKeys) (kind : StatKind) {agentId : String}
    {timespan first : Int64} (fits : (utf8 agentId).length ≤ agentIdWidth)
    (positive : 0 < timespan.toInt) (room : -2 ^ 63 + timespan.toInt ≤ first.toInt) :
    ∃ context, BatchContext.aligned agentId first timespan = .ok context ∧
      context.agentId = agentId ∧ FiledIn keys kind timespan first context ∧
      ∀ {other otherContext}, -2 ^ 63 + timespan.toInt ≤ other.toInt →
        BatchContext.aligned agentId other timespan = .ok otherContext →
        (keys.encode (.ofContext kind context) = keys.encode (.ofContext kind otherContext) ↔
          first.toInt / timespan.toInt = other.toInt / timespan.toInt) := by
  rcases BatchContext.aligned_eq_ok agentId positive room with ⟨context, made, agent, -, -⟩
  refine ⟨context, made, agent, filedIn_of_aligned keys kind fits positive room made, ?_⟩
  intro other otherContext otherRoom otherMade
  rcases BatchContext.baseTimestamp_of_aligned positive room made with ⟨-, base⟩
  rcases BatchContext.baseTimestamp_of_aligned positive otherRoom otherMade with
    ⟨otherAgent, otherBase⟩
  rw [StatRow.ofContext, StatRow.ofContext, agent, otherAgent, StatKeys.encode_inj fits,
    ← Int64.toInt_inj, base, otherBase]
  exact Int.mul_eq_mul_right_iff (Int.ne_of_gt positive)

theorem rows_partition_minutes :
    (utf8 "agent ").length ≤ agentIdWidth ∧ 0 < Int64.toInt 60000 ∧
      -2 ^ 63 + Int64.toInt 60000 ≤ Int64.toInt 1700000065000 ∧
      FiledIn ⟨fnv1a, .whole, 8, by decide, by decide⟩ .jvmGc 60000 1700000065000
        ⟨"agent ", 1700000040000, 25000⟩ ∧
      StatKeys.encode ⟨fnv1a, .whole, 8, by decide, by decide⟩
          ⟨"agent ", .jvmGc, 1700000040000⟩ ≠
        StatKeys.encode ⟨fnv1a, .whole, 8, by decide, by decide⟩
          ⟨"agent ", .jvmGc, 1700000100000⟩ := by
  have fits : (utf8 "agent ").length ≤ agentIdWidth := by decide
  have positive : 0 < Int64.toInt 60000 := by decide
  have room : -2 ^ 63 + Int64.toInt 60000 ≤ Int64.toInt 1700000065000 := by decide
  rcases rows_partition ⟨fnv1a, .whole, 8, by decide, by decide⟩ .jvmGc fits positive room with
    ⟨context, made, -, filed, sameRow⟩
  have row : BatchContext.aligned "agent " 1700000065000 60000 =
      .ok ⟨"agent ", 1700000040000, 25000⟩ := by decide
  have next : BatchContext.aligned "agent " 1700000100000 60000 =
      .ok ⟨"agent ", 1700000100000, 0⟩ := by decide
  rw [row] at made
  cases made
  refine ⟨fits, positive, room, filed, fun same => ?_⟩
  have quotients := (sameRow (by decide) next).mp same
  exact absurd quotients (by decide)

end RowKey

end Telemetry
