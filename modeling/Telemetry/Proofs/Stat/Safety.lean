import Mathlib
import Telemetry.Proofs.Stat.Guarded
import Telemetry.Proofs.Wire.Position

namespace Telemetry.Stat

open Wire Reader GuardedReader

/-! Reading a batch from arbitrary bytes. The reader refuses them or gives as many points as it was
told to expect, and in either case it stops inside the data and not before the place where it began.
Counts, run lengths and strategy codes may contradict each other in any way. -/

/-! ### Where the readers stop -/

/-- A format whose reader only takes bytes off the front. -/
def CellFormat.Advances {α : Type} (cell : CellFormat α) : Prop := Wire.Advances id cell.read

theorem CellFormat.advances_unsigned : CellFormat.unsigned.Advances := advances_vlong.map _

theorem CellFormat.advances_signed : CellFormat.signed.Advances := advances_svlong

theorem CellFormat.advances_text : CellFormat.text.Advances := advances_optionalText

namespace Strategy

variable {α : Type} {cell : CellFormat α}

theorem advances_readRuns (advances : cell.Advances) (count left : Nat) :
    Wire.Advances id (readRuns cell count left) := by
  induction left using Nat.strong_induction_on with
  | _ left induction =>
      cases left with
      | zero =>
          rw [readRuns]
          exact .pure []
      | succ left =>
          rw [readRuns]
          refine advances_vint.bind fun run => ?_
          split
          next => exact advances_malformed _
          next fits =>
            have shorter : left + 1 - run.toNat < left + 1 := by omega
            exact advances.bind fun value => (induction _ shorter).bind fun _ => .pure _

theorem advances_read (advances : cell.Advances) (count : Nat) (strategy : Strategy) :
    Wire.Advances id (strategy.read cell count) := by
  cases strategy with
  | plain => exact advances_many advances count
  | runs => exact advances_readRuns advances count count
  | constant => exact .ite (.pure []) (advances.map _)

end Strategy

namespace ColumnReader

variable {α : Type}

theorem advances_ofReader {reader : Reader α} (advances : Wire.Advances id reader) :
    Wire.Advances ColumnSource.rest (ofReader reader) := by
  intro source
  have left := advances source.rest
  rw [ofReader]
  cases ran : reader source.rest with
  | ok value rest => rwa [ran] at left
  | error cause rest => rwa [ran] at left

theorem advances_nextCode : Wire.Advances ColumnSource.rest nextCode := by
  rintro ⟨codes, rest⟩
  cases codes with
  | nil => exact List.suffix_refl rest
  | cons code codes => exact List.suffix_refl rest

theorem advances_column {cell : CellFormat α} (advances : cell.Advances) (count : Nat) :
    Wire.Advances ColumnSource.rest (column cell count) := by
  refine advances_nextCode.bind fun code => ?_
  split
  · exact advances_ofReader (Strategy.advances_read advances count _)
  · exact .throw _

theorem advances_lift (result : Except DecodeError α) :
    Wire.Advances ColumnSource.rest (lift result) := by
  cases result with
  | ok value => exact .pure value
  | error error => exact .throw error

theorem advances_run (header : Bytes) {reader : ColumnReader α}
    (advances : Wire.Advances ColumnSource.rest reader) : Wire.Advances id (run header reader) := by
  intro bytes
  have left := advances ⟨unpackCodes header, bytes⟩
  rw [run]
  cases ran : reader ⟨unpackCodes header, bytes⟩ with
  | ok value source => rwa [ran] at left
  | error cause source => rwa [ran] at left

end ColumnReader

theorem StatKind.advances_read (kind : StatKind) (count : Nat) :
    Wire.Advances ColumnSource.rest (kind.read count) := by
  have signed := ColumnReader.advances_column CellFormat.advances_signed count
  have text := ColumnReader.advances_column CellFormat.advances_text count
  cases kind with
  | jvmGc =>
      refine (ColumnReader.advances_column CellFormat.advances_unsigned count).bind fun _ => ?_
      refine signed.bind fun _ => signed.bind fun _ => signed.bind fun _ => ?_
      refine signed.bind fun _ => signed.bind fun _ => signed.bind fun _ => ?_
      exact (ColumnReader.advances_lift _).bind fun _ => .pure _
  | cpuLoad => exact signed.bind fun _ => signed.bind fun _ => .pure _
  | totalThreadCount => exact signed.bind fun _ => .pure _
  | fileDescriptor => exact signed.bind fun _ => .pure _
  | loadedClass => exact signed.bind fun _ => signed.bind fun _ => .pure _
  | dataSource =>
      refine signed.bind fun _ => signed.bind fun _ => text.bind fun _ => text.bind fun _ => ?_
      exact signed.bind fun _ => signed.bind fun _ => ColumnReader.advances_lift _

namespace StatBatch

theorem advances_readHeader : Wire.Advances id readHeader := by
  refine advances_optionalBytes.bind fun header => ?_
  cases header with
  | some header => exact .pure header
  | none => exact advances_malformed _

theorem advances_read (kind : StatKind) (context : BatchContext) :
    Wire.Advances id (read kind context) := by
  refine advances_byte.bind fun version => .ite (.throw _) ?_
  refine (advances_vint.map _).bind fun count => advances_remaining.bind fun remaining => ?_
  refine .ite (advances_malformed _) ?_
  refine (Strategy.advances_read CellFormat.advances_unsigned count .runs).bind fun starts => ?_
  refine (advances_many advances_vlong _).bind fun deltas => ?_
  refine advances_readHeader.bind fun header => ?_
  exact (ColumnReader.advances_run header (kind.advances_read count)).bind fun _ => .pure _

/-! ### What a batch that is read is made of -/

variable {kind : StatKind} {context : BatchContext} {bytes rest : Bytes} {batch : StatBatch}

/-- The version and the number of points. -/
def readCount : Reader Nat := do
  let _ ← Reader.byte
  (fun count => count.toNat) <$> Reader.vint

/-- The steps from one timestamp to the next, as they are in the bytes. -/
def readSteps : Reader (List UInt64) := do
  let count ← readCount
  let _ ← Strategy.read .unsigned count .runs
  Reader.many Reader.vlong (count - 1)

/-- The lists that are combined to points all have the announced length. -/
theorem read_eq_ok (accepted : read kind context bytes = .ok batch rest) :
    ∃ (count : Nat) (left : Bytes) (starts : List Int64) (deltas : List UInt64)
      (source : ColumnSource) (values : List kind.Value) (after : ColumnSource),
      readCount bytes = .ok count left ∧ (∃ between, readSteps bytes = .ok deltas between) ∧
      starts.length = count ∧ deltas.length + 1 = count ∧
      kind.read count source = .ok values after ∧
      batch = ⟨kind, combine context.agentId starts
        (timestampsFrom context.initialTimestamp (deltas.map fun delta => delta.toInt64))
        values⟩ := by
  rcases run_bind_eq_ok.mp accepted with ⟨version, afterVersion, versionRead, accepted⟩
  split at accepted
  next => cases accepted
  rcases run_bind_eq_ok.mp accepted with ⟨count, left, countRead, accepted⟩
  rcases run_bind_eq_ok.mp accepted with ⟨remaining, between, remainingRead, accepted⟩
  split at accepted
  next => cases accepted
  next enough =>
  rcases run_bind_eq_ok.mp accepted with ⟨starts, afterStarts, startsRead, accepted⟩
  rcases run_bind_eq_ok.mp accepted with ⟨deltas, afterDeltas, deltasRead, accepted⟩
  rcases run_bind_eq_ok.mp accepted with ⟨header, afterHeader, headerRead, accepted⟩
  rcases run_bind_eq_ok.mp accepted with ⟨values, afterValues, valuesRead, accepted⟩
  cases accepted
  rw [ColumnReader.run] at valuesRead
  split at valuesRead
  next source columnsRead =>
    cases valuesRead
    have deltasLength := (yields_many (.anything _) (count - 1) deltasRead).length
    have counted : readCount bytes = .ok count left :=
      run_bind_eq_ok.mpr ⟨version, afterVersion, versionRead, countRead⟩
    cases remainingRead
    have stepsRead : readSteps bytes = .ok deltas afterDeltas :=
      run_bind_eq_ok.mpr ⟨count, _, counted,
        run_bind_eq_ok.mpr ⟨starts, afterStarts, startsRead, deltasRead⟩⟩
    have startsLength := (Strategy.yields_read _ count (.anything _) .runs startsRead).length
    exact ⟨count, left, starts, deltas, _, values, _, counted, ⟨afterDeltas, stepsRead⟩,
      startsLength, by omega, columnsRead, rfl⟩
  next => cases valuesRead

/-- Lists of one length are combined place by place, and nothing of them is lost. -/
theorem combine_parts {α : Type} {count : Nat} {starts timestamps : List Int64} {values : List α}
    (agentId : String) (startsLength : starts.length = count)
    (timestampsLength : timestamps.length = count) (length : values.length = count) :
    (combine agentId starts timestamps values).length = count ∧
    (combine agentId starts timestamps values).map StatPoint.timestamp = timestamps ∧
    (combine agentId starts timestamps values).map StatPoint.value = values ∧
    ∀ point ∈ combine agentId starts timestamps values, point.agentId = agentId := by
  rcases exists_field startsLength with ⟨start, rfl⟩
  rcases exists_field timestampsLength with ⟨timestamp, rfl⟩
  rcases exists_field length with ⟨value, rfl⟩
  simp [combine, Function.comp_def]

/-- What is known of the points of a batch that is read. -/
structure ReadPoints (kind : StatKind) (context : BatchContext) (bytes : Bytes)
    (points : List (StatPoint kind.Value)) : Prop where
  counted : ∃ left, readCount bytes = .ok points.length left
  sameAgent : ∀ point ∈ points, point.agentId = context.agentId
  stepped : ∃ steps left, readSteps bytes = .ok steps left ∧ steps.length + 1 = points.length ∧
    points.map StatPoint.timestamp =
      timestampsFrom context.initialTimestamp (steps.map fun step => step.toInt64)
  valued : ∃ source after, kind.read points.length source =
    .ok (points.map StatPoint.value) after

/-- The points of a batch that is read: as many as announced, from the agent of the context, with
timestamps that begin at the first one and go on by the steps that were read. -/
theorem points_of_read (accepted : read kind context bytes = .ok batch rest) :
    ∃ points, batch = ⟨kind, points⟩ ∧ ReadPoints kind context bytes points := by
  rcases read_eq_ok accepted with
    ⟨count, left, starts, deltas, source, values, after, counted, ⟨between, stepsRead⟩,
      startsLength, deltasLength, valuesRead, same⟩
  have length := kind.yields_read count valuesRead
  have timestampsLength := length_timestampsFrom context.initialTimestamp
    (deltas.map fun delta => delta.toInt64)
  rw [List.length_map, deltasLength] at timestampsLength
  rcases combine_parts context.agentId startsLength timestampsLength length with
    ⟨announced, timestamps, valuesKept, sameAgent⟩
  refine ⟨_, same, ⟨left, ?_⟩, sameAgent, ⟨deltas, between, stepsRead, ?_, timestamps⟩,
    ⟨source, after, ?_⟩⟩
  · rw [announced]
    exact counted
  · exact deltasLength.trans announced.symm
  · rw [announced, valuesKept]
    exact valuesRead

theorem first?_of_read (accepted : read kind context bytes = .ok batch rest) :
    batch.first? = some (context.agentId, context.initialTimestamp) := by
  rcases points_of_read accepted with ⟨points, rfl, -, sameAgent, ⟨steps, -, -, -, timestamps⟩, -⟩
  rw [first?]
  cases points with
  | nil => cases steps <;> cases timestamps
  | cons first others =>
      have begins : first.timestamp = context.initialTimestamp := by
        cases steps <;> exact (List.cons.inj timestamps).1
      rw [List.head?_cons, Option.map_some, sameAgent first List.mem_cons_self, begins]

/-- A batch is read safely from any place of any data. All steps stay in their ranges: no place is
outside its column, no list is cut off where it is paired with another one, no difference of counts
is negative. The reader stops inside the data and not before it began, whether it accepts or
refuses. Columns come back with exactly as many cells as were asked for, and an accepted batch has
exactly the announced number of points, all from the agent of the context and the first at its
timestamp. -/
theorem read_safe (kind : StatKind) (context : BatchContext) (data : Bytes) {offset : Nat}
    (inside : offset ≤ data.length) :
    (guardedRead kind context (data.drop offset) =
        GuardedReader.ofReader (read kind context) (data.drop offset) ∧
      ∀ rest, guardedRead kind context (data.drop offset) ≠ .error .outOfRange rest) ∧
    (∃ stop, offset ≤ stop ∧ stop ≤ data.length ∧
      restOf (read kind context (data.drop offset)) = data.drop stop) ∧
    (∀ (α : Type) (cell : CellFormat α) (count : Nat) (source after : ColumnSource)
      (cells : List α), ColumnReader.column cell count source = .ok cells after →
        cells.length = count) ∧
    ∀ batch rest, read kind context (data.drop offset) = .ok batch rest →
      (∃ left, readCount (data.drop offset) = .ok batch.length left) ∧ batch.kind = kind ∧
      (∀ point ∈ batch.points, point.agentId = context.agentId) ∧
      batch.first? = some (context.agentId, context.initialTimestamp) := by
  refine ⟨⟨congrFun (guardedRead_eq kind context) _, fun rest stopped => ?_⟩, ?_, ?_, ?_⟩
  · rw [guardedRead_eq, GuardedReader.ofReader] at stopped
    split at stopped <;> cases stopped
  · exact exists_restOf_eq_drop (advances_read kind context) data inside
  · exact fun α cell count source after cells columnRead =>
      ColumnReader.yields_column cell count columnRead
  · intro batch rest accepted
    have begins := first?_of_read accepted
    rcases points_of_read accepted with ⟨points, rfl, counted, sameAgent, -, -⟩
    exact ⟨counted, rfl, sameAgent, begins⟩

/-- Three samples behind a foreign byte and in front of one: start times and loaded classes in runs,
unloaded classes as one value. -/
def enclosedBatch : Bytes := [9, 2, 3, 3, 7, 5, 0, 2, 96, 1, 4, 2, 6, 0, 77]

theorem read_safe_enclosedBatch :
    1 ≤ enclosedBatch.length ∧
    ∃ batch, read .loadedClass ⟨"a", 40, 2⟩ (enclosedBatch.drop 1) = .ok batch [77] ∧
      (guardedRead .loadedClass ⟨"a", 40, 2⟩ (enclosedBatch.drop 1) =
        GuardedReader.ofReader (read .loadedClass ⟨"a", 40, 2⟩) (enclosedBatch.drop 1) ∧
      ∃ stop, 1 ≤ stop ∧ stop ≤ enclosedBatch.length ∧
        restOf (read .loadedClass ⟨"a", 40, 2⟩ (enclosedBatch.drop 1)) = enclosedBatch.drop stop) ∧
      (∃ left, readCount (enclosedBatch.drop 1) = .ok batch.length left) ∧
      (∀ point ∈ batch.points, point.agentId = "a") ∧ batch.first? = some ("a", 42) := by
  have inside : 1 ≤ enclosedBatch.length := by decide
  have accepted : ∃ batch, read .loadedClass ⟨"a", 40, 2⟩ (enclosedBatch.drop 1) =
      .ok batch [77] := ⟨_, by cbv⟩
  rcases accepted with ⟨batch, accepted⟩
  rcases read_safe .loadedClass ⟨"a", 40, 2⟩ enclosedBatch inside with
    ⟨⟨same, -⟩, stops, -, complete⟩
  rcases complete batch [77] accepted with ⟨counted, -, sameAgent, begins⟩
  exact ⟨inside, batch, accepted, ⟨same, stops⟩, counted, sameAgent, begins⟩

end StatBatch

end Telemetry.Stat
