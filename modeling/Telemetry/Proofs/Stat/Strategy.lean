import Telemetry.Proofs.Wire.Sequence
import Telemetry.Stat.Strategy

namespace Telemetry.Stat

open Wire

/-! Reading back columns. Each strategy is lossless on the columns it applies to, and the chosen
one always applies. -/

/-! ### Cells -/

namespace CellFormat

variable {α : Type}

/-- The format reads back what it writes. -/
def Faithful (cell : CellFormat α) : Prop := ReadsBack cell.put cell.read

theorem faithful_unsigned : Faithful unsigned := by
  intro value bytes written
  cases written
  exact (Reader.reads_vlong value.toUInt64).map fun value => value.toInt64

theorem faithful_signed : Faithful signed := by
  intro value bytes written
  cases written
  exact Reader.reads_svlong value

theorem faithful_text : Faithful text := Reader.readsBack_optionalText

end CellFormat

/-! ### Runs -/

/-- The cells that runs stand for. -/
def expand {α : Type} (runs : List (Nat × α)) : List α :=
  runs.flatMap fun run => List.replicate run.1 run.2

section Runs

variable {α : Type} [DecidableEq α]

theorem expand_runsOf (cells : List α) : expand (runsOf cells) = cells := by
  induction cells with
  | nil => rfl
  | cons value values induction =>
      rw [runsOf]
      split
      next length shared others runs =>
        rw [runs] at induction
        by_cases same : value = shared
        · rw [if_pos same, ← induction, same]
          simp [expand, List.replicate_succ]
        · rw [if_neg same, ← induction]
          simp [expand]
      next runs =>
        rw [runs] at induction
        rw [← induction]
        rfl

/-- A run holds at least one cell. -/
theorem runsOf_pos (cells : List α) : ∀ run ∈ runsOf cells, 0 < run.1 := by
  induction cells with
  | nil => simp [runsOf]
  | cons value values induction =>
      rw [runsOf]
      split
      next length shared others runs =>
        rw [runs] at induction
        split <;> grind
      next runs => simp

end Runs

namespace Strategy

variable {α : Type} {cell : CellFormat α}

/-- The reader fills what is left of the column run by run; the count it was given only shows in
its errors. -/
theorem reads_runs (faithful : cell.Faithful) {runs : List (Nat × α)} {bytes : Bytes} (count : Nat)
    (positive : ∀ run ∈ runs, 0 < run.1) (fits : (expand runs).length < 2 ^ 32)
    (written : putEach (putRun cell) runs = .ok bytes) :
    Reader.Reads (readRuns cell count (expand runs).length) bytes (expand runs) := by
  induction runs generalizing bytes with
  | nil =>
      cases written
      rw [expand, List.flatMap_nil, List.length_nil, readRuns]
      exact Reader.Reads.pure []
  | cons run runs induction =>
      rcases bind_eq_ok.mp written with ⟨first, firstWritten, written⟩
      rcases bind_eq_ok.mp written with ⟨others, othersWritten, written⟩
      rcases bind_eq_ok.mp firstWritten with ⟨value, valueWritten, firstWritten⟩
      cases written
      cases firstWritten
      have headPositive := positive run List.mem_cons_self
      have parts : expand (run :: runs) = List.replicate run.1 run.2 ++ expand runs := rfl
      have total : (expand (run :: runs)).length = run.1 + (expand runs).length := by
        rw [parts, List.length_append, List.length_replicate]
      -- Cells are left to be read, which is where `readRuns` takes a run off the bytes.
      have some : ∃ left, (expand (run :: runs)).length = left + 1 :=
        ⟨run.1 + (expand runs).length - 1, by omega⟩
      rcases some with ⟨left, leftEqual⟩
      have announced : (UInt32.ofNat run.1).toNat = run.1 := toNat_count (by omega)
      have inside : ¬ (run.1 = 0 ∨ left + 1 < run.1) := by omega
      have missing : left + 1 - run.1 = (expand runs).length := by omega
      have tailReads := induction (fun run member => positive run (List.mem_cons_of_mem _ member))
        (by omega) othersWritten
      rw [leftEqual, readRuns, List.append_assoc]
      apply (Reader.reads_count run.1).bind
      rw [announced, dif_neg inside, missing]
      apply (faithful run.2 value valueWritten).bind
      exact tailReads.bind_pure

/-- What a strategy needs to lose nothing: only one value for a whole column asks for something. -/
def AppliesTo (strategy : Strategy) (cells : List α) : Prop :=
  strategy = .constant → ∀ value ∈ cells, ∀ other ∈ cells, value = other

theorem runs_appliesTo (cells : List α) : runs.AppliesTo cells := fun equal => nomatch equal

theorem choose_appliesTo [DecidableEq α] (cell : CellFormat α) (cells : List α) :
    (choose cell cells).AppliesTo cells := by
  cases cells with
  | nil => simp [AppliesTo]
  | cons first others =>
      rw [choose]
      split
      next same =>
        intro _ value member other otherMember
        simp only [List.all_eq_true, decide_eq_true_eq] at same
        grind
      next => split <;> exact fun equal => nomatch equal

theorem reads_put [DecidableEq α] (faithful : cell.Faithful) {cells : List α} {bytes : Bytes}
    (fits : cells.length < 2 ^ 32) {strategy : Strategy} (applies : strategy.AppliesTo cells)
    (written : strategy.put cell cells = .ok bytes) :
    Reader.Reads (strategy.read cell cells.length) bytes cells := by
  cases strategy with
  | plain => exact Reader.reads_many faithful written
  | runs =>
      have reads := reads_runs faithful cells.length (runsOf_pos cells)
        (by rwa [expand_runsOf]) written
      rwa [expand_runsOf] at reads
  | constant =>
      cases cells with
      | nil =>
          cases written
          exact Reader.Reads.pure []
      | cons first others =>
          have same := applies rfl
          have copies : List.replicate (first :: others).length first = first :: others :=
            (List.eq_replicate_iff.mpr ⟨rfl, fun value member =>
              same value member first List.mem_cons_self⟩).symm
          have reads := (faithful first bytes written).map
            fun value => List.replicate (first :: others).length value
          rwa [copies] at reads

end Strategy

end Telemetry.Stat
