import Mathlib
import Telemetry.Proofs.Stat.Strategy

namespace Telemetry.Stat

open Wire

/-! What the analysis of a column promises. The strategy that it picks loses nothing, and no other
one that loses nothing takes fewer bytes. Only a single value for the whole column can lose
something, and it does so exactly where the cells differ. -/

variable {α : Type} {cell : CellFormat α} {cells : List α}

/-- Every cell of the column has a written form. -/
def CellFormat.Writable (cell : CellFormat α) (cells : List α) : Prop :=
  ∀ value ∈ cells, ∃ bytes, cell.put value = .ok bytes

/-! ### Runs -/

section Runs

variable [DecidableEq α]

/-- The values of the runs are those of the cells. -/
theorem exists_mem_runsOf {value : α} :
    (∃ run ∈ runsOf cells, run.2 = value) ↔ value ∈ cells := by
  have expanded := expand_runsOf cells
  have positive := runsOf_pos cells
  constructor
  · rintro ⟨run, member, rfl⟩
    rw [← expanded, expand, List.mem_flatMap]
    exact ⟨run, member, List.mem_replicate.mpr ⟨Nat.ne_of_gt (positive run member), rfl⟩⟩
  · intro member
    rw [← expanded, expand, List.mem_flatMap] at member
    rcases member with ⟨run, member, copy⟩
    exact ⟨run, member, (List.mem_replicate.mp copy).2.symm⟩

/-- The first run is one of the first cell. -/
theorem runsOf_cons (first : α) (others : List α) :
    ∃ length runs, runsOf (first :: others) = (length, first) :: runs := by
  rw [runsOf]
  split
  next length shared runs equal =>
    split
    next same => exact ⟨length + 1, runs, by rw [same]⟩
    next => exact ⟨1, (length, shared) :: runs, rfl⟩
  next => exact ⟨1, [], rfl⟩

end Runs

namespace Strategy

variable {strategy : Strategy} {run : Nat × α} {bytes other : Bytes}

theorem putRun_eq_ok : putRun cell run = .ok bytes ↔
    ∃ value, cell.put run.2 = .ok value ∧ bytes = putCount run.1 ++ value := by
  rw [putRun, bind_eq_ok]
  refine exists_congr fun value => and_congr_right fun _ => ?_
  exact ⟨fun equal => (Except.ok.inj equal).symm, fun equal => equal ▸ rfl⟩

theorem exists_putRun_iff :
    (∃ bytes, putRun cell run = .ok bytes) ↔ ∃ bytes, cell.put run.2 = .ok bytes := by
  simp only [putRun_eq_ok]
  exact ⟨fun ⟨_, value, written, _⟩ => ⟨value, written⟩,
    fun ⟨value, written⟩ => ⟨_, value, written, rfl⟩⟩

/-! ### Which columns can be written -/

section Written

variable [DecidableEq α]

theorem exists_put_iff (applies : strategy.AppliesTo cells) :
    (∃ bytes, strategy.put cell cells = .ok bytes) ↔ cell.Writable cells := by
  cases strategy with
  | plain => exact exists_putEach_iff
  | runs =>
      rw [put, exists_putEach_iff]
      simp only [exists_putRun_iff, CellFormat.Writable, ← exists_mem_runsOf]
      exact ⟨fun writable value ⟨run, member, same⟩ => same ▸ writable run member,
        fun writable run member => writable run.2 ⟨run, member, rfl⟩⟩
  | constant =>
      cases cells with
      | nil => simp [put, putIfPresent, CellFormat.Writable]
      | cons first others =>
          have same := applies rfl
          constructor
          · intro written value member
            rw [same value member first List.mem_cons_self]
            exact written
          · exact fun writable => writable first List.mem_cons_self

/-! ### How long columns are -/

theorem size_eq (written : strategy.put cell cells = .ok bytes) :
    size cell cells strategy = bytes.length := by
  rw [size, written]

/-- Every strategy writes the first cell, so none takes less than that cell alone. -/
theorem length_constant_le (shared : constant.put cell cells = .ok bytes)
    (written : strategy.put cell cells = .ok other) : bytes.length ≤ other.length := by
  cases cells with
  | nil =>
      cases shared
      exact Nat.zero_le _
  | cons first others =>
      cases strategy with
      | plain =>
          rcases bind_eq_ok.mp written with ⟨head, headWritten, written⟩
          rcases bind_eq_ok.mp written with ⟨tail, -, written⟩
          cases headWritten.symm.trans shared
          cases written
          simp
      | runs =>
          rcases runsOf_cons first others with ⟨length, runs, equal⟩
          rw [put, equal] at written
          rcases bind_eq_ok.mp written with ⟨head, headWritten, written⟩
          rcases bind_eq_ok.mp written with ⟨tail, -, written⟩
          rcases putRun_eq_ok.mp headWritten with ⟨value, valueWritten, rfl⟩
          cases valueWritten.symm.trans shared
          cases written
          simp only [List.length_append]
          omega
      | constant =>
          cases shared.symm.trans written
          exact Nat.le_refl _

/-- A column of equal cells is written as its one value, any other one in the shorter of the two
ways that are left. -/
theorem choose_cases (cell : CellFormat α) (cells : List α) :
    constant.AppliesTo cells ∧ choose cell cells = .constant ∨
      ¬ constant.AppliesTo cells ∧ ∀ strategy ≠ constant,
        size cell cells (choose cell cells) ≤ size cell cells strategy := by
  cases cells with
  | nil => exact .inl ⟨by simp [AppliesTo], rfl⟩
  | cons first others =>
      have applies := choose_appliesTo cell (first :: others)
      by_cases same : others.all fun value => value = first
      · have chosen : choose cell (first :: others) = .constant := by rw [choose, if_pos same]
        rw [chosen] at applies
        exact .inl ⟨applies, chosen⟩
      · refine .inr ⟨fun constant => same ?_, fun strategy other => ?_⟩
        · have equal := constant rfl
          simp only [List.all_eq_true, decide_eq_true_eq]
          exact fun value member =>
            equal value (List.mem_cons_of_mem first member) first List.mem_cons_self
        · rw [choose, if_neg same]
          cases strategy <;> split <;> grind

end Written

/-! ### The promise -/

/-- The column can be written in this way and is read back from its bytes, which are used up
exactly, whatever stands behind them. -/
def RoundTrips [DecidableEq α] (strategy : Strategy) (cell : CellFormat α) (cells : List α) :
    Prop :=
  ∃ bytes, strategy.put cell cells = .ok bytes ∧
    Reader.Reads (strategy.read cell cells.length) bytes cells

/-- A reader that starts at these bytes gets the column, wherever it stops. -/
def GivesBack (strategy : Strategy) (cell : CellFormat α) (cells : List α) (bytes : Bytes) : Prop :=
  ∃ behind left, strategy.read cell cells.length (bytes ++ behind) = .ok cells left

theorem RoundTrips.givesBack [DecidableEq α] (roundTrips : strategy.RoundTrips cell cells) :
    ∃ bytes, strategy.put cell cells = .ok bytes ∧ strategy.GivesBack cell cells bytes := by
  rcases roundTrips with ⟨bytes, written, reads⟩
  exact ⟨bytes, written, [], [], reads []⟩

/-- What is read as one value for all cells has no two different cells. -/
theorem GivesBack.appliesTo (gives : strategy.GivesBack cell cells bytes) :
    strategy.AppliesTo cells := by
  rintro rfl
  rcases gives with ⟨behind, left, readBack⟩
  rw [read] at readBack
  split at readBack
  next empty =>
    rw [List.length_eq_zero_iff.mp empty]
    simp
  next =>
    change EStateM.map _ _ _ = _ at readBack
    rw [EStateM.map] at readBack
    split at readBack
    next shared _ _ =>
      injection readBack with copies
      intro value member other otherMember
      rw [← copies] at member otherMember
      rw [(List.mem_replicate.mp member).2, (List.mem_replicate.mp otherMember).2]
    next => cases readBack

variable [DecidableEq α]

theorem roundTrips_iff (faithful : cell.Faithful) (fits : cells.length < 2 ^ 32)
    (writable : cell.Writable cells) :
    strategy.RoundTrips cell cells ↔ strategy.AppliesTo cells := by
  constructor
  · intro roundTrips
    rcases roundTrips.givesBack with ⟨bytes, -, gives⟩
    exact gives.appliesTo
  · intro applies
    rcases (exists_put_iff applies).mpr writable with ⟨bytes, written⟩
    exact ⟨bytes, written, reads_put faithful fits applies written⟩

theorem length_choose_le (chosen : (choose cell cells).put cell cells = .ok bytes)
    (written : strategy.put cell cells = .ok other) (applies : strategy.AppliesTo cells) :
    bytes.length ≤ other.length := by
  rcases choose_cases cell cells with ⟨-, single⟩ | ⟨differs, shortest⟩
  · rw [single] at chosen
    exact length_constant_le chosen written
  · have several : strategy ≠ .constant := by
      rintro rfl
      exact differs applies
    rw [← size_eq chosen, ← size_eq written]
    exact shortest strategy several

/-- What the analysis of a column promises. -/
structure Analyzed (cell : CellFormat α) (cells : List α) : Prop where
  lossless : (choose cell cells).RoundTrips cell cells
  /-- No strategy that gives the column back takes fewer bytes. -/
  shortest : ∀ (strategy : Strategy) (chosen other : Bytes),
    (choose cell cells).put cell cells = .ok chosen → strategy.put cell cells = .ok other →
    strategy.GivesBack cell cells other → chosen.length ≤ other.length
  plain_roundTrips : Strategy.plain.RoundTrips cell cells
  runs_roundTrips : Strategy.runs.RoundTrips cell cells
  /-- One value for all cells does for equal cells, and for no cells. -/
  constant_roundTrips_iff : Strategy.constant.RoundTrips cell cells ↔
    ∀ value ∈ cells, ∀ other ∈ cells, value = other

theorem analyzed (faithful : cell.Faithful) (fits : cells.length < 2 ^ 32)
    (writable : cell.Writable cells) : Analyzed cell cells where
  lossless := (roundTrips_iff faithful fits writable).mpr (choose_appliesTo cell cells)
  shortest := fun _ _ _ chosen written gives => length_choose_le chosen written gives.appliesTo
  plain_roundTrips := (roundTrips_iff faithful fits writable).mpr (nomatch ·)
  runs_roundTrips := (roundTrips_iff faithful fits writable).mpr (nomatch ·)
  constant_roundTrips_iff := (roundTrips_iff faithful fits writable).trans (forall_prop_of_true rfl)

/-- In each of the three formats the chosen strategy loses nothing and is the shortest of those that
lose nothing. Numbers can always be written, texts unless they are too long. -/
theorem choose_lossless_shortest :
    (∀ cells : List Int64, cells.length < 2 ^ 32 → Analyzed .unsigned cells) ∧
    (∀ cells : List Int64, cells.length < 2 ^ 32 → Analyzed .signed cells) ∧
    ∀ cells : List (Option String), cells.length < 2 ^ 32 →
      (∀ text ∈ cells, ∃ bytes, putOptionalText text = .ok bytes) → Analyzed .text cells := by
  refine ⟨fun cells fits => ?_, fun cells fits => ?_, fun cells fits writable => ?_⟩
  · exact analyzed CellFormat.faithful_unsigned fits fun _ _ => ⟨_, rfl⟩
  · exact analyzed CellFormat.faithful_signed fits fun _ _ => ⟨_, rfl⟩
  · exact analyzed CellFormat.faithful_text fits writable

/-- An absent text, an empty one and a repeated one. -/
def mixedTexts : List (Option String) := [none, some "", some "db", some "db", some "db"]

theorem choose_lossless_shortest_mixedTexts :
    mixedTexts.length < 2 ^ 32 ∧ (∀ text ∈ mixedTexts, ∃ bytes, putOptionalText text = .ok bytes) ∧
      choose .text mixedTexts = .runs ∧ Analyzed .text mixedTexts := by
  have writable : ∀ text ∈ mixedTexts, ∃ bytes, putOptionalText text = .ok bytes := by
    simp only [mixedTexts, List.forall_mem_cons, List.not_mem_nil, false_imp_iff, implies_true,
      and_true]
    exact ⟨⟨_, rfl⟩, ⟨_, rfl⟩, ⟨_, rfl⟩, ⟨_, rfl⟩, ⟨_, rfl⟩⟩
  exact ⟨by decide, writable, by cbv, choose_lossless_shortest.2.2 mixedTexts (by decide) writable⟩

end Strategy

end Telemetry.Stat
