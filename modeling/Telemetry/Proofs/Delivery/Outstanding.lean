import Telemetry.Proofs.Delivery.Timer

namespace Telemetry.Delivery.Timer

/-! How many timeouts of some sort a timer still has to run. A timeout that came due has left the
wheel before it is run, so the due ones are kept beside the timer. -/

variable {τ : Type} {counted : τ → Bool} {timer after : Timer τ} {due dueAfter : List (Entry τ)}

/-- The pending timeouts with a counted task, on the wheel or due. -/
def outstanding (counted : τ → Bool) (timer : Timer τ) (due : List (Entry τ)) : Nat :=
  (timer.entries ++ due).countP fun entry => counted entry.task && timer.isPending entry.id

theorem outstanding_of_emptied (emptied : timer.entries = []) :
    timer.outstanding counted [] = 0 := by
  rw [outstanding, emptied]
  rfl

/-- Every timeout is in one place only and has its own status. -/
structure Consistent (timer : Timer τ) (due : List (Entry τ)) : Prop where
  wheel : 0 < timer.buckets.size
  known : ∀ entry ∈ timer.entries ++ due, entry.id < timer.statuses.size
  unique : ((timer.entries ++ due).map Entry.id).Nodup
  emptied : timer.stopped = true → timer.entries = []

/-- An id that no counted timeout has or will have. -/
def Exempt (counted : τ → Bool) (timer : Timer τ) (due : List (Entry τ)) (id : Nat) : Prop :=
  id < timer.statuses.size ∧
    ∀ entry ∈ timer.entries ++ due, entry.id = id → counted entry.task = false

/-- What every operation keeps, whoever uses the timer. -/
structure Carries (counted : τ → Bool) (before : Timer τ) (due : List (Entry τ))
    (after : Timer τ) (dueAfter : List (Entry τ)) : Prop where
  consistent : after.Consistent dueAfter
  exempt : ∀ id, before.Exempt counted due id → after.Exempt counted dueAfter id
  stopped : before.stopped = true → after.stopped = true

theorem Carries.refl (counted : τ → Bool) (consistent : timer.Consistent due) :
    Carries counted timer due timer due :=
  ⟨consistent, fun _ exempt => exempt, fun stopped => stopped⟩

theorem consistent_start (tick : Nanos) (wheelSize maxPending : Nat) :
    (start tick wheelSize maxPending : Timer τ).Consistent [] := by
  refine ⟨?_, ?_, ?_, nofun⟩
  · rw [start, Array.size_replicate]
    exact Nat.lt_of_lt_of_le Nat.zero_lt_one (Nat.le_max_right _ _)
  · simp [entries_start]
  · simp [entries_start]

/-- Timeouts that only change places or go. -/
theorem Consistent.of_subperm (consistent : timer.Consistent due) (gone : List (Entry τ))
    (places : (timer.entries ++ due).Perm (after.entries ++ dueAfter ++ gone))
    (size : after.statuses.size = timer.statuses.size)
    (wheel : after.buckets.size = timer.buckets.size)
    (stopped : timer.stopped = true → after.stopped = true)
    (emptied : after.stopped = true → after.entries = []) :
    Carries counted timer due after dueAfter := by
  have from_before : ∀ entry ∈ after.entries ++ dueAfter, entry ∈ timer.entries ++ due :=
    fun entry member => places.mem_iff.mpr (List.mem_append_left gone member)
  refine ⟨⟨wheel ▸ consistent.wheel, ?_, ?_, emptied⟩, fun id exempt => ⟨size ▸ exempt.1, ?_⟩,
    stopped⟩
  · intro entry member
    rw [size]
    exact consistent.known entry (from_before entry member)
  · have unique := (places.map Entry.id).nodup_iff.mp consistent.unique
    rw [List.map_append] at unique
    exact (List.nodup_append.mp unique).1
  · exact fun entry member => exempt.2 entry (from_before entry member)

/-! ### Scheduling -/

theorem schedule_carries (counted : τ → Bool) {delay : Nanos} {task : τ} {id : Nat}
    (consistent : timer.Consistent due)
    (scheduled : timer.schedule delay task = .ok (id, after)) :
    Carries counted timer due after due ∧
      after.outstanding counted due = timer.outstanding counted due + (counted task).toNat ∧
      (counted task = false → after.Exempt counted due id) := by
  rcases schedule_eq_ok consistent.wheel scheduled with
    ⟨rfl, running, runningAfter, pushed, wheel, deadline, places⟩
  have places := places.append_right due
  rw [List.cons_append] at places
  have size : after.statuses.size = timer.statuses.size + 1 := by rw [pushed, Array.size_push]
  -- Ids are handed out in order, so no timeout has the new one.
  have fresh : ∀ entry ∈ timer.entries ++ due, entry.id ≠ timer.statuses.size :=
    fun entry member => Nat.ne_of_lt (consistent.known entry member)
  refine ⟨⟨⟨wheel ▸ consistent.wheel, ?_, ?_, ?_⟩, ?_, ?_⟩, ?_, ?_⟩
  · intro entry member
    rw [size]
    cases places.mem_iff.mp member with
    | head => exact Nat.lt_succ_self _
    | tail _ member => exact Nat.lt_succ_of_lt (consistent.known entry member)
  · rw [(places.map Entry.id).nodup_iff, List.map_cons, List.nodup_cons]
    refine ⟨fun member => ?_, consistent.unique⟩
    rcases List.mem_map.mp member with ⟨entry, member, same⟩
    exact fresh entry member same
  · intro stopped
    rw [stopped] at runningAfter
    cases runningAfter
  · intro id exempt
    refine ⟨size ▸ Nat.lt_succ_of_lt exempt.1, fun entry member same => ?_⟩
    cases places.mem_iff.mp member with
    | head => exact absurd same.symm (Nat.ne_of_lt exempt.1)
    | tail _ member => exact exempt.2 entry member same
  · intro stopped
    rw [stopped] at running
    cases running
  · rw [outstanding, places.countP_eq, List.countP_cons, isPending_push _ pushed]
    have others : (timer.entries ++ due).countP
          (fun entry => counted entry.task && after.isPending entry.id) =
        timer.outstanding counted due := by
      apply List.countP_congr
      intro entry member
      rw [isPending_push _ pushed]
      simp [fresh entry member]
    rw [others]
    cases counted task <;> simp
  · intro other
    refine ⟨size ▸ Nat.lt_succ_self _, fun entry member same => ?_⟩
    cases places.mem_iff.mp member with
    | head => exact other
    | tail _ member => exact absurd same (fresh entry member)

/-! ### Settling -/

theorem Settles.carries {ids : List Nat} (consistent : timer.Consistent due)
    (settles : Settles timer ids after) : Carries counted timer due after due := by
  refine consistent.of_subperm [] ?_ settles.size settles.wheel settles.stopped.trans
    fun stopped => ?_
  · rw [settles.entries, List.append_nil]
  · rw [settles.stopped] at stopped
    rw [settles.entries, consistent.emptied stopped]

/-- Cancelling what is not counted changes no count. -/
theorem outstanding_settles {id : Nat} (exempt : timer.Exempt counted due id)
    (settles : Settles timer [id] after) :
    after.outstanding counted due = timer.outstanding counted due := by
  rw [outstanding, outstanding, settles.entries]
  apply List.countP_congr
  intro entry member
  rw [settles.isPending]
  by_cases same : entry.id = id
  · simp [exempt.2 entry member same]
  · simp [same]

/-- A due timeout is claimed: it counts no longer, and it is run if it was pending. -/
theorem expire_carries (counted : τ → Bool) {entry : Entry τ}
    (consistent : timer.Consistent (entry :: due)) :
    Carries counted timer (entry :: due) (timer.expire entry.id).2 due ∧
      timer.outstanding counted (entry :: due) =
        (timer.expire entry.id).2.outstanding counted due +
          ((timer.expire entry.id).1 && counted entry.task).toNat := by
  have settles : Settles timer [entry.id] (timer.expire entry.id).2 :=
    settle_settles timer entry.id nofun
  have front : (timer.entries ++ entry :: due).Perm (entry :: (timer.entries ++ due)) :=
    List.perm_middle
  have won : (timer.expire entry.id).1 = timer.isPending entry.id := by
    rw [expire, settle]
    split <;> simp [*]
  have unique := (front.map Entry.id).nodup_iff.mp consistent.unique
  rw [List.map_cons, List.nodup_cons] at unique
  constructor
  · refine consistent.of_subperm [entry] ?_ settles.size settles.wheel settles.stopped.trans
      fun stopped => ?_
    · rw [settles.entries]
      exact front.trans (List.perm_append_singleton entry _).symm
    · rw [settles.stopped] at stopped
      rw [settles.entries, consistent.emptied stopped]
  · have others : (timer.entries ++ due).countP
          (fun other => counted other.task && timer.isPending other.id) =
        (timer.expire entry.id).2.outstanding counted due := by
      rw [outstanding, settles.entries]
      apply List.countP_congr
      intro other member
      have different : other.id ≠ entry.id :=
        fun same => unique.1 (same ▸ List.mem_map_of_mem member)
      rw [settles.isPending]
      simp [different]
    rw [outstanding, front.countP_eq, List.countP_cons, others, won, Bool.and_comm]
    cases timer.isPending entry.id && counted entry.task <;> rfl

/-! ### Collecting and stopping -/

/-- What is collected joins the due timeouts, and only timeouts that have ended are forgotten. -/
theorem collectDue_places (wheel : 0 < timer.buckets.size) (due : List (Entry τ)) :
    ∃ ended, (timer.entries ++ due).Perm
        (timer.collectDue.2.entries ++ (due ++ timer.collectDue.1) ++ ended) ∧
      ∀ entry ∈ ended, timer.isPending entry.id = false := by
  rcases collectDue_perm wheel with ⟨ended, places, settled⟩
  refine ⟨ended, (places.append_right due).trans ?_, settled⟩
  apply ((List.perm_append_comm.append_right ended).append_right due).trans
  simp only [List.append_assoc]
  refine .append_left _ ?_
  rw [← List.append_assoc]
  exact List.perm_append_comm

theorem collectDue_carries (counted : τ → Bool) (consistent : timer.Consistent due) :
    Carries counted timer due timer.collectDue.2 (due ++ timer.collectDue.1) ∧
      timer.collectDue.2.outstanding counted (due ++ timer.collectDue.1) =
        timer.outstanding counted due := by
  rcases collectDue_places consistent.wheel due with ⟨ended, placesDue, settled⟩
  constructor
  · refine consistent.of_subperm ended placesDue rfl Array.size_setIfInBounds
      (fun stopped => stopped) fun stopped => ?_
    rcases collectDue_perm consistent.wheel with ⟨_, places, -⟩
    rw [consistent.emptied stopped] at places
    have parts := places.symm.eq_nil
    exact (List.append_eq_nil_iff.mp (List.append_eq_nil_iff.mp parts).1).2
  · have forgotten : ended.countP
        (fun entry => counted entry.task && timer.isPending entry.id) = 0 := by
      apply List.countP_eq_zero.mpr
      intro entry member
      simp [settled entry member]
    simp only [outstanding, placesDue.countP_eq, List.countP_append, forgotten, Nat.add_zero]
    rfl

theorem stop_places (timer : Timer τ) (due : List (Entry τ)) :
    ∃ cancelled, (timer.entries ++ due).Perm (timer.stop.2.entries ++ due ++ cancelled) := by
  cases stopped : timer.stopped with
  | true =>
      rw [stop_of_stopped stopped]
      exact ⟨[], by rw [List.append_nil]⟩
  | false =>
      rcases stop_settles stopped with ⟨emptied, none, -, -, -, settles⟩
      rw [settles.entries, none, List.nil_append]
      exact ⟨timer.entries, List.perm_append_comm⟩

theorem stop_carries (counted : τ → Bool) (consistent : timer.Consistent due) :
    Carries counted timer due timer.stop.2 due ∧ timer.stop.2.stopped = true ∧
      timer.outstanding counted due =
        timer.outstanding counted [] + timer.stop.2.outstanding counted due := by
  cases stopped : timer.stopped with
  | true =>
      rw [stop_of_stopped stopped]
      refine ⟨.refl counted consistent, stopped, ?_⟩
      rw [outstanding, outstanding, consistent.emptied stopped]
      simp
  | false =>
      rcases stop_settles stopped with ⟨emptied, none, ended, statuses, wheel, settles⟩
      have noEntries : timer.stop.2.entries = [] := settles.entries.trans none
      refine ⟨?_, settles.stopped.trans ended, ?_⟩
      · refine consistent.of_subperm timer.entries ?_ ?_ (settles.wheel.trans wheel)
          (fun _ => settles.stopped.trans ended) fun _ => noEntries
        · rw [noEntries]
          exact List.perm_append_comm
        · rw [settles.size, statuses]
      · -- Stopping cancels by id, and no due timeout shares its id with one on the wheel.
        have others : due.countP
              (fun entry => counted entry.task && timer.stop.2.isPending entry.id) =
            due.countP fun entry => counted entry.task && timer.isPending entry.id := by
          apply List.countP_congr
          intro entry member
          have unique := consistent.unique
          rw [List.map_append, List.nodup_append] at unique
          have different : entry.id ∉ timer.entries.map Entry.id := fun onWheel =>
            unique.2.2 _ onWheel _ (List.mem_map_of_mem member) rfl
          have same : emptied.isPending entry.id = timer.isPending entry.id := by
            rw [isPending, isPending, statuses]
          rw [settles.isPending, same]
          simp [different]
        rw [outstanding, outstanding, outstanding, noEntries, List.countP_append,
          List.append_nil, List.nil_append, others]

end Telemetry.Delivery.Timer
