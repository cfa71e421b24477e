import Telemetry.Proofs.Delivery.Timer

namespace Telemetry.Delivery.Timer

/-! Where on its wheel a timer keeps a timeout, and how many timeouts it holds pending. An advance
only looks into the bucket of the new tick, so a timeout comes due on time because it is in the
bucket of its deadline. -/

variable {τ : Type} {timer after : Timer τ} {entry : Entry τ}

/-! ### Deadlines -/

/-- How many whole ticks a timeout with the given delay waits. -/
def wait (tick delay : Nanos) : Nat := max ((delay + tick - 1) / tick) 1

/-- The fewest ticks that cover the delay, but at least one. -/
theorem wait_le_iff {tick delay : Nat} (positive : 0 < tick) (count : Nat) :
    wait tick delay ≤ count ↔ 1 ≤ count ∧ delay ≤ count * tick := by
  have covered : (delay + tick - 1) / tick ≤ count ↔ delay ≤ count * tick := by
    rw [← Nat.lt_succ_iff, Nat.div_lt_iff_lt_mul positive, Nat.succ_mul]
    omega
  rw [wait, Nat.max_le, covered, And.comm]

theorem schedule_iff {delay : Nanos} {task : τ} {id : Nat} :
    timer.schedule delay task = .ok (id, after) ↔
      timer.stopped = false ∧ timer.pending < timer.maxPending ∧ id = timer.statuses.size ∧
        after = { timer with
          buckets := timer.buckets.modify
            (timer.bucketOf (min (timer.ticks + wait timer.tick delay) maxTick))
            (· ++ [⟨id, min (timer.ticks + wait timer.tick delay) maxTick, task⟩])
          statuses := timer.statuses.push .pending
          pending := timer.pending + 1 } := by
  have deadline : min (timer.ticks + timer.ticksOf delay) maxTick =
      min (timer.ticks + wait timer.tick delay) maxTick := by
    rw [ticksOf, wait]
    omega
  rw [schedule, deadline]
  split
  next stopped => simp [stopped]
  next running =>
    split
    next full => simp [Nat.not_lt.mpr full]
    next room =>
      simp only [Except.ok.injEq, Prod.mk.injEq, Bool.eq_false_iff.mpr running,
        Nat.not_le.mp room, true_and]
      grind

/-! ### Places -/

/-- Every timeout is in the bucket of its deadline. -/
def Placed (timer : Timer τ) : Prop :=
  ∀ place, ∀ entry ∈ timer.buckets.getD place [], timer.bucketOf entry.deadline = place

theorem mem_entries_iff : entry ∈ timer.entries ↔ ∃ place, entry ∈ timer.buckets.getD place [] := by
  simp only [entries, List.mem_flatten, Array.mem_toList_iff, Array.mem_iff_getElem,
    Array.getD_eq_getD_getElem?]
  constructor
  · rintro ⟨bucket, ⟨place, inside, rfl⟩, member⟩
    exact ⟨place, by simpa [inside] using member⟩
  · rintro ⟨place, member⟩
    by_cases inside : place < timer.buckets.size
    · exact ⟨_, ⟨place, inside, rfl⟩, by simpa [inside] using member⟩
    · simp [inside] at member

theorem placed_of_emptied (emptied : timer.entries = []) : timer.Placed := by
  intro place entry member
  have none := mem_entries_iff.mpr ⟨place, member⟩
  rw [emptied] at none
  cases none

theorem placed_start (tick : Nanos) (wheelSize maxPending : Nat) :
    (start tick wheelSize maxPending : Timer τ).Placed :=
  placed_of_emptied (entries_start tick wheelSize maxPending)

theorem placed_schedule {delay : Nanos} {task : τ} {id : Nat} (placed : timer.Placed)
    (scheduled : timer.schedule delay task = .ok (id, after)) : after.Placed := by
  rcases schedule_iff.mp scheduled with ⟨-, -, rfl, rfl⟩
  intro place entry member
  simp only [Array.getD_eq_getD_getElem?, Array.getElem?_modify] at member
  rw [bucketOf, Array.size_modify]
  split at member
  next same =>
    cases held : timer.buckets[place]? with
    | none => simp [held] at member
    | some bucket =>
        simp only [held, Option.map_some, Option.getD_some, List.mem_append,
          List.mem_singleton] at member
        rcases member with old | rfl
        · exact placed place entry (by simpa [held] using old)
        · exact same
  next other => exact placed place entry (by simpa using member)

theorem mem_entries_schedule {delay : Nanos} {task : τ} {id : Nat} (wheel : 0 < timer.buckets.size)
    (scheduled : timer.schedule delay task = .ok (id, after)) (entry : Entry τ) :
    entry ∈ after.entries ↔
      entry = ⟨id, min (timer.ticks + wait timer.tick delay) maxTick, task⟩ ∨
        entry ∈ timer.entries := by
  let deadline := min (timer.ticks + wait timer.tick delay) maxTick
  have inside : timer.bucketOf deadline < timer.buckets.size := Nat.mod_lt deadline wheel
  have bucket (place : Nat) : entry ∈ after.buckets.getD place [] ↔
      (place = timer.bucketOf deadline ∧ entry = ⟨id, deadline, task⟩) ∨
        entry ∈ timer.buckets.getD place [] := by
    rcases schedule_iff.mp scheduled with ⟨-, -, -, rfl⟩
    simp only [Array.getD_eq_getD_getElem?, Array.getElem?_modify]
    split
    next same =>
      rw [← same, Array.getElem?_eq_getElem inside]
      simp [deadline, or_comm]
    next other => simp [deadline, Ne.symm other]
  rw [mem_entries_iff, mem_entries_iff]
  simp only [bucket]
  constructor
  · rintro ⟨place, ⟨-, new⟩ | old⟩
    · exact .inl new
    · exact .inr ⟨place, old⟩
  · rintro (new | ⟨place, old⟩)
    · exact ⟨_, .inl ⟨rfl, new⟩⟩
    · exact ⟨place, .inr old⟩

/-- In the bucket of the new tick only later deadlines are left, and all other buckets stay. -/
theorem mem_bucket_collectDue {place : Nat}
    (member : entry ∈ timer.collectDue.2.buckets.getD place []) :
    entry ∈ timer.buckets.getD place [] ∧
      (timer.bucketOf (timer.ticks + 1) = place → timer.ticks + 1 < entry.deadline) := by
  simp only [collectDue, List.partition_eq_filter_filter, Array.getD_eq_getD_getElem?,
    Array.getElem?_setIfInBounds] at member ⊢
  split at member
  next same =>
    split at member
    next inside =>
      simp only [Option.getD_some, List.mem_filter] at member
      exact ⟨same ▸ member.1.1, fun _ => by simpa using member.2⟩
    next => simp at member
  next other => exact ⟨member, fun same => absurd same other⟩

theorem placed_collectDue (placed : timer.Placed) : timer.collectDue.2.Placed := by
  intro place entry member
  have kept := placed place entry (mem_bucket_collectDue member).1
  rwa [bucketOf, collectDue, Array.size_setIfInBounds]

/-- What comes due is what has its deadline at the new tick, or had it before. -/
theorem deadline_le_of_mem_collectDue (due : entry ∈ timer.collectDue.1) :
    entry.deadline ≤ timer.ticks + 1 := by
  simp only [collectDue, List.partition_eq_filter_filter] at due
  simpa using (List.mem_filter.mp due).2

theorem deadline_ne_of_mem_collectDue (placed : timer.Placed)
    (left : entry ∈ timer.collectDue.2.entries) : entry.deadline ≠ timer.ticks + 1 := by
  rcases mem_entries_iff.mp left with ⟨place, member⟩
  intro same
  rcases mem_bucket_collectDue member with ⟨member, later⟩
  have above := later (same ▸ placed place entry member)
  omega

/-! ### Turning -/

/-- All that is on the wheel is due by `bound`, and since then its bucket has not come round. -/
def Unvisited (timer : Timer τ) (bound : Nat) : Prop :=
  ∀ place, ∀ entry ∈ timer.buckets.getD place [], entry.deadline ≤ bound ∧
    ∀ tick, bound ≤ tick → tick ≤ timer.ticks → timer.bucketOf tick ≠ place

theorem exists_unvisited (timer : Timer τ) : ∃ bound, timer.Unvisited bound := by
  let deadlines := timer.entries.map Entry.deadline
  refine ⟨max (deadlines.max?.getD 0) (timer.ticks + 1), fun place entry member => ⟨?_, ?_⟩⟩
  · have listed : entry.deadline ∈ deadlines :=
      List.mem_map_of_mem (mem_entries_iff.mpr ⟨place, member⟩)
    exact Nat.le_trans (List.le_max?_getD_of_mem listed) (Nat.le_max_left _ _)
  · omega

theorem Unvisited.of_same {bound : Nat} (unvisited : timer.Unvisited bound)
    (buckets : after.buckets = timer.buckets) (ticks : after.ticks = timer.ticks) :
    after.Unvisited bound := by
  simp only [Unvisited, bucketOf, buckets, ticks]
  exact unvisited

theorem unvisited_collectDue {bound : Nat} (unvisited : timer.Unvisited bound) :
    timer.collectDue.2.Unvisited bound := by
  intro place entry member
  rcases mem_bucket_collectDue member with ⟨before, later⟩
  rcases unvisited place entry before with ⟨due, away⟩
  refine ⟨due, fun tick since reached => ?_⟩
  rw [bucketOf, collectDue, Array.size_setIfInBounds]
  intro same
  by_cases new : tick = timer.ticks + 1
  · have left := later (new ▸ same)
    omega
  · exact away tick since (Nat.le_of_lt_succ (Nat.lt_of_le_of_ne reached new)) same

/-- By the end of a whole turn every bucket has come round. -/
theorem entries_of_unvisited {bound : Nat} (unvisited : timer.Unvisited bound)
    (turned : timer.buckets.size * (bound + 1) ≤ timer.ticks) : timer.entries = [] := by
  rw [List.eq_nil_iff_forall_not_mem]
  intro entry member
  rcases mem_entries_iff.mp member with ⟨place, member⟩
  have inside : place < timer.buckets.size := by
    refine Nat.lt_of_not_le fun outside => ?_
    simp [Array.getD_eq_getD_getElem?, outside] at member
  rw [Nat.mul_succ] at turned
  apply (unvisited place entry member).2 (place + timer.buckets.size * bound)
  · have whole : 1 * bound ≤ timer.buckets.size * bound := Nat.mul_le_mul_right bound (by omega)
    omega
  · omega
  · rw [bucketOf, Nat.add_mul_mod_self_left, Nat.mod_eq_of_lt inside]

/-! ### Pending timeouts -/

/-- The counter of pending timeouts is right. -/
def Counted (timer : Timer τ) : Prop :=
  timer.pending = (List.range timer.statuses.size).countP timer.isPending

theorem lt_of_isPending {id : Nat} (waiting : timer.isPending id = true) :
    id < timer.statuses.size := by
  simp only [isPending, decide_eq_true_eq] at waiting
  exact (Array.getElem?_eq_some_iff.mp waiting).1

theorem counted_start (tick : Nanos) (wheelSize maxPending : Nat) :
    (start tick wheelSize maxPending : Timer τ).Counted := rfl

theorem counted_schedule {delay : Nanos} {task : τ} {id : Nat} (counted : timer.Counted)
    (scheduled : timer.schedule delay task = .ok (id, after)) :
    after.Counted ∧ after.pending ≤ timer.maxPending := by
  rcases schedule_iff.mp scheduled with ⟨-, room, -, same⟩
  have more : after.pending = timer.pending + 1 := by rw [same]
  have pushed : after.statuses = timer.statuses.push .pending := by rw [same]
  refine ⟨?_, more ▸ room⟩
  have others : (List.range timer.statuses.size).countP after.isPending =
      (List.range timer.statuses.size).countP timer.isPending := by
    apply List.countP_congr
    intro other member
    have known : other ≠ timer.statuses.size := Nat.ne_of_lt (List.mem_range.mp member)
    rw [isPending_push other pushed]
    simp [known]
  have new : after.isPending timer.statuses.size = true := by simp [isPending, pushed]
  rw [Counted, more, counted, pushed, Array.size_push, List.range_succ, List.countP_append, others,
    List.countP_singleton, if_pos new]

theorem fst_settle (timer : Timer τ) (id : Nat) (status : TimeoutStatus) :
    (timer.settle id status).1 = timer.isPending id := by
  rw [settle]
  split <;> simp [*]

theorem settle_of_ended {id : Nat} (ended : timer.isPending id = false) (status : TimeoutStatus) :
    timer.settle id status = (false, timer) := by
  rw [settle, ended, if_neg Bool.false_ne_true]

/-- One that holds no more makes one less. -/
theorem countP_without {items : List Nat} {holds : Nat → Bool} {id : Nat} (nodup : items.Nodup)
    (member : id ∈ items) (held : holds id = true) :
    items.countP (fun other => holds other && !([id].contains other)) + 1 = items.countP holds := by
  have split := List.perm_cons_erase member
  have others : (items.erase id).countP (fun other => holds other && !([id].contains other)) =
      (items.erase id).countP holds := by
    apply List.countP_congr
    intro other left
    have different : other ≠ id := ((List.Nodup.mem_erase_iff nodup).mp left).1
    simp [different]
  rw [split.countP_eq, split.countP_eq, List.countP_cons, List.countP_cons, others]
  simp [held]

theorem counted_settle (counted : timer.Counted) (id : Nat) {status : TimeoutStatus}
    (settled : status ≠ .pending) :
    (timer.settle id status).2.Counted ∧
      (timer.settle id status).2.pending + (timer.isPending id).toNat = timer.pending := by
  have settles := settle_settles timer id settled
  have after : (timer.settle id status).2.isPending =
      fun other => timer.isPending other && !([id].contains other) := funext settles.isPending
  rw [Counted, settles.size, after]
  cases waiting : timer.isPending id with
  | false =>
      have same : (timer.settle id status).2 = timer := by rw [settle_of_ended waiting]
      have none : (fun other => timer.isPending other && !([id].contains other)) =
          timer.isPending := by
        rw [← after, same]
      rw [same, none]
      exact ⟨counted, rfl⟩
  | true =>
      have less := countP_without List.nodup_range (List.mem_range.mpr (lt_of_isPending waiting))
        waiting
      rw [settle, waiting, if_pos rfl]
      dsimp only
      rw [counted, ← less]
      exact ⟨rfl, rfl⟩

theorem cancelAll_cons (timer : Timer τ) (entry : Entry τ) (others : List (Entry τ)) :
    timer.cancelAll (entry :: others) =
      (((timer.cancel entry.id).2.cancelAll others).1 + (timer.isPending entry.id).toNat,
        ((timer.cancel entry.id).2.cancelAll others).2) := by
  have won : (timer.cancel entry.id).1 = timer.isPending entry.id := fst_settle _ _ _
  rw [cancelAll, ← won]
  rcases timer.cancel entry.id with ⟨won, timer⟩
  cases won <;> rfl

/-- Each timeout that is cancelled is counted once, with the call that cancels it. -/
theorem counted_cancelAll (counted : timer.Counted) (cancelled : List (Entry τ)) :
    (timer.cancelAll cancelled).2.Counted ∧
      (timer.cancelAll cancelled).1 + (timer.cancelAll cancelled).2.pending = timer.pending := by
  induction cancelled generalizing timer with
  | nil => exact ⟨counted, Nat.zero_add _⟩
  | cons entry others induction =>
      have settled : TimeoutStatus.cancelled ≠ .pending := by decide
      have first := counted_settle counted entry.id settled
      have rest := induction first.1
      rw [cancelAll_cons]
      refine ⟨rest.1, ?_⟩
      rw [← first.2, ← rest.2]
      exact Nat.add_right_comm _ _ _

theorem counted_stop (counted : timer.Counted) :
    timer.stop.2.Counted ∧ timer.stop.1 + timer.stop.2.pending = timer.pending := by
  rw [stop]
  split
  next => exact ⟨counted, Nat.zero_add _⟩
  next =>
    let emptied : Timer τ :=
      { timer with stopped := true, buckets := timer.buckets.map fun _ => [] }
    have counted : emptied.Counted := counted
    exact counted_cancelAll counted _

/-! ### What stays -/

theorem settle_eq (timer : Timer τ) (id : Nat) (status : TimeoutStatus) :
    (timer.settle id status).2 = { timer with
      statuses := (timer.settle id status).2.statuses
      pending := (timer.settle id status).2.pending } := by
  rw [settle]
  split <;> rfl

theorem cancelAll_eq (timer : Timer τ) (cancelled : List (Entry τ)) :
    (timer.cancelAll cancelled).2 = { timer with
      statuses := (timer.cancelAll cancelled).2.statuses
      pending := (timer.cancelAll cancelled).2.pending } := by
  induction cancelled generalizing timer with
  | nil => rfl
  | cons entry others induction =>
      rw [cancelAll_cons]
      refine (induction (timer.cancel entry.id).2).trans ?_
      rw [cancel, settle_eq timer entry.id .cancelled]

theorem stop_eq (running : timer.stopped = false) :
    timer.stop.2 = { timer with
      stopped := true
      buckets := timer.buckets.map fun _ => []
      statuses := timer.stop.2.statuses
      pending := timer.stop.2.pending } := by
  have running : ¬ timer.stopped = true := Bool.eq_false_iff.mp running
  rw [stop, if_neg running]
  exact cancelAll_eq _ _

/-- No timeout on the wheel is pending after a stop, and every other one is as it was. -/
theorem isPending_stop (running : timer.stopped = false) (id : Nat) :
    timer.stop.2.isPending id =
      (timer.isPending id && !(timer.entries.map Entry.id).contains id) := by
  rcases stop_settles running with ⟨emptied, -, -, statuses, -, settles⟩
  rw [settles.isPending, isPending, isPending, statuses]

end Telemetry.Delivery.Timer
