import Telemetry.Delivery.Timer

namespace Telemetry.Delivery

/-! What the operations of a timer do to the timeouts on its wheel. Which bucket a timeout is in
does not matter here, so the wheel is described up to the order of its timeouts. -/

/-! ### Buckets -/

section Buckets

variable {α : Type}

theorem flatten_set_perm {lists : List (List α)} {place : Nat} (inside : place < lists.length)
    (bucket : List α) :
    (lists.set place bucket).flatten.Perm (bucket ++ (lists.set place []).flatten) := by
  induction lists generalizing place with
  | nil => exact absurd inside (Nat.not_lt_zero place)
  | cons first others induction =>
      cases place with
      | zero => simp
      | succ place =>
          have inside : place < others.length := Nat.lt_of_succ_lt_succ inside
          simp only [List.set_cons_succ, List.flatten_cons]
          apply ((induction inside).append_left first).trans
          rw [← List.append_assoc, ← List.append_assoc]
          exact List.perm_append_comm.append_right _

theorem flatten_perm {lists : List (List α)} {place : Nat} (inside : place < lists.length) :
    lists.flatten.Perm (lists[place] ++ (lists.set place []).flatten) := by
  have parts := flatten_set_perm inside lists[place]
  rwa [List.set_getElem_self] at parts

/-- Out of one bucket, what is due is taken and what has ended is forgotten. -/
theorem flatten_collect_perm {lists : List (List α)} {place : Nat} (inside : place < lists.length)
    (live due : α → Bool) :
    lists.flatten.Perm ((lists[place].filter live).filter due ++
      (lists.set place ((lists[place].filter live).filter fun item => !due item)).flatten ++
      lists[place].filter fun item => !live item) := by
  have alive := List.filter_append_perm live lists[place]
  have taken := List.filter_append_perm due (lists[place].filter live)
  apply (flatten_perm inside).trans
  refine .trans ?_ (((flatten_set_perm inside _).symm.append_left _).append_right _)
  apply (((taken.append_right _).trans alive).symm.append_right _).trans
  simp only [List.append_assoc]
  exact ((List.perm_append_comm.append_left _).append_left _)

end Buckets

namespace Timer

variable {τ : Type} {timer after : Timer τ}

/-- The timeouts on the wheel. -/
def entries (timer : Timer τ) : List (Entry τ) := timer.buckets.toList.flatten

theorem entries_start (tick : Nanos) (wheelSize maxPending : Nat) :
    (start tick wheelSize maxPending : Timer τ).entries = [] := by
  simp [start, entries]

theorem bucketOf_lt (wheel : 0 < timer.buckets.size) (tick : Nat) :
    timer.bucketOf tick < timer.buckets.toList.length := by
  rw [bucketOf, Array.length_toList]
  exact Nat.mod_lt tick wheel

/-! ### Scheduling -/

/-- A timeout that is accepted gets the next id and joins the wheel. -/
theorem schedule_eq_ok {delay : Nanos} {task : τ} {id : Nat} (wheel : 0 < timer.buckets.size)
    (scheduled : timer.schedule delay task = .ok (id, after)) :
    id = timer.statuses.size ∧ timer.stopped = false ∧ after.stopped = false ∧
      after.statuses = timer.statuses.push .pending ∧ after.buckets.size = timer.buckets.size ∧
      ∃ deadline, after.entries.Perm (⟨id, deadline, task⟩ :: timer.entries) := by
  rw [schedule] at scheduled
  split at scheduled
  next => cases scheduled
  next running =>
    split at scheduled
    next => cases scheduled
    next =>
      cases scheduled
      have running := Bool.eq_false_iff.mpr running
      refine ⟨rfl, running, running, rfl, Array.size_modify,
        min (timer.ticks + timer.ticksOf delay) maxTick, ?_⟩
      have inside := bucketOf_lt wheel (min (timer.ticks + timer.ticksOf delay) maxTick)
      rw [entries, entries, Array.toList_modify, List.modify_eq_set,
        List.getElem?_eq_getElem inside, Option.getD_some]
      apply (flatten_set_perm inside _).trans
      refine .trans ?_ ((flatten_perm inside).symm.cons _)
      rw [List.append_assoc]
      exact List.perm_middle

theorem isPending_push (id : Nat)
    (pushed : after.statuses = timer.statuses.push .pending) :
    after.isPending id = (timer.isPending id || id = timer.statuses.size) := by
  rw [isPending, isPending, pushed, Array.getElem?_push]
  split
  next same => simp [same]
  next other => simp [other]

/-! ### Settling

A timeout that is cancelled or claimed for being run stays on the wheel, but is pending no more. -/

/-- Between the two timers only the given timeouts have left the pending state. -/
structure Settles (before : Timer τ) (ids : List Nat) (after : Timer τ) : Prop where
  entries : after.entries = before.entries
  stopped : after.stopped = before.stopped
  size : after.statuses.size = before.statuses.size
  wheel : after.buckets.size = before.buckets.size
  isPending : ∀ other, after.isPending other = (before.isPending other && !ids.contains other)

theorem settle_settles (timer : Timer τ) (id : Nat) {status : TimeoutStatus}
    (settled : status ≠ .pending) : Settles timer [id] (timer.settle id status).2 := by
  rw [settle]
  split
  next =>
    refine ⟨rfl, rfl, Array.size_setIfInBounds, rfl, fun other => ?_⟩
    rw [Timer.isPending, Timer.isPending, Array.getElem?_setIfInBounds]
    grind
  next ended =>
    refine ⟨rfl, rfl, rfl, rfl, fun other => ?_⟩
    by_cases same : other = id
    · simp [same, ended]
    · simp [same]

theorem cancelAll_settles (timer : Timer τ) (cancelled : List (Entry τ)) :
    Settles timer (cancelled.map Entry.id) (timer.cancelAll cancelled).2 := by
  induction cancelled generalizing timer with
  | nil => exact ⟨rfl, rfl, rfl, rfl, fun other => by simp [cancelAll]⟩
  | cons entry others induction =>
      have first : Settles timer [entry.id] (timer.cancel entry.id).2 :=
        settle_settles timer entry.id nofun
      have rest := induction (timer.cancel entry.id).2
      refine ⟨rest.entries.trans first.entries, rest.stopped.trans first.stopped,
        rest.size.trans first.size, rest.wheel.trans first.wheel, fun other => ?_⟩
      rw [cancelAll, rest.isPending, first.isPending]
      simp [Bool.and_assoc]

/-! ### Collecting -/

/-- What is due leaves the wheel together with what is no longer pending. -/
theorem collectDue_perm (wheel : 0 < timer.buckets.size) :
    ∃ ended, timer.entries.Perm (timer.collectDue.1 ++ timer.collectDue.2.entries ++ ended) ∧
      ∀ entry ∈ ended, timer.isPending entry.id = false := by
  have inside := bucketOf_lt wheel (timer.ticks + 1)
  have bucket : timer.buckets.getD (timer.bucketOf (timer.ticks + 1)) [] =
      timer.buckets.toList[timer.bucketOf (timer.ticks + 1)] := by
    rw [Array.getD_eq_getD_getElem?, ← Array.getElem?_toList, List.getElem?_eq_getElem inside,
      Option.getD_some]
  have parts := flatten_collect_perm inside (fun entry => timer.isPending entry.id)
    (fun entry => decide (entry.deadline ≤ timer.ticks + 1))
  simp only [entries, collectDue, bucket, List.partition_eq_filter_filter,
    Array.toList_setIfInBounds]
  refine ⟨_, parts, fun entry member => ?_⟩
  simpa using (List.mem_filter.mp member).2

/-! ### Stopping -/

/-- A timer that stops cancels every timeout on its wheel. -/
theorem stop_settles (running : timer.stopped = false) :
    ∃ emptied : Timer τ, emptied.entries = [] ∧ emptied.stopped = true ∧
      emptied.statuses = timer.statuses ∧ emptied.buckets.size = timer.buckets.size ∧
      Settles emptied (timer.entries.map Entry.id) timer.stop.2 := by
  rw [stop, if_neg (by simp [running])]
  refine ⟨{ timer with stopped := true, buckets := timer.buckets.map fun _ => [] }, ?_, rfl, rfl,
    Array.size_map, cancelAll_settles _ _⟩
  simp [entries]

theorem entries_stop (running : timer.stopped = false) : timer.stop.2.entries = [] := by
  rcases stop_settles running with ⟨emptied, none, -, -, -, settles⟩
  exact settles.entries.trans none

theorem stop_of_stopped (stopped : timer.stopped = true) : timer.stop.2 = timer := by
  rw [stop, if_pos stopped]

end Timer

end Telemetry.Delivery
