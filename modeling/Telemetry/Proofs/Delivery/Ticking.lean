import Mathlib.Algebra.Group.Nat.Defs
import Telemetry.Proofs.Delivery.Wheel

namespace Telemetry.Delivery

/-! When a timer runs its tasks. A timer is used in turns: timeouts are added and cancelled at any
time, also by the tasks that an advance runs, and the next advance or a stop comes after the tasks
of the last advance. A task runs in the advance to its own tick or not at all. -/

/-- A timeout that was accepted, and the tick at which it was. -/
structure Timeout (τ : Type) where
  id : Nat
  tick : Nat
  delay : Nanos
  task : τ
deriving DecidableEq, Repr

namespace Timeout

variable {τ : Type}

def dueAt (width : Nanos) (timeout : Timeout τ) : Nat :=
  timeout.tick + Timer.wait width timeout.delay

/-- The entry of the timeout on the wheel. Ticks are counted with 64 bits, so later deadlines are
brought forward. -/
def entry (width : Nanos) (timeout : Timeout τ) : Entry τ :=
  ⟨timeout.id, min (timeout.dueAt width) Timer.maxTick, timeout.task⟩

theorem deadline_entry {width : Nanos} {timeout : Timeout τ}
    (exact : timeout.dueAt width < 2 ^ 64) :
    (timeout.entry width).deadline = timeout.dueAt width :=
  Nat.min_eq_left (Nat.le_sub_one_of_lt exact)

theorem tick_lt_deadline {width : Nanos} {timeout : Timeout τ}
    (counted : timeout.tick < Timer.maxTick) :
    timeout.tick < (timeout.entry width).deadline := by
  have waits : 1 ≤ Timer.wait width timeout.delay := Nat.le_max_right _ _
  change timeout.tick < min (timeout.tick + Timer.wait width timeout.delay) Timer.maxTick
  omega

end Timeout

/-- A timer in use, with what has happened to its timeouts. -/
structure Ticking (τ : Type) where
  timer : Timer τ
  /-- What the running advance has collected and not come to yet. -/
  due : List (Entry τ)
  accepted : List (Timeout τ)
  /-- The tasks that were run, each with the tick it was run at. -/
  ran : List (Nat × Entry τ)
  /-- The timeouts whose cancellation succeeded. -/
  cancelled : List Nat
  /-- The tick at which the timer was stopped. -/
  stoppedAt : Option Nat

inductive Turn (τ : Type) where
  | newTimeout (delay : Nanos) (task : τ)
  | cancel (id : Nat)
  | advance
  /-- The running advance comes to its next timeout. -/
  | runNext
  | stop
deriving DecidableEq, Repr

namespace Ticking

variable {τ : Type}

def start (tick : Nanos) (wheelSize maxPending : Nat) : Ticking τ :=
  ⟨.start tick wheelSize maxPending, [], [], [], [], none⟩

/-- The timer after a turn, `none` where the turn has to wait for the running advance. -/
def take? (ticking : Ticking τ) : Turn τ → Option (Ticking τ)
  | .newTimeout delay task =>
      match ticking.timer.schedule delay task with
      | .error _ => some ticking
      | .ok (id, timer) =>
          some { ticking with
            timer
            accepted := ticking.accepted ++ [⟨id, ticking.timer.ticks, delay, task⟩] }
  | .cancel id =>
      let (won, timer) := ticking.timer.cancel id
      some { ticking with
        timer
        cancelled := if won then ticking.cancelled ++ [id] else ticking.cancelled }
  | .advance =>
      if ticking.due.isEmpty then
        let (due, timer) := ticking.timer.collectDue
        some { ticking with timer, due }
      else none
  | .runNext =>
      match ticking.due with
      | [] => none
      | entry :: due =>
          let (won, timer) := ticking.timer.expire entry.id
          some { ticking with
            timer
            due
            ran := if won then ticking.ran ++ [(ticking.timer.ticks, entry)] else ticking.ran }
  | .stop =>
      if ticking.due.isEmpty then
        some { ticking with
          timer := ticking.timer.stop.2
          stoppedAt := ticking.stoppedAt.or (some ticking.timer.ticks) }
      else none

def takeAll? (ticking : Ticking τ) : List (Turn τ) → Option (Ticking τ)
  | [] => some ticking
  | turn :: turns => (ticking.take? turn).bind fun next => next.takeAll? turns

/-- The runs of a timeout's task, each with its tick. -/
def runs (ticking : Ticking τ) (id : Nat) : List (Nat × τ) :=
  (ticking.ran.filter fun run => run.2.id = id).map fun run => (run.1, run.2.task)

/-- Whether a timeout has neither run nor been cancelled, nor been dropped by a stop. -/
def waiting (ticking : Ticking τ) (id : Nat) : Bool :=
  (ticking.runs id).isEmpty && !ticking.cancelled.contains id && ticking.stoppedAt.isNone

/-- What a user of the timer relies on. -/
structure TickExact (width : Nanos) (maxPending : Nat) (ticking : Ticking τ) : Prop where
  distinct : (ticking.accepted.map Timeout.id).Nodup
  /-- A task runs once at most, and only at its own tick. -/
  once : ∀ timeout ∈ ticking.accepted, timeout.dueAt width < 2 ^ 64 →
    ticking.runs timeout.id = [] ∨
      ticking.runs timeout.id = [(timeout.dueAt width, timeout.task)]
  /-- Between advances a task has run if its tick has come, unless it was cancelled or the timer
  was stopped before. -/
  onTime : ticking.due = [] → ∀ timeout ∈ ticking.accepted, timeout.dueAt width < 2 ^ 64 →
    (ticking.runs timeout.id ≠ [] ↔ timeout.dueAt width ≤ ticking.timer.ticks ∧
      timeout.id ∉ ticking.cancelled ∧ ∀ tick ∈ ticking.stoppedAt, timeout.dueAt width ≤ tick)
  neverAfterCancel : ∀ id ∈ ticking.cancelled, ticking.runs id = []
  cancel : ∀ id, (ticking.timer.cancel id).1 = true ↔
    (∃ timeout ∈ ticking.accepted, timeout.id = id) ∧ ticking.waiting id = true
  pending : ticking.timer.pending =
    ticking.accepted.countP fun timeout => ticking.waiting timeout.id
  bounded : ticking.timer.pending ≤ maxPending
  stop : ticking.due = [] →
    ticking.timer.stop.1 = ticking.timer.pending ∧ ticking.timer.stop.2.pending = 0
  afterStop : ticking.stoppedAt.isSome → ticking.timer.stop.1 = 0 ∧
    ∀ delay task, ticking.timer.schedule delay task = .error .stopped

/-! ### Places

Every pending timeout is on the wheel, where its tick has not come yet, or due, where it has just
come. -/

structure Wound (width : Nanos) (accepted : List (Timeout τ)) (timer : Timer τ)
    (due : List (Entry τ)) : Prop where
  wheel : 0 < timer.buckets.size
  tick : timer.tick = width
  placed : timer.Placed
  ids : accepted.map Timeout.id = List.range timer.statuses.size
  known : ∀ entry ∈ timer.entries ++ due, ∃ timeout ∈ accepted, timeout.entry width = entry
  present : ∀ timeout ∈ accepted, timer.isPending timeout.id = true →
    timeout.entry width ∈ timer.entries ++ due
  ahead : ∀ timeout ∈ accepted, timeout.dueAt width < 2 ^ 64 →
    timeout.entry width ∈ timer.entries → timer.ticks < timeout.dueAt width
  now : ∀ timeout ∈ accepted, timeout.dueAt width < 2 ^ 64 →
    timeout.entry width ∈ due → timeout.dueAt width = timer.ticks

section Places

variable {width : Nanos} {accepted : List (Timeout τ)} {timer after : Timer τ}
  {due : List (Entry τ)}

theorem wound_start (tick : Nanos) (wheelSize maxPending : Nat) :
    Wound (max tick (ofMillis 1)) [] (.start tick wheelSize maxPending : Timer τ) [] := by
  have none := Timer.entries_start (τ := τ) tick wheelSize maxPending
  refine ⟨?_, rfl, Timer.placed_start _ _ _, rfl, ?_, nofun, nofun, nofun⟩
  · rw [Timer.start, Array.size_replicate]
    omega
  · simp [none]

theorem Wound.id_lt (wound : Wound width accepted timer due) {timeout : Timeout τ}
    (member : timeout ∈ accepted) : timeout.id < timer.statuses.size := by
  have listed := List.mem_map_of_mem (f := Timeout.id) member
  rw [wound.ids] at listed
  exact List.mem_range.mp listed

/-- Ids are places in the order of acceptance. -/
theorem Wound.getElem?_id (wound : Wound width accepted timer due) {timeout : Timeout τ}
    (member : timeout ∈ accepted) : accepted[timeout.id]? = some timeout := by
  rcases List.getElem?_of_mem member with ⟨place, found⟩
  have listed : (accepted.map Timeout.id)[place]? = some timeout.id := by
    rw [List.getElem?_map, found, Option.map_some]
  rw [wound.ids] at listed
  have same : place = timeout.id := by grind
  rw [← same, found]

/-- The entry with a timeout's id is the timeout's own. -/
theorem Wound.entry_eq (wound : Wound width accepted timer due) {timeout : Timeout τ}
    {entry : Entry τ} (member : timeout ∈ accepted) (place : entry ∈ timer.entries ++ due)
    (sameId : entry.id = timeout.id) : timeout.entry width = entry := by
  rcases wound.known entry place with ⟨other, found, rfl⟩
  have own := wound.getElem?_id member
  rw [← sameId] at own
  rw [Option.some.inj (own.symm.trans (wound.getElem?_id found))]

theorem schedule_wound {delay : Nanos} {task : τ} {id : Nat}
    (wound : Wound width accepted timer due)
    (scheduled : timer.schedule delay task = .ok (id, after)) :
    Wound width (accepted ++ [⟨id, timer.ticks, delay, task⟩]) after due := by
  let new : Timeout τ := ⟨id, timer.ticks, delay, task⟩
  have wheel := wound.wheel
  have placed := Timer.placed_schedule wound.placed scheduled
  have entries := Timer.mem_entries_schedule wheel scheduled
  rcases Timer.schedule_iff.mp scheduled with ⟨-, -, sameId, same⟩
  have pushed : after.statuses = timer.statuses.push .pending := by rw [same]
  have ticks : after.ticks = timer.ticks := by rw [same]
  have fresh {timeout : Timeout τ} (member : timeout ∈ accepted) : timeout.id ≠ new.id :=
    Nat.ne_of_lt (Nat.lt_of_lt_of_eq (wound.id_lt member) sameId.symm)
  have oldOrNew {timeout : Timeout τ} (member : timeout ∈ accepted ++ [new]) :
      timeout ∈ accepted ∨ timeout = new := by
    simpa using member
  have onWheel : ∀ entry, entry ∈ after.entries ↔
      entry = new.entry width ∨ entry ∈ timer.entries := by
    rw [← wound.tick]
    exact entries
  refine ⟨?_, ?_, placed, ?_, ?_, ?_, ?_, ?_⟩
  · rwa [same, Array.size_modify]
  · rw [same]
    exact wound.tick
  · rw [pushed, Array.size_push, List.range_succ, List.map_append, wound.ids, ← sameId]
    rfl
  · intro entry member
    rcases List.mem_append.mp member with member | member
    · rcases (onWheel entry).mp member with rfl | old
      · exact ⟨new, by simp [new], rfl⟩
      · rcases wound.known entry (List.mem_append_left _ old) with ⟨timeout, found, same⟩
        exact ⟨timeout, List.mem_append_left _ found, same⟩
    · rcases wound.known entry (List.mem_append_right _ member) with ⟨timeout, found, same⟩
      exact ⟨timeout, List.mem_append_left _ found, same⟩
  · intro timeout member waiting
    rw [List.mem_append, onWheel]
    rcases oldOrNew member with old | rfl
    · rw [Timer.isPending_push _ pushed, ← sameId] at waiting
      have before : timer.isPending timeout.id = true := by simpa [fresh old, new] using waiting
      exact (List.mem_append.mp (wound.present timeout old before)).imp_left .inr
    · exact .inl (.inl rfl)
  · intro timeout member exact place
    rw [ticks]
    rcases oldOrNew member with old | rfl
    · rcases (onWheel _).mp place with same | place
      · exact absurd (congrArg Entry.id same) (fresh old)
      · exact wound.ahead timeout old exact place
    · exact Nat.lt_add_of_pos_right (Nat.le_max_right _ _)
  · intro timeout member exact place
    rw [ticks]
    rcases oldOrNew member with old | rfl
    · exact wound.now timeout old exact place
    · rcases wound.known _ (List.mem_append_right _ place) with ⟨timeout, found, same⟩
      exact absurd (congrArg Entry.id same) (fresh found)

/-- Timeouts that are cancelled or come to their turn keep their places. -/
theorem Wound.settle {id : Nat} {status : TimeoutStatus} {left : List (Entry τ)}
    (wound : Wound width accepted timer due) (settled : status ≠ .pending)
    (shorter : ∀ entry ∈ left, entry ∈ due)
    (others : ∀ entry ∈ due, entry.id ≠ id → entry ∈ left) :
    Wound width accepted (timer.settle id status).2 left := by
  have settles := Timer.settle_settles timer id settled
  have same := Timer.settle_eq timer id status
  have ticks : (timer.settle id status).2.ticks = timer.ticks := by rw [same]
  refine ⟨?_, ?_, ?_, ?_, ?_, ?_, ?_, ?_⟩
  · rw [settles.wheel]
    exact wound.wheel
  · rw [same]
    exact wound.tick
  · rw [same]
    exact wound.placed
  · rw [settles.size]
    exact wound.ids
  · intro entry member
    rw [settles.entries] at member
    rcases List.mem_append.mp member with member | member
    · exact wound.known entry (List.mem_append_left _ member)
    · exact wound.known entry (List.mem_append_right _ (shorter entry member))
  · intro timeout member waiting
    rw [settles.isPending] at waiting
    have other : timer.isPending timeout.id = true ∧ timeout.id ≠ id := by simpa using waiting
    rw [settles.entries, List.mem_append]
    exact (List.mem_append.mp (wound.present timeout member other.1)).imp_right
      fun place => others _ place other.2
  · intro timeout member exact place
    rw [settles.entries] at place
    rw [ticks]
    exact wound.ahead timeout member exact place
  · intro timeout member exact place
    rw [ticks]
    exact wound.now timeout member exact (shorter _ place)

/-- What comes due at a tick is what is due at this tick and no other. -/
theorem collectDue_wound (wound : Wound width accepted timer []) :
    Wound width accepted timer.collectDue.2 timer.collectDue.1 := by
  rcases Timer.collectDue_perm wound.wheel with ⟨ended, places, settled⟩
  have ticks : timer.collectDue.2.ticks = timer.ticks + 1 := rfl
  have places : ∀ entry, entry ∈ timer.entries ↔ entry ∈ timer.collectDue.1 ∨
      entry ∈ timer.collectDue.2.entries ∨ entry ∈ ended := by
    intro entry
    rw [places.mem_iff, List.mem_append, List.mem_append, or_assoc]
  refine ⟨?_, wound.tick, Timer.placed_collectDue wound.placed, wound.ids, ?_, ?_, ?_, ?_⟩
  · exact Nat.lt_of_lt_of_eq wound.wheel Array.size_setIfInBounds.symm
  · intro entry member
    apply wound.known
    rw [List.append_nil, places]
    rcases List.mem_append.mp member with left | due
    · exact .inr (.inl left)
    · exact .inl due
  · intro timeout member waiting
    have place := wound.present timeout member waiting
    rw [List.append_nil, places] at place
    rw [List.mem_append]
    rcases place with due | left | gone
    · exact .inr due
    · exact .inl left
    · exact absurd waiting (Bool.eq_false_iff.mp (settled _ gone))
  · intro timeout member exact place
    have before := wound.ahead timeout member exact ((places _).mpr (.inr (.inl place)))
    have other := Timer.deadline_ne_of_mem_collectDue wound.placed place
    rw [Timeout.deadline_entry exact] at other
    rw [ticks]
    omega
  · intro timeout member exact place
    have before := wound.ahead timeout member exact ((places _).mpr (.inl place))
    have reached := Timer.deadline_le_of_mem_collectDue place
    rw [Timeout.deadline_entry exact] at reached
    rw [ticks]
    omega

/-- A stop leaves nothing on the wheel and nothing pending. -/
theorem stop_wound (wound : Wound width accepted timer []) (running : timer.stopped = false) :
    Wound width accepted timer.stop.2 [] ∧ timer.stop.2.entries = [] ∧
      ∀ id, timer.stop.2.isPending id = false := by
  rcases Timer.stop_settles running with ⟨emptied, -, -, statuses, wheel, settles⟩
  have noEntries := Timer.entries_stop running
  have same := Timer.stop_eq running
  have nonePending (id : Nat) : timer.stop.2.isPending id = false := by
    rw [Timer.isPending_stop running]
    cases waiting : timer.isPending id with
    | false => rfl
    | true =>
        have listed := List.mem_range.mpr (Timer.lt_of_isPending waiting)
        rw [← wound.ids] at listed
        rcases List.mem_map.mp listed with ⟨timeout, member, rfl⟩
        have place := wound.present timeout member waiting
        rw [List.append_nil] at place
        have onWheel : timeout.id ∈ timer.entries.map Entry.id :=
          List.mem_map_of_mem (f := Entry.id) place
        simpa using onWheel
  refine ⟨⟨?_, ?_, Timer.placed_of_emptied noEntries, ?_, ?_, ?_, ?_, nofun⟩, noEntries,
    nonePending⟩
  · rw [settles.wheel, wheel]
    exact wound.wheel
  · rw [same]
    exact wound.tick
  · rw [settles.size, statuses]
    exact wound.ids
  · simp [noEntries]
  · intro timeout member waiting
    rw [nonePending] at waiting
    cases waiting
  · simp [noEntries]

end Places

end Ticking

end Telemetry.Delivery
