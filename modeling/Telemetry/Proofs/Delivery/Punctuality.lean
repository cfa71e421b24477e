import Mathlib.Data.List.Nodup
import Telemetry.Proofs.Delivery.Stopping

namespace Telemetry.Delivery

/-! When tasks run by the clock. The wheel turns at whole ticks after its start, but a timeout may
be added at any time between two ticks. Its delay is counted in whole ticks from the tick at which
the wheel stands, so the part of the current tick that is already gone counts as waited: a task
never runs later than its delay, rounded up, after it was asked for, but it may run early, by as
much as a tick. -/

namespace Ticking

variable {τ : Type} {width : Nanos} {ticking next : Ticking τ}

/-! ### Deadlines -/

/-- The entry belongs to an accepted timeout and is on time, which is meant for timeouts that were
accepted while their next tick could still be counted. -/
def Keeps (ticking : Ticking τ) (width : Nanos) (entry : Entry τ) (onTime : Prop) : Prop :=
  ∃ timeout ∈ ticking.accepted, timeout.entry width = entry ∧
    (timeout.tick < Timer.maxTick → onTime)

theorem Keeps.imp {entry : Entry τ} {onTime still : Prop} (keeps : ticking.Keeps width entry onTime)
    (accepted : ∀ timeout ∈ ticking.accepted, timeout ∈ next.accepted)
    (implies : onTime → still) : next.Keeps width entry still := by
  rcases keeps with ⟨timeout, member, same, timely⟩
  exact ⟨timeout, accepted timeout member, same, fun counted => implies (timely counted)⟩

/-- What is on the wheel lies ahead, what was collected is due now, and what ran did so at its
deadline. -/
structure OnTime (width : Nanos) (ticking : Ticking τ) : Prop where
  wheel : 0 < ticking.timer.buckets.size
  tick : ticking.timer.tick = width
  placed : ticking.timer.Placed
  ids : ticking.accepted.map Timeout.id = List.range ticking.timer.statuses.size
  begun : ∀ timeout ∈ ticking.accepted, timeout.tick ≤ ticking.timer.ticks
  ahead : ∀ entry ∈ ticking.timer.entries,
    ticking.Keeps width entry (ticking.timer.ticks < entry.deadline)
  due : ∀ entry ∈ ticking.due, ticking.Keeps width entry (entry.deadline = ticking.timer.ticks)
  ran : ∀ run ∈ ticking.ran, run.1 ≤ ticking.timer.ticks ∧
    ticking.Keeps width run.2 (run.2.deadline = run.1)

theorem onTime_start (tick : Nanos) (wheelSize maxPending : Nat) :
    (start tick wheelSize maxPending : Ticking τ).OnTime (max tick (ofMillis 1)) where
  wheel := (Timer.consistent_start (τ := τ) tick wheelSize maxPending).wheel
  tick := rfl
  placed := Timer.placed_start tick wheelSize maxPending
  ids := rfl
  begun := nofun
  ahead := by simp [start, Timer.entries_start]
  due := nofun
  ran := nofun

theorem OnTime.schedule (onTime : ticking.OnTime width) {delay : Nanos} {task : τ} {id : Nat}
    {timer : Timer τ} (scheduled : ticking.timer.schedule delay task = .ok (id, timer)) :
    OnTime width { ticking with
      timer
      accepted := ticking.accepted ++ [⟨id, ticking.timer.ticks, delay, task⟩] } := by
  let new : Timeout τ := ⟨id, ticking.timer.ticks, delay, task⟩
  have placed := Timer.placed_schedule onTime.placed scheduled
  have entries := Timer.mem_entries_schedule onTime.wheel scheduled
  rw [onTime.tick] at entries
  rcases Timer.schedule_iff.mp scheduled with ⟨-, -, rfl, same⟩
  have ticks : timer.ticks = ticking.timer.ticks := by rw [same]
  have older : ∀ timeout ∈ ticking.accepted, timeout ∈ ticking.accepted ++ [new] :=
    fun _ member => List.mem_append_left _ member
  refine ⟨?_, ?_, placed, ?_, ?_, ?_, ?_, ?_⟩
  · rw [same, Array.size_modify]
    exact onTime.wheel
  · rw [same]
    exact onTime.tick
  · rw [same, List.map_append, onTime.ids, Array.size_push, List.range_succ]
    rfl
  · intro timeout member
    rw [ticks]
    rcases List.mem_append.mp member with old | member
    · exact onTime.begun timeout old
    · exact Nat.le_of_eq (congrArg Timeout.tick (List.mem_singleton.mp member))
  · intro entry member
    rw [ticks]
    rcases (entries entry).mp member with rfl | old
    · refine ⟨new, by simp [new], rfl, fun counted => Timeout.tick_lt_deadline counted⟩
    · exact (onTime.ahead entry old).imp older id
  · intro entry member
    rw [ticks]
    exact (onTime.due entry member).imp older id
  · intro run member
    rw [ticks]
    exact (onTime.ran run member).imp_right fun keeps => keeps.imp older id

/-- Settling a timeout moves nothing; one that comes to its turn runs at the current tick. -/
theorem OnTime.settle (onTime : ticking.OnTime width) (id : Nat) {status : TimeoutStatus}
    (settled : status ≠ .pending) {left : List (Entry τ)} {cancelled : List Nat}
    {ran : List (Nat × Entry τ)} (shorter : ∀ entry ∈ left, entry ∈ ticking.due)
    (runs : ∀ run ∈ ran, run ∈ ticking.ran ∨ run.1 = ticking.timer.ticks ∧ run.2 ∈ ticking.due) :
    OnTime width { ticking with
      timer := (ticking.timer.settle id status).2
      due := left
      cancelled
      ran } := by
  have settles := Timer.settle_settles ticking.timer id settled
  have same := Timer.settle_eq ticking.timer id status
  have ticks : (ticking.timer.settle id status).2.ticks = ticking.timer.ticks := by rw [same]
  refine ⟨?_, ?_, ?_, ?_, ?_, ?_, ?_, ?_⟩
  · rw [settles.wheel]
    exact onTime.wheel
  · rw [same]
    exact onTime.tick
  · rw [same]
    exact onTime.placed
  · rw [settles.size]
    exact onTime.ids
  · rw [ticks]
    exact onTime.begun
  · rw [settles.entries, ticks]
    exact onTime.ahead
  · rw [ticks]
    exact fun entry member => onTime.due entry (shorter entry member)
  · intro run member
    rw [ticks]
    rcases runs run member with old | ⟨now, due⟩
    · exact onTime.ran run old
    · rw [now]
      exact ⟨Nat.le_refl _, onTime.due run.2 due⟩

theorem OnTime.collect (onTime : ticking.OnTime width) :
    OnTime width { ticking with
      timer := ticking.timer.collectDue.2
      due := ticking.timer.collectDue.1 } := by
  have ticks : ticking.timer.collectDue.2.ticks = ticking.timer.ticks + 1 := rfl
  rcases Timer.collectDue_perm onTime.wheel with ⟨ended, places, -⟩
  refine ⟨?_, onTime.tick, Timer.placed_collectDue onTime.placed, onTime.ids, ?_, ?_, ?_, ?_⟩
  · exact Nat.lt_of_lt_of_eq onTime.wheel Array.size_setIfInBounds.symm
  · exact fun timeout member => Nat.le_succ_of_le (onTime.begun timeout member)
  · intro entry left
    have before : entry ∈ ticking.timer.entries := by simp [places.mem_iff, left]
    apply (onTime.ahead entry before).imp fun _ member => member
    have other := Timer.deadline_ne_of_mem_collectDue onTime.placed left
    rw [ticks]
    omega
  · intro entry due
    have before : entry ∈ ticking.timer.entries := by simp [places.mem_iff, due]
    apply (onTime.ahead entry before).imp fun _ member => member
    have reached := Timer.deadline_le_of_mem_collectDue due
    rw [ticks]
    omega
  · exact fun run member => (onTime.ran run member).imp_left Nat.le_succ_of_le

/-- A stop clears the wheel and leaves what was collected. -/
theorem OnTime.halt (onTime : ticking.OnTime width) : ticking.halt.OnTime width := by
  cases stopped : ticking.timer.stopped with
  | true =>
      have same : ticking.halt.timer = ticking.timer := Timer.stop_of_stopped stopped
      constructor <;> rw [same]
      · exact onTime.wheel
      · exact onTime.tick
      · exact onTime.placed
      · exact onTime.ids
      · exact onTime.begun
      · exact onTime.ahead
      · exact onTime.due
      · exact onTime.ran
  | false =>
      have noEntries : ticking.halt.timer.entries = [] := Timer.entries_stop stopped
      have same : ticking.halt.timer = _ := Timer.stop_eq stopped
      have ticks : ticking.halt.timer.ticks = ticking.timer.ticks := by rw [same]
      refine ⟨?_, ?_, Timer.placed_of_emptied noEntries, ?_, ?_, ?_, ?_, ?_⟩
      · rw [same, Array.size_map]
        exact onTime.wheel
      · rw [same]
        exact onTime.tick
      · rcases Timer.stop_settles stopped with ⟨emptied, -, -, statuses, -, settles⟩
        exact onTime.ids.trans (by rw [← statuses, ← settles.size]; rfl)
      · rw [ticks]
        exact onTime.begun
      · simp [noEntries]
      · rw [ticks]
        exact onTime.due
      · rw [ticks]
        exact onTime.ran

theorem interleave?_onTime {turn : Turn τ} (onTime : ticking.OnTime width)
    (taken : ticking.interleave? turn = some next) : next.OnTime width := by
  cases interleave?_takes taken with
  | refused => exact onTime
  | accepted scheduled => exact onTime.schedule scheduled
  | cancel id =>
      have settled : TimeoutStatus.cancelled ≠ .pending := by decide
      exact onTime.settle id settled (fun _ member => member) fun _ member => .inl member
  | advance => exact onTime.collect
  | @runNext entry due front =>
      have settled : TimeoutStatus.expired ≠ .pending := by decide
      refine onTime.settle entry.id settled ?_ ?_
      · exact fun _ member => front ▸ List.mem_cons_of_mem entry member
      · intro run member
        split at member
        next =>
          refine (List.mem_append.mp member).imp_right fun new => ?_
          rw [List.mem_singleton.mp new, front]
          exact ⟨rfl, List.mem_cons_self⟩
        next => exact .inl member
  | stop => exact onTime.halt

/-! ### What a turn adds -/

/-- One turn accepts timeouts and runs tasks at the tick the wheel stands at, and only an advance
turns the wheel. -/
structure Adds (turn : Turn τ) (before after : Ticking τ) : Prop where
  ticks : after.timer.ticks = before.timer.ticks ∨
    turn = .advance ∧ after.timer.ticks = before.timer.ticks + 1
  accepted : ∃ new, after.accepted = before.accepted ++ new ∧
    ∀ timeout ∈ new, timeout.tick = before.timer.ticks
  ran : ∃ new, after.ran = before.ran ++ new ∧
    ∀ run ∈ new, turn = .runNext ∧ run.1 = before.timer.ticks

theorem exists_added_of_same {α : Type} {before after : List α} (same : after = before)
    (holds : α → Prop) : ∃ new, after = before ++ new ∧ ∀ item ∈ new, holds item :=
  ⟨[], same.trans (List.append_nil before).symm, nofun⟩

theorem Adds.of_same {turn : Turn τ} (ticks : next.timer.ticks = ticking.timer.ticks)
    (accepted : next.accepted = ticking.accepted) (ran : next.ran = ticking.ran) :
    Adds turn ticking next :=
  ⟨.inl ticks, exists_added_of_same accepted _, exists_added_of_same ran _⟩

theorem interleave?_adds {turn : Turn τ} (taken : ticking.interleave? turn = some next) :
    Adds turn ticking next := by
  cases interleave?_takes taken with
  | refused => exact .of_same rfl rfl rfl
  | accepted scheduled =>
      rcases Timer.schedule_iff.mp scheduled with ⟨-, -, -, rfl⟩
      exact ⟨.inl rfl, ⟨_, rfl, by simp⟩, exists_added_of_same rfl _⟩
  | cancel id =>
      have same : (ticking.timer.cancel id).2.ticks = ticking.timer.ticks := by
        rw [Timer.cancel, Timer.settle_eq]
      exact .of_same same rfl rfl
  | advance =>
      exact ⟨.inr ⟨rfl, rfl⟩, exists_added_of_same rfl _, exists_added_of_same rfl _⟩
  | @runNext entry due front =>
      have same : (ticking.timer.expire entry.id).2.ticks = ticking.timer.ticks := by
        rw [Timer.expire, Timer.settle_eq]
      refine ⟨.inl same, exists_added_of_same rfl _, ?_⟩
      dsimp only
      split
      next => exact ⟨_, rfl, by simp⟩
      next => exact exists_added_of_same rfl _
  | stop =>
      have same : ticking.timer.stop.2.ticks = ticking.timer.ticks := by
        cases stopped : ticking.timer.stopped with
        | true => rw [Timer.stop_of_stopped stopped]
        | false => rw [Timer.stop_eq stopped]
      exact .of_same same rfl rfl

end Ticking

/-! ### Moments -/

/-- A timer in use with a clock that shows the time since its start. -/
structure Clocked (τ : Type) where
  ticking : Ticking τ
  now : Nanos
  /-- The accepted timeouts, each with the moment it was asked for. -/
  asked : List (Nanos × Timeout τ)
  /-- The tasks that were run, each with the moment it was run at and with its tick. -/
  ran : List (Nanos × Nat × Entry τ)

namespace Clocked

variable {τ : Type} {width : Nanos} {clocked next : Clocked τ}

def start (tick : Nanos) (wheelSize maxPending : Nat) : Clocked τ :=
  ⟨.start tick wheelSize maxPending, 0, [], []⟩

/-- The worker does not lag: it makes the advance to a tick at the moment of that tick, and runs
what it has collected right then. Everything else may come at any time. -/
def comesAt (clocked : Clocked τ) (time : Nanos) : Turn τ → Bool
  | .advance => time = (clocked.ticking.timer.ticks + 1) * clocked.ticking.timer.tick
  | .runNext => time = clocked.ticking.timer.ticks * clocked.ticking.timer.tick
  | .newTimeout _ _ | .cancel _ | .stop => true

/-- What has been added to a list, with the moment at which it was. -/
def stamped {α : Type} (time : Nanos) (before after : List α) : List (Nanos × α) :=
  (after.drop before.length).map fun item => (time, item)

/-- The timer after a turn at the given moment, which is not before the last one. -/
def take? (clocked : Clocked τ) (time : Nanos) (turn : Turn τ) : Option (Clocked τ) :=
  if clocked.now ≤ time && clocked.comesAt time turn then
    (clocked.ticking.interleave? turn).map fun ticking =>
      { ticking
        now := time
        asked := clocked.asked ++ stamped time clocked.ticking.accepted ticking.accepted
        ran := clocked.ran ++ stamped time clocked.ticking.ran ticking.ran }
  else none

def takeAll? (clocked : Clocked τ) : List (Nanos × Turn τ) → Option (Clocked τ)
  | [] => some clocked
  | (time, turn) :: turns => (clocked.take? time turn).bind fun next => next.takeAll? turns

/-- When a task ran whose timeout was asked for at the given moment. -/
structure RunsAt (width asked : Nanos) (timeout : Timeout τ) (moment : Nanos) : Prop where
  moment_eq : moment = min (timeout.dueAt width) Timer.maxTick * width
  /-- The timeout was asked for within the tick from which its delay is counted. -/
  tick_le : timeout.tick * width ≤ asked
  le_nextTick : asked ≤ (timeout.tick + 1) * width
  /-- It is never later than the delay, rounded up to whole ticks. -/
  not_late : moment ≤ asked + Timer.wait width timeout.delay * width
  /-- It is early by a tick at most. -/
  early_le : timeout.dueAt width < 2 ^ 64 → asked + timeout.delay ≤ moment + width
  /-- It is not early if at most as much of the tick was gone as the delay is rounded up by. -/
  not_early_iff : timeout.dueAt width < 2 ^ 64 → (asked + timeout.delay ≤ moment ↔
    asked - timeout.tick * width ≤ Timer.wait width timeout.delay * width - timeout.delay)

/-- Every timeout is recorded when it is asked for and when its task runs, and how far these
moments lie apart is known, as long as ticks can be counted with 64 bits. -/
structure Punctual (width : Nanos) (clocked : Clocked τ) : Prop where
  asked : clocked.asked.map Prod.snd = clocked.ticking.accepted
  ran : clocked.ran.map Prod.snd = clocked.ticking.ran
  known : ∀ record ∈ clocked.ran, ∃ ask ∈ clocked.asked, ask.2.id = record.2.2.id
  runsAt : ∀ asked timeout moment run, (asked, timeout) ∈ clocked.asked →
    (moment, run) ∈ clocked.ran → run.2.id = timeout.id → timeout.tick < Timer.maxTick →
      run.2.task = timeout.task ∧ RunsAt width asked timeout moment

/-! ### Turns -/

/-- The records are complete, and their moments fit the ticks. -/
structure Recorded (width : Nanos) (clocked : Clocked τ) : Prop where
  onTime : clocked.ticking.OnTime width
  asked : clocked.asked.map Prod.snd = clocked.ticking.accepted
  ran : clocked.ran.map Prod.snd = clocked.ticking.ran
  now : clocked.ticking.timer.ticks * width ≤ clocked.now
  askedAt : ∀ ask ∈ clocked.asked, ask.2.tick * width ≤ ask.1 ∧ ask.1 ≤ clocked.now ∧
    (ask.2.tick < clocked.ticking.timer.ticks → ask.1 ≤ (ask.2.tick + 1) * width)
  ranAt : ∀ run ∈ clocked.ran, run.1 = run.2.1 * width

theorem recorded_start (tick : Nanos) (wheelSize maxPending : Nat) :
    (start tick wheelSize maxPending : Clocked τ).Recorded (max tick (ofMillis 1)) where
  onTime := Ticking.onTime_start tick wheelSize maxPending
  asked := rfl
  ran := rfl
  now := Nat.le_of_eq (Nat.zero_mul _)
  askedAt := nofun
  ranAt := nofun

section Stamped

variable {α : Type} (time : Nanos) (before new : List α)

theorem map_snd_stamped : (stamped time before (before ++ new)).map Prod.snd = new := by
  rw [stamped, List.drop_left, List.map_map]
  exact List.map_id new

theorem mem_stamped {time : Nanos} {before new : List α} {record : Nanos × α} :
    record ∈ stamped time before (before ++ new) ↔ record.1 = time ∧ record.2 ∈ new := by
  rw [stamped, List.drop_left, List.mem_map]
  constructor
  · rintro ⟨item, member, rfl⟩
    exact ⟨rfl, member⟩
  · rintro ⟨rfl, member⟩
    exact ⟨record.2, member, rfl⟩

end Stamped

theorem take?_recorded {time : Nanos} {turn : Turn τ} (recorded : clocked.Recorded width)
    (taken : clocked.take? time turn = some next) : next.Recorded width := by
  rw [take?] at taken
  split at taken
  next comes =>
    rw [Bool.and_eq_true, decide_eq_true_iff] at comes
    rcases comes with ⟨later, comes⟩
    rcases Option.map_eq_some_iff.mp taken with ⟨ticking, turned, rfl⟩
    rcases Ticking.interleave?_adds turned with
      ⟨turns, ⟨timeouts, accepted, atTick⟩, runs, ran, running⟩
    have tick := recorded.onTime.tick
    have now := recorded.now
    -- Only an advance turns the wheel, and it comes at the moment of its tick.
    have turns : ticking.timer.ticks = clocked.ticking.timer.ticks ∨
        ticking.timer.ticks = clocked.ticking.timer.ticks + 1 ∧
          time = (clocked.ticking.timer.ticks + 1) * width := by
      refine turns.imp_right ?_
      rintro ⟨rfl, ticks⟩
      rw [comesAt, decide_eq_true_iff, tick] at comes
      exact ⟨ticks, comes⟩
    refine ⟨Ticking.interleave?_onTime recorded.onTime turned, ?_, ?_, ?_, ?_, ?_⟩
    · rw [accepted, List.map_append, map_snd_stamped, recorded.asked]
    · rw [ran, List.map_append, map_snd_stamped, recorded.ran]
    · rcases turns with same | ⟨ticks, moment⟩
      · rw [same]
        exact Nat.le_trans now later
      · rw [ticks]
        exact Nat.le_of_eq moment.symm
    · rw [accepted]
      intro ask member
      dsimp only
      rcases List.mem_append.mp member with old | new
      · rcases recorded.askedAt ask old with ⟨since, before, within⟩
        have listed : ask.2 ∈ clocked.ticking.accepted :=
          recorded.asked ▸ List.mem_map_of_mem old
        have begun := recorded.onTime.begun ask.2 listed
        refine ⟨since, Nat.le_trans before later, fun passed => ?_⟩
        rcases Nat.lt_or_eq_of_le begun with earlier | current
        · exact within earlier
        · rw [current] at passed ⊢
          rcases turns with same | ⟨-, moment⟩
          · omega
          · exact moment ▸ Nat.le_trans before later
      · rcases mem_stamped.mp new with ⟨moment, new⟩
        rw [atTick ask.2 new, moment]
        refine ⟨Nat.le_trans now later, Nat.le_refl _, fun passed => ?_⟩
        rcases turns with same | ⟨-, moment⟩
        · omega
        · exact Nat.le_of_eq moment
    · rw [ran]
      intro record member
      rcases List.mem_append.mp member with old | new
      · exact recorded.ranAt record old
      · rcases mem_stamped.mp new with ⟨moment, new⟩
        rcases running record.2 new with ⟨rfl, now⟩
        rw [comesAt, decide_eq_true_iff, tick] at comes
        rw [now, moment]
        exact comes
  next => cases taken

theorem takeAll?_recorded {moments : List (Nanos × Turn τ)} (recorded : clocked.Recorded width)
    (taken : clocked.takeAll? moments = some next) : next.Recorded width := by
  induction moments generalizing clocked with
  | nil =>
      cases taken
      exact recorded
  | cons moment moments induction =>
      rcases Option.bind_eq_some_iff.mp taken with ⟨middle, first, rest⟩
      exact induction (take?_recorded recorded first) rest

/-! ### Delays -/

/-- What rounding up adds to a delay makes up for a part of a tick that is no longer. -/
theorem early_iff {since asked delay wait width : Nat} (tick_le : since ≤ asked)
    (le_nextTick : asked ≤ since + width) (covered : delay ≤ wait) :
    asked + delay ≤ since + wait + width ∧
      (asked + delay ≤ since + wait ↔ asked - since ≤ wait - delay) := by
  omega

/-- A task runs at its deadline, whose timeout was asked for within a tick. -/
theorem RunsAt.of_deadline {asked : Nanos} {timeout : Timeout τ} (positive : 0 < width)
    (tick_le : timeout.tick * width ≤ asked) (le_nextTick : asked ≤ (timeout.tick + 1) * width) :
    RunsAt width asked timeout ((timeout.entry width).deadline * width) := by
  have covered : timeout.delay ≤ Timer.wait width timeout.delay * width :=
    ((Timer.wait_le_iff positive _).mp (Nat.le_refl _)).2
  have due : timeout.dueAt width * width =
      timeout.tick * width + Timer.wait width timeout.delay * width := Nat.add_mul _ _ _
  have apart := early_iff tick_le (Nat.succ_mul _ _ ▸ le_nextTick) covered
  refine ⟨rfl, tick_le, le_nextTick, ?_, fun exact => ?_, fun exact => ?_⟩
  · have brought : (timeout.entry width).deadline * width ≤ timeout.dueAt width * width :=
      Nat.mul_le_mul_right width (Nat.min_le_left _ _)
    exact Nat.le_trans brought (due ▸ Nat.add_le_add_right tick_le _)
  · rw [Timeout.deadline_entry exact, due]
    exact apart.1
  · rw [Timeout.deadline_entry exact, due]
    exact apart.2

theorem Recorded.known (recorded : clocked.Recorded width) {record : Nanos × Nat × Entry τ}
    (ran : record ∈ clocked.ran) : ∃ ask ∈ clocked.asked, ask.2.id = record.2.2.id := by
  have passed : record.2 ∈ clocked.ticking.ran := recorded.ran ▸ List.mem_map_of_mem ran
  rcases recorded.onTime.ran record.2 passed with ⟨-, timeout, found, own, -⟩
  rw [← recorded.asked] at found
  rcases List.mem_map.mp found with ⟨ask, member, rfl⟩
  exact ⟨ask, member, congrArg Entry.id own⟩

theorem Recorded.runsAt (recorded : clocked.Recorded width) (positive : 0 < width)
    {asked moment : Nanos} {timeout : Timeout τ} {run : Nat × Entry τ}
    (ask : (asked, timeout) ∈ clocked.asked) (ran : (moment, run) ∈ clocked.ran)
    (sameId : run.2.id = timeout.id) (counted : timeout.tick < Timer.maxTick) :
    run.2.task = timeout.task ∧ RunsAt width asked timeout moment := by
  have known : timeout ∈ clocked.ticking.accepted := recorded.asked ▸ List.mem_map_of_mem ask
  have passed : run ∈ clocked.ticking.ran := recorded.ran ▸ List.mem_map_of_mem ran
  rcases recorded.onTime.ran run passed with ⟨reached, other, found, own, deadline⟩
  have unique : (clocked.ticking.accepted.map Timeout.id).Nodup :=
    recorded.onTime.ids ▸ List.nodup_range
  have same : timeout = other :=
    List.inj_on_of_nodup_map unique known found (sameId.symm.trans (congrArg Entry.id own).symm)
  subst same
  have deadline := deadline counted
  have ahead : timeout.tick < (timeout.entry width).deadline := Timeout.tick_lt_deadline counted
  rw [own, deadline] at ahead
  rcases recorded.askedAt _ ask with ⟨since, -, within⟩
  have moment : moment = run.1 * width := recorded.ranAt _ ran
  rw [moment, ← deadline, ← own]
  exact ⟨rfl, .of_deadline positive since (within (Nat.lt_of_lt_of_le ahead reached))⟩

/-- Whenever timeouts are asked for, their tasks run at whole ticks, never later than their delay
rounded up, and early exactly if more of the tick was gone than rounding up adds to the delay. -/
theorem takeAll?_punctual {tick : Nanos} {wheelSize maxPending : Nat}
    {moments : List (Nanos × Turn τ)}
    (taken : (start tick wheelSize maxPending).takeAll? moments = some clocked) :
    clocked.Punctual (max tick (ofMillis 1)) := by
  have recorded := takeAll?_recorded (recorded_start tick wheelSize maxPending) taken
  have positive : 0 < max tick (ofMillis 1) :=
    Nat.lt_of_lt_of_le (by decide) (Nat.le_max_right tick (ofMillis 1))
  exact ⟨recorded.asked, recorded.ran, fun _ ran => recorded.known ran,
    fun _ _ _ _ ask ran sameId counted => recorded.runsAt positive ask ran sameId counted⟩

/-- Half of the first tick is gone when a retry is asked for, and the next retry has its delay
rounded up by as much as is gone by then. -/
def midTick : List (Nanos × Turn String) :=
  [(ofMillis 50, .newTimeout (ofMillis 100) "early"),
   (ofMillis 70, .newTimeout (ofMillis 30) "exact"),
   (ofMillis 100, .advance), (ofMillis 100, .runNext), (ofMillis 100, .runNext)]

theorem takeAll?_punctual_midTick :
    ∃ clocked, (start (ofMillis 100) 8 16).takeAll? midTick = some clocked ∧
      clocked.Punctual (max (ofMillis 100) (ofMillis 1)) ∧
      clocked.ran.map (fun run => (run.1, run.2.2.task)) =
        [(ofMillis 100, "early"), (ofMillis 100, "exact")] := by
  have reached : ((start (ofMillis 100) 8 16).takeAll? midTick).map (fun clocked =>
      clocked.ran.map fun run => (run.1, run.2.2.task)) =
        some [(ofMillis 100, "early"), (ofMillis 100, "exact")] := rfl
  rcases Option.map_eq_some_iff.mp reached with ⟨clocked, taken, ran⟩
  exact ⟨clocked, taken, takeAll?_punctual taken, ran⟩

/-- A retry after a hundred milliseconds that is asked for in the middle of a tick runs fifty
milliseconds later. -/
theorem retry_runs_early :
    ¬ ∀ (tick : Nanos) (wheelSize maxPending : Nat) (moments : List (Nanos × Turn String))
      (clocked : Clocked String),
      (start tick wheelSize maxPending).takeAll? moments = some clocked →
        ∀ asked timeout moment run, (asked, timeout) ∈ clocked.asked →
          (moment, run) ∈ clocked.ran → run.2.id = timeout.id →
            asked + timeout.delay ≤ moment := by
  intro neverEarly
  have reached : ((start (ofMillis 100) 8 16).takeAll? midTick).map (fun clocked =>
      (clocked.asked.head?, clocked.ran.head?)) =
        some (some (ofMillis 50, ⟨0, 0, ofMillis 100, "early"⟩),
          some (ofMillis 100, 1, ⟨0, 1, "early"⟩)) := rfl
  rcases Option.map_eq_some_iff.mp reached with ⟨clocked, taken, records⟩
  rw [Prod.mk.injEq] at records
  have late := neverEarly _ _ _ _ clocked taken _ _ _ _ (List.mem_of_head? records.1)
    (List.mem_of_head? records.2) rfl
  exact absurd late (by decide)

end Clocked

end Telemetry.Delivery
