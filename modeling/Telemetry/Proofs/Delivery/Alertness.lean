import Telemetry.Proofs.Delivery.Reconnecting

namespace Telemetry.Delivery

/-! How a streaming channel stands to the wake-ups that are on their way to it. While it waits for
its next attempt there is one, on the timer or already delivered; at any other time there is none,
so a later wait cannot be ended by something left over from an earlier one. -/

namespace Reconnector

variable {reconnector resumed : Reconnector} {stopped stoppedAfter : Bool}
  {coming comingAfter : Nat}

/-- The notifications that the channel has not taken notice of: a permit, or the end of its wait. -/
def notices (reconnector : Reconnector) : Nat :=
  reconnector.permit.toNat + (decide (reconnector.listener = .woken)).toNat

/-- Nothing of an earlier attempt is left over. -/
structure Quiet (reconnector : Reconnector) : Prop where
  inUse : reconnector.shutdown = false
  fallback : reconnector.fallback = none
  permit : reconnector.permit = false
  away : reconnector.listener = .away

/-- An attempt was scheduled on the timer, which has still to run `coming` tasks for the channel. -/
structure Waits (reconnector : Reconnector) (stopped : Bool) (coming : Nat) : Prop where
  inUse : reconnector.shutdown = false
  fallback : reconnector.fallback = none
  listening : reconnector.listener = .waiting → reconnector.permit = false
  single : coming + reconnector.notices ≤ 1
  /-- The wake-up is lost with the timer only. -/
  awaited : stopped = false → coming + reconnector.notices = 1

theorem Quiet.notices (quiet : reconnector.Quiet) : reconnector.notices = 0 := by
  rw [Reconnector.notices, quiet.permit, quiet.away]
  rfl

theorem Quiet.reset (quiet : reconnector.Quiet) : reconnector.reset.Quiet :=
  ⟨quiet.inUse, rfl, quiet.permit, quiet.away⟩

/-- What remains of the timer's tasks when some of them are gone with the timer. -/
theorem Waits.mono (waits : reconnector.Waits stopped coming) (fewer : comingAfter ≤ coming)
    (kept : stoppedAfter = false → stopped = false ∧ comingAfter = coming) :
    reconnector.Waits stoppedAfter comingAfter := by
  refine ⟨waits.inUse, waits.fallback, waits.listening, ?_, fun running => ?_⟩
  · exact Nat.le_trans (Nat.add_le_add_right fewer _) waits.single
  · rcases kept running with ⟨ran, rfl⟩
    exact waits.awaited ran

/-- The task of the timer turns from something to come into a notification. -/
theorem Waits.fire (waits : reconnector.Waits stopped (coming + 1)) :
    reconnector.fire.Waits stopped coming := by
  rcases waits with ⟨inUse, fallback, listening, single, -⟩
  have last : coming = 0 := by omega
  have unnoticed : reconnector.notices = 0 := by omega
  rw [Reconnector.fire, if_neg (by simp [inUse])]
  split
  next listens =>
    have permit := listening listens
    refine ⟨inUse, fallback, fun woken => (by cases woken), ?_, fun _ => ?_⟩ <;>
      simp [Reconnector.notices, permit, last]
  next leaves =>
    refine ⟨inUse, fallback, fun listens => ?_, ?_, fun _ => ?_⟩
    · rw [leaves] at listens
      cases listens
    · simp [Reconnector.notices, leaves, last]
    · simp [Reconnector.notices, leaves, last]
  next woken => simp [Reconnector.notices, woken] at unnoticed

/-- A permit that was left ends the wait as it begins. -/
theorem Waits.listen (waits : reconnector.Waits stopped coming)
    (leaves : reconnector.listener = .away) : reconnector.listen.Waits stopped coming := by
  rcases waits with ⟨inUse, fallback, -, single, awaited⟩
  rw [Reconnector.notices, leaves] at single awaited
  rw [Reconnector.listen]
  split
  next permit =>
    rw [permit] at single awaited
    exact ⟨inUse, fallback, fun woken => (by cases woken), single, awaited⟩
  next noPermit =>
    have noPermit := Bool.eq_false_iff.mpr noPermit
    rw [noPermit] at single awaited
    refine ⟨inUse, fallback, fun _ => noPermit, ?_, ?_⟩
    · simpa [Reconnector.notices, noPermit] using single
    · simpa [Reconnector.notices, noPermit] using awaited

/-- Whoever has not begun to listen is not told apart from who listens by the number of wake-ups. -/
theorem Waits.leave (waits : reconnector.Waits stopped coming)
    (listens : reconnector.listener = .waiting) :
    Waits { reconnector with listener := .away } stopped coming := by
  rcases waits with ⟨inUse, fallback, -, single, awaited⟩
  rw [Reconnector.notices, listens] at single awaited
  exact ⟨inUse, fallback, nofun, single, awaited⟩

/-- Going on uses the one wake-up up. -/
theorem Waits.resume (waits : reconnector.Waits stopped coming)
    (resumes : reconnector.resume? = some resumed) : resumed.Quiet ∧ coming = 0 := by
  rcases Option.ite_none_right_eq_some.mp resumes with ⟨woken, equal⟩
  cases equal
  have single := waits.single
  rw [Reconnector.notices, woken] at single
  cases permit : reconnector.permit with
  | true =>
      rw [permit] at single
      simp at single
  | false =>
      rw [permit] at single
      simp only [Bool.toNat_false, decide_true, Bool.toNat_true] at single
      exact ⟨⟨waits.inUse, waits.fallback, rfl, rfl⟩, by omega⟩

end Reconnector

namespace Stream

variable {τ : Type} {stream after : Stream} {stopped stoppedAfter : Bool} {coming comingAfter : Nat}

/-- The wake-ups of the channel are as its phase asks for. One whose dispatcher has ended is woken
up no more. -/
def Alert (stream : Stream) (stopped : Bool) (coming : Nat) : Prop :=
  match stream.phase with
  | .waiting => stream.reconnector.Waits stopped coming
  | .finished => True
  | _ => stream.reconnector.Quiet ∧ coming = 0

theorem alert_start (channel : Channel) (capacity : Nat) (backoff : Backoff) (stopped : Bool) :
    (start channel capacity backoff).Alert stopped 0 :=
  ⟨⟨rfl, rfl, rfl, rfl⟩, rfl⟩

namespace Alert

theorem of_same (alert : stream.Alert stopped coming) (phase : after.phase = stream.phase)
    (reconnector : after.reconnector = stream.reconnector) : after.Alert stopped coming := by
  rw [Alert, phase, reconnector]
  exact alert

theorem of_finished (finished : stream.phase = .finished) : stream.Alert stopped coming := by
  rw [Alert, finished]
  trivial

theorem mono (alert : stream.Alert stopped coming) (fewer : comingAfter ≤ coming)
    (kept : stoppedAfter = false → stopped = false ∧ comingAfter = coming) :
    stream.Alert stoppedAfter comingAfter := by
  rw [Alert] at alert ⊢
  split
  next phase =>
    rw [phase] at alert
    exact alert.mono fewer kept
  next => trivial
  next =>
    split at alert
    next => contradiction
    next => contradiction
    next => exact ⟨alert.1, Nat.eq_zero_of_le_zero (alert.2 ▸ fewer)⟩

theorem wake (alert : stream.Alert stopped (coming + 1)) : stream.wake.Alert stopped coming := by
  rw [Alert] at alert ⊢
  change match stream.phase with
    | .waiting => stream.reconnector.fire.Waits stopped coming
    | .finished => True
    | _ => stream.reconnector.fire.Quiet ∧ coming = 0
  split
  next phase =>
    rw [phase] at alert
    exact alert.fire
  next => trivial
  next =>
    -- Nothing was on its way to a channel that does not wait.
    split at alert
    next => contradiction
    next => contradiction
    next => cases alert.2

end Alert

/-! ### Waiting -/

/-- Begins to listen for a task of the timer. -/
def listen? (stream : Stream) : Option Stream :=
  if stream.phase = .waiting ∧ stream.reconnector.listener = .away then
    some { stream with reconnector := stream.reconnector.listen }
  else none

/-- Has not begun to listen yet, though its attempt is scheduled. -/
def defer? (stream : Stream) : Option Stream :=
  if stream.phase = .waiting ∧ stream.reconnector.listener = .waiting then
    some { stream with reconnector := { stream.reconnector with listener := .away } }
  else none

/-- The channel gets on with its wait, which leaves its wake-ups as they are. -/
structure Adjusts (before after : Stream) : Prop where
  same : ∃ reconnector, after = { before with reconnector }
  scheduled : after.reconnector.scheduled = before.reconnector.scheduled
  alert : ∀ {stopped coming}, before.Alert stopped coming → after.Alert stopped coming

theorem listen?_adjusts (listens : stream.listen? = some after) : stream.Adjusts after := by
  rcases Option.ite_none_right_eq_some.mp listens with ⟨⟨phase, leaves⟩, equal⟩
  cases equal
  refine ⟨⟨_, rfl⟩, ?_, fun alert => ?_⟩
  · rw [Reconnector.listen]
    split <;> rfl
  · rw [Alert, phase] at alert ⊢
    exact alert.listen leaves

theorem defer?_adjusts (defers : stream.defer? = some after) : stream.Adjusts after := by
  rcases Option.ite_none_right_eq_some.mp defers with ⟨⟨phase, listens⟩, equal⟩
  cases equal
  refine ⟨⟨_, rfl⟩, rfl, fun alert => ?_⟩
  rw [Alert, phase] at alert ⊢
  exact alert.leave listens

/-- A task that runs while the channel is late to listen has the effect of one that finds it
listening. -/
theorem listen?_wake_of_defer? (defers : stream.defer? = some after)
    (inUse : stream.reconnector.shutdown = false) (permit : stream.reconnector.permit = false) :
    after.wake.listen? = some stream.wake ∧ after.listen? = some stream := by
  rcases Option.ite_none_right_eq_some.mp defers with ⟨⟨phase, listens⟩, equal⟩
  cases equal
  constructor
  · simp [wake, listen?, Reconnector.fire, Reconnector.listen, phase, listens, inUse, permit]
  · have same : { stream with
        reconnector := { stream.reconnector with listener := .waiting } } = stream := by
      rw [← listens]
    rw [listen?, if_pos ⟨phase, rfl⟩, Reconnector.listen, if_neg (by simp [permit])]
    exact congrArg some same

/-! ### The timer

Whether tasks of this channel are counted or not, it only adds one timeout or cancels one. -/

variable (counted : τ → Bool) {timer : Timer τ} {due : List (Entry τ)} {now : Nanos} {task : τ}

theorem finish_keeps (consistent : timer.Consistent due) :
    timer.Carries counted due (stream.finish timer).2 due ∧
      (stream.finish timer).2.stopped = timer.stopped := by
  change timer.Carries counted due (stream.reconnector.close timer).2 due ∧ _
  rw [finish, Reconnector.close]
  split
  next id pending =>
    have settles : Timer.Settles timer [id] (timer.cancel id).2 :=
      Timer.settle_settles timer id (by decide)
    exact ⟨settles.carries consistent, settles.stopped⟩
  next => exact ⟨.refl counted consistent, rfl⟩

theorem scheduleReconnect_keeps (consistent : timer.Consistent due) :
    timer.Carries counted due (stream.scheduleReconnect now task timer).2 due ∧
      (stream.scheduleReconnect now task timer).2.stopped = timer.stopped := by
  rw [scheduleReconnect, Reconnector.schedule]
  dsimp only
  cases scheduled : timer.schedule
      (stream.reconnector.backoff.delay ((stream.reconnector.failures.recordFailure now).consecutive
        - 1)) task with
  | error cause =>
      cases cause with
      | stopped => exact finish_keeps counted consistent
      | tooManyPending => exact ⟨.refl counted consistent, rfl⟩
  | ok accepted =>
      rcases accepted with ⟨id, timerAfter⟩
      rcases Timer.schedule_eq_ok consistent.wheel scheduled with ⟨-, running, runningAfter, -⟩
      have carries := (Timer.schedule_carries counted consistent scheduled).1
      have stopped := runningAfter.trans running.symm
      dsimp only
      cases stream.reconnector.fallback <;> exact ⟨carries, stopped⟩

theorem reacts_keeps {event : StreamEvent} {result : Stream × Timer τ}
    (consistent : timer.Consistent due) (reacts : Reacts now task stream timer event result) :
    timer.Carries counted due result.2 due ∧ result.2.stopped = timer.stopped := by
  cases reacts with
  | begin | connected | take | written | notified | slept | disconnecting | interrupted =>
      exact ⟨.refl counted consistent, rfl⟩
  | refused | peerClosed | writeFailed => exact scheduleReconnect_keeps counted consistent
  | beginCancelled | abandoned | completed => exact finish_keeps counted consistent

variable {counted}

/-- A shutdown flag stays set. -/
theorem reacts_cancelled {event : StreamEvent} {result : Stream × Timer τ}
    (reacts : Reacts now task stream timer event result) (cancelled : stream.cancelled = true) :
    result.1.cancelled = true := by
  cases reacts with
  | beginCancelled | abandoned | disconnecting | interrupted | completed => exact cancelled
  | begin phase running | connected phase running | refused phase running | take phase running
  | written phase running | writeFailed phase running | peerClosed phase running
  | notified phase running | slept phase running =>
      rw [running] at cancelled
      cases cancelled

/-! ### Reactions -/

variable {claimed : Nat}

/-- A channel that loses its connection is woken up once: by the timer, or by itself where the timer
has no room. -/
theorem scheduleReconnect_alert (consistent : timer.Consistent due) (counts : counted task = true)
    (quiet : stream.reconnector.Quiet) (none : timer.outstanding counted due + claimed = 0) :
    (stream.scheduleReconnect now task timer).1.Alert
      (stream.scheduleReconnect now task timer).2.stopped
      ((stream.scheduleReconnect now task timer).2.outstanding counted due + claimed) := by
  rw [scheduleReconnect, Reconnector.schedule]
  dsimp only
  cases scheduled : timer.schedule
      (stream.reconnector.backoff.delay ((stream.reconnector.failures.recordFailure now).consecutive
        - 1)) task with
  | error cause =>
      cases cause with
      | stopped => exact .of_finished rfl
      | tooManyPending => exact ⟨⟨quiet.inUse, rfl, quiet.permit, quiet.away⟩, none⟩
  | ok accepted =>
      rcases accepted with ⟨id, timerAfter⟩
      rcases Timer.schedule_carries counted consistent scheduled with ⟨-, outstanding, -⟩
      rw [counts] at outstanding
      dsimp only
      rw [quiet.fallback]
      dsimp only
      have one : timerAfter.outstanding counted due + claimed = 1 := by
        rw [outstanding]
        simp only [Bool.toNat_true]
        omega
      have waits : Reconnector.Waits { stream.reconnector with
          failures := stream.reconnector.failures.recordFailure now
          scheduled := some id
          fallback := .none
          reconnects := stream.reconnector.reconnects + 1 } timerAfter.stopped
          (timerAfter.outstanding counted due + claimed) := by
        have unnoticed := quiet.notices
        rw [Reconnector.notices] at unnoticed
        refine ⟨quiet.inUse, rfl, fun _ => quiet.permit, ?_, fun _ => ?_⟩ <;>
          simp only [one, Reconnector.notices, unnoticed, Nat.add_zero, Nat.le_refl]
      exact waits.listen quiet.away

theorem reacts_alert {event : StreamEvent} {result : Stream × Timer τ}
    (consistent : timer.Consistent due) (counts : counted task = true)
    (alert : stream.Alert timer.stopped (timer.outstanding counted due + claimed))
    (reacts : Reacts now task stream timer event result) :
    result.1.Alert result.2.stopped (result.2.outstanding counted due + claimed) := by
  cases reacts with
  | begin phase | written phase | slept phase | disconnecting phase | interrupted phase =>
      rw [Alert, phase] at alert
      exact alert
  | connected phase =>
      rw [Alert, phase] at alert
      exact ⟨alert.1.reset, alert.2⟩
  | take phase running available =>
      rw [Alert, phase] at alert
      rcases next?_eq_some available with ⟨queue, rfl, -, -⟩
      exact alert
  | refused phase | peerClosed phase | writeFailed phase =>
      rw [Alert, phase] at alert
      exact scheduleReconnect_alert consistent counts alert.1 alert.2
  | notified phase running woken =>
      rw [Alert, phase] at alert
      exact alert.resume woken
  | beginCancelled | abandoned | completed => exact .of_finished rfl

end Stream

end Telemetry.Delivery
