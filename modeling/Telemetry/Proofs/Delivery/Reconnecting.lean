import Telemetry.Proofs.Delivery.Conservation
import Telemetry.Proofs.Delivery.Outstanding

namespace Telemetry.Delivery

/-! What a streaming channel does to the timer it shares. It schedules its own attempts and cancels
no others, so what the timer has to run for anybody else stays as it is. -/

variable {τ : Type} {counted : τ → Bool} {timer middle after : Timer τ} {due : List (Entry τ)}
  {scheduled scheduledAfter : Option Nat} {now : Nanos} {task : τ}

/-- From `timer` to `after` nothing counted was touched, and the attempt that is `scheduled`
afterwards is not counted. -/
structure Serves (counted : τ → Bool) (due : List (Entry τ)) (timer after : Timer τ)
    (scheduled : Option Nat) : Prop where
  carries : timer.Carries counted due after due
  outstanding : after.outstanding counted due = timer.outstanding counted due
  own : ∀ id ∈ scheduled, after.Exempt counted due id

namespace Serves

protected theorem refl (consistent : timer.Consistent due)
    (own : ∀ id ∈ scheduled, timer.Exempt counted due id) :
    Serves counted due timer timer scheduled :=
  ⟨.refl counted consistent, rfl, own⟩

protected theorem trans (first : Serves counted due timer middle scheduled)
    (second : Serves counted due middle after scheduledAfter) :
    Serves counted due timer after scheduledAfter :=
  ⟨⟨second.carries.consistent, fun id exempt =>
      second.carries.exempt id (first.carries.exempt id exempt),
      fun stopped => second.carries.stopped (first.carries.stopped stopped)⟩,
    second.outstanding.trans first.outstanding, second.own⟩

end Serves

namespace Reconnector

variable {reconnector : Reconnector}

theorem close_serves (consistent : timer.Consistent due)
    (own : ∀ id ∈ reconnector.scheduled, timer.Exempt counted due id) :
    Serves counted due timer (reconnector.close timer).2 (reconnector.close timer).1.scheduled := by
  rw [close]
  split
  next id pending =>
    have settles : Timer.Settles timer [id] (timer.cancel id).2 :=
      Timer.settle_settles timer id nofun
    exact ⟨settles.carries consistent, Timer.outstanding_settles (own id pending) settles, nofun⟩
  next => exact .refl consistent nofun

theorem schedule_serves (consistent : timer.Consistent due) (uncounted : counted task = false)
    (own : ∀ id ∈ reconnector.scheduled, timer.Exempt counted due id) :
    Serves counted due timer (reconnector.schedule now task timer).2.2
      (reconnector.schedule now task timer).2.1.scheduled := by
  rw [schedule]
  dsimp only
  split
  next id after accepted =>
    rcases Timer.schedule_carries counted consistent accepted with ⟨carries, outstanding, exempt⟩
    refine ⟨carries, by rw [outstanding, uncounted]; rfl, ?_⟩
    rintro other ⟨⟩
    exact exempt uncounted
  next => exact .refl consistent own
  next => exact .refl consistent own

theorem fire_scheduled (reconnector : Reconnector) :
    reconnector.fire.scheduled = reconnector.scheduled := by
  rw [fire]
  split
  next => rfl
  next => split <;> rfl

end Reconnector

namespace Stream

variable {stream : Stream}

theorem finish_serves (consistent : timer.Consistent due)
    (own : ∀ id ∈ stream.reconnector.scheduled, timer.Exempt counted due id) :
    Serves counted due timer (stream.finish timer).2
      (stream.finish timer).1.reconnector.scheduled :=
  Reconnector.close_serves consistent own

theorem scheduleReconnect_serves (consistent : timer.Consistent due)
    (uncounted : counted task = false)
    (own : ∀ id ∈ stream.reconnector.scheduled, timer.Exempt counted due id) :
    Serves counted due timer (stream.scheduleReconnect now task timer).2
      (stream.scheduleReconnect now task timer).1.reconnector.scheduled := by
  have serves : Serves counted due timer (stream.reconnector.schedule now task timer).2.2
      (stream.reconnector.schedule now task timer).2.1.scheduled :=
    Reconnector.schedule_serves consistent uncounted own
  rw [scheduleReconnect]
  dsimp only
  split
  next scheduled =>
    rw [scheduled] at serves
    exact serves.trans (finish_serves serves.carries.consistent serves.own)
  next scheduled =>
    rw [scheduled] at serves
    split
    next => exact serves
    next =>
      rw [Reconnector.listen]
      split <;> exact serves

theorem reacts_serves {event : StreamEvent} {result : Stream × Timer τ}
    (consistent : timer.Consistent due) (uncounted : counted task = false)
    (own : ∀ id ∈ stream.reconnector.scheduled, timer.Exempt counted due id)
    (reacts : Reacts now task stream timer event result) :
    Serves counted due timer result.2 result.1.reconnector.scheduled := by
  cases reacts with
  | begin | disconnecting | interrupted | slept | written => exact .refl consistent own
  | connected phase running => exact .refl consistent nofun
  | beginCancelled | abandoned | completed => exact finish_serves consistent own
  | refused | peerClosed => exact scheduleReconnect_serves consistent uncounted own
  | writeFailed phase running => exact scheduleReconnect_serves consistent uncounted own
  | take phase running available =>
      rcases next?_eq_some available with ⟨queue, rfl, -, -⟩
      exact .refl consistent own
  | notified phase running woken =>
      rcases Option.ite_none_right_eq_some.mp woken with ⟨-, equal⟩
      cases equal
      exact .refl consistent own

end Stream

end Telemetry.Delivery
