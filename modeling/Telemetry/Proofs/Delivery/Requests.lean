import Telemetry.Delivery.Requests
import Telemetry.Proofs.Delivery.Outstanding

namespace Telemetry.Delivery

/-! What becomes of the requests of the metadata channel. A request is in the queue, being answered,
flushed or dropped, unless it waits on the timer for its next attempt. -/

/-- Whether a request is being answered. -/
def RequestPhase.inFlight : RequestPhase → Nat
  | .requesting _ => 1
  | _ => 0

namespace RequestChannel

variable {τ : Type} {channel after : RequestChannel} {timer timerAfter : Timer τ}

/-! ### Reactions -/

/-- All that an event can do to the channel, and when. -/
inductive Reacts (task : Request → τ) (channel : RequestChannel) (timer : Timer τ) :
    RequestEvent → RequestChannel × Timer τ → Prop
  | take {request : Request} {queue : List Request} (phase : channel.phase = .idle)
      (running : channel.shutdown = false) (queued : channel.queue = request :: queue) :
      Reacts task channel timer .take ({ channel with queue, phase := .requesting request }, timer)
  | acknowledged {request : Request} (phase : channel.phase = .requesting request)
      (running : channel.shutdown = false) :
      Reacts task channel timer .acknowledged
        ({ channel with phase := .idle, flushed := channel.flushed + 1 }, timer)
  | failed {request : Request} (phase : channel.phase = .requesting request)
      (running : channel.shutdown = false) :
      Reacts task channel timer .failed
        (retryLater task request { channel with phase := .idle } timer)
  | ended (phase : channel.phase = .idle) (shut : channel.shutdown = true) :
      Reacts task channel timer .noticeShutdown (channel.finish, timer)
  | interrupted {request : Request} (phase : channel.phase = .requesting request)
      (shut : channel.shutdown = true) :
      Reacts task channel timer .noticeShutdown (channel.drop.finish, timer)

/-- Whatever an event does is one of the reactions. -/
theorem reacts_of_step? {task : Request → τ} {event : RequestEvent}
    {result : RequestChannel × Timer τ} (stepped : channel.step? task event timer = some result) :
    Reacts task channel timer event result := by
  rw [step?.eq_def] at stepped
  split at stepped
  case h_1 phase =>
    rcases Option.ite_none_left_eq_some.mp stepped with ⟨running, equal⟩
    split at equal
    next request queue queued =>
      cases equal
      exact .take phase (Bool.eq_false_iff.mpr running) queued
    next => cases equal
  case h_2 request phase =>
    rcases Option.ite_none_left_eq_some.mp stepped with ⟨running, equal⟩
    cases equal
    exact .acknowledged phase (Bool.eq_false_iff.mpr running)
  case h_3 request phase =>
    rcases Option.ite_none_left_eq_some.mp stepped with ⟨running, equal⟩
    cases equal
    exact .failed phase (Bool.eq_false_iff.mpr running)
  case h_4 phase =>
    rcases Option.ite_none_right_eq_some.mp stepped with ⟨shut, equal⟩
    cases equal
    exact .ended phase shut
  case h_5 request phase =>
    rcases Option.ite_none_right_eq_some.mp stepped with ⟨shut, equal⟩
    cases equal
    exact .interrupted phase shut
  case h_6 => cases stepped

/-! ### Flushed requests -/

theorem enqueue_flushed (request : Request) (channel : RequestChannel) :
    (channel.enqueue request).2.flushed = channel.flushed := by
  rw [enqueue]
  split <;> rfl

theorem send_flushed (frame : Frame) (channel : RequestChannel) :
    (channel.send frame).2.flushed = channel.flushed := by
  rw [send]
  dsimp only
  split
  next => rfl
  next => exact enqueue_flushed _ _

theorem retry_flushed (request : Request) (channel : RequestChannel) :
    (channel.retry request).flushed = channel.flushed := by
  rw [retry]
  split
  next => rfl
  next => exact channel.enqueue_flushed request

theorem retryLater_flushed (task : Request → τ) (request : Request) (channel : RequestChannel)
    (timer : Timer τ) : (retryLater task request channel timer).1.flushed = channel.flushed := by
  rw [retryLater]
  split
  next => rfl
  next => split <;> rfl

/-- Of all events only an acknowledgement counts a request as flushed. -/
theorem reacts_flushed {task : Request → τ} {event : RequestEvent}
    {result : RequestChannel × Timer τ} (reacts : Reacts task channel timer event result) :
    result.1.flushed = channel.flushed + if event = .acknowledged then 1 else 0 := by
  cases reacts with
  | take | acknowledged | ended | interrupted => rfl
  | failed => exact retryLater_flushed _ _ _ _

/-! ### Accounting -/

/-- The requests that are flushed, dropped, queued or being answered. -/
def handled (channel : RequestChannel) : Nat :=
  channel.flushed + channel.dropped + channel.queue.length + channel.phase.inFlight

/-- A worker that has ended leaves nothing in the queue. -/
def Emptied (channel : RequestChannel) : Prop := channel.phase = .finished → channel.queue = []

theorem enqueue_handled (request : Request) (emptied : channel.Emptied) :
    (channel.enqueue request).2.handled = channel.handled + 1 ∧
      (channel.enqueue request).2.Emptied := by
  rw [enqueue]
  split
  next =>
    refine ⟨?_, emptied⟩
    simp only [drop, handled]
    omega
  next accepts =>
    simp only [Bool.not_eq_true, Bool.or_eq_false_iff, decide_eq_false_iff_not] at accepts
    refine ⟨?_, fun finished => absurd finished accepts.1⟩
    simp only [handled, List.length_append, List.length_singleton]
    omega

theorem drop_handled (emptied : channel.Emptied) :
    channel.drop.handled = channel.handled + 1 ∧ channel.drop.Emptied := by
  refine ⟨?_, emptied⟩
  simp only [drop, handled]
  omega

theorem send_handled (frame : Frame) (emptied : channel.Emptied) :
    (channel.send frame).2.handled = channel.handled + 1 ∧ (channel.send frame).2.Emptied := by
  rw [send]
  dsimp only
  split
  next => exact drop_handled emptied
  next => exact enqueue_handled _ emptied

/-- A request that joins the queue again is queued or dropped. -/
theorem retry_handled (request : Request) (emptied : channel.Emptied) :
    (channel.retry request).handled = channel.handled + 1 ∧ (channel.retry request).Emptied := by
  rw [retry]
  split
  next => exact drop_handled emptied
  next => exact enqueue_handled request emptied

theorem finish_handled (channel : RequestChannel) :
    channel.finish.handled + channel.phase.inFlight = channel.handled ∧
      channel.finish.Emptied := by
  refine ⟨?_, fun _ => rfl⟩
  simp only [finish, handled, RequestPhase.inFlight, List.length_nil]
  omega

section Timers

variable {counted : τ → Bool} {due : List (Entry τ)} {task : Request → τ}

/-- A request whose attempt failed waits on the timer or is dropped. -/
theorem retryLater_handled (counts : ∀ request, counted (task request) = true)
    (consistent : timer.Consistent due) (request : Request) (emptied : channel.Emptied)
    (retried : retryLater task request channel timer = (after, timerAfter)) :
    timer.Carries counted due timerAfter due ∧
      after.handled + timerAfter.outstanding counted due =
        channel.handled + timer.outstanding counted due + 1 ∧ after.Emptied := by
  have dropped := drop_handled emptied
  rw [retryLater] at retried
  split at retried
  next =>
    cases retried
    exact ⟨.refl counted consistent, by rw [dropped.1]; omega, dropped.2⟩
  next =>
    split at retried
    next id accepted =>
      cases retried
      rcases Timer.schedule_carries counted consistent accepted with ⟨carries, outstanding, -⟩
      rw [counts] at outstanding
      exact ⟨carries, by rw [outstanding]; rfl, emptied⟩
    next =>
      cases retried
      exact ⟨.refl counted consistent, by rw [dropped.1]; omega, dropped.2⟩

/-- No reaction loses a request or answers for one twice. -/
theorem reacts_handled {event : RequestEvent} (counts : ∀ request, counted (task request) = true)
    (consistent : timer.Consistent due) (emptied : channel.Emptied)
    (reacts : Reacts task channel timer event (after, timerAfter)) :
    timer.Carries counted due timerAfter due ∧
      after.handled + timerAfter.outstanding counted due =
        channel.handled + timer.outstanding counted due ∧ after.Emptied := by
  generalize outcome : (after, timerAfter) = result at reacts
  cases reacts with
  | take phase running queued =>
      cases outcome
      refine ⟨.refl counted consistent, ?_, nofun⟩
      simp only [handled, phase, queued, RequestPhase.inFlight, List.length_cons]
      omega
  | acknowledged phase running =>
      cases outcome
      refine ⟨.refl counted consistent, ?_, nofun⟩
      simp only [handled, phase, RequestPhase.inFlight]
      omega
  | @failed request phase running =>
      have idle : ({ channel with phase := .idle } : RequestChannel).handled + 1 =
          channel.handled := by
        simp only [handled, phase, RequestPhase.inFlight]
      have unfinished : ({ channel with phase := .idle } : RequestChannel).Emptied := nofun
      rcases retryLater_handled counts consistent request unfinished outcome.symm with
        ⟨carries, accounted, emptied⟩
      exact ⟨carries, by omega, emptied⟩
  | ended phase shut =>
      cases outcome
      rcases channel.finish_handled with ⟨handled, emptied⟩
      rw [phase] at handled
      exact ⟨.refl counted consistent, by rw [← handled]; rfl, emptied⟩
  | interrupted phase shut =>
      cases outcome
      rcases channel.drop.finish_handled with ⟨handled, emptied⟩
      rw [(drop_handled ‹channel.Emptied›).1] at handled
      have inFlight : channel.drop.phase.inFlight = 1 := by
        rw [drop, phase]
        rfl
      exact ⟨.refl counted consistent, by omega, emptied⟩

end Timers

end RequestChannel

end Telemetry.Delivery
