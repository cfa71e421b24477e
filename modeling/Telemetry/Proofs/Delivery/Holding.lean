import Telemetry.Delivery.Transport
import Telemetry.Proofs.Delivery.Requests
import Telemetry.Proofs.Delivery.Wheel

namespace Telemetry.Delivery

/-! Which requests a metadata channel and its timer hold. Every attempt at a request is made with
the id and the frame of the first one, so nothing is ever held that was not handed over. -/

/-- What all attempts at a request have in common. -/
def Request.numbered (request : Request) : UInt64 × Frame := (request.id, request.frame)

/-- The request that a job is about is one of those that were handed over. -/
def Job.About (assigned : List (UInt64 × Frame)) : Job → Prop
  | .retry request => request.numbered ∈ assigned
  | .reconnect _ => True
  | .unrelated => True

structure RequestChannel.Holds (assigned : List (UInt64 × Frame)) (channel : RequestChannel) :
    Prop where
  queued : ∀ request ∈ channel.queue, request.numbered ∈ assigned
  inFlight : ∀ request, channel.phase = .requesting request → request.numbered ∈ assigned

structure Timer.Holds (assigned : List (UInt64 × Frame)) (timer : Timer Job)
    (due : List (Entry Job)) : Prop where
  wheel : 0 < timer.buckets.size
  tasks : ∀ entry ∈ timer.entries ++ due, entry.task.About assigned

variable {assigned more : List (UInt64 × Frame)} {channel after : RequestChannel}
  {timer timerAfter : Timer Job} {due : List (Entry Job)} {request : Request}

theorem Job.About.mono {job : Job} (about : job.About assigned) (grown : assigned ⊆ more) :
    job.About more := by
  cases job with
  | retry request => exact grown about
  | reconnect channel => trivial
  | unrelated => trivial

theorem RequestChannel.Holds.mono (holds : channel.Holds assigned) (grown : assigned ⊆ more) :
    channel.Holds more :=
  ⟨fun request member => grown (holds.queued request member),
    fun request phase => grown (holds.inFlight request phase)⟩

/-! ### Timers -/

namespace Timer

theorem holds_start (tick : Nanos) (wheelSize maxPending : Nat) :
    (Timer.start tick wheelSize maxPending : Timer Job).Holds assigned [] where
  wheel := by
    rw [start, Array.size_replicate]
    omega
  tasks := by simp [entries_start]

theorem Holds.mono (holds : timer.Holds assigned due) (grown : assigned ⊆ more) :
    timer.Holds more due :=
  ⟨holds.wheel, fun entry member => (holds.tasks entry member).mono grown⟩

theorem Holds.schedule {delay : Nanos} {job : Job} {id : Nat} (holds : timer.Holds assigned due)
    (about : job.About assigned) (scheduled : timer.schedule delay job = .ok (id, timerAfter)) :
    timerAfter.Holds assigned due := by
  rcases schedule_eq_ok holds.wheel scheduled with ⟨-, -, -, -, size, deadline, places⟩
  refine ⟨size ▸ holds.wheel, fun entry member => ?_⟩
  rcases List.mem_append.mp member with onWheel | member
  · cases places.mem_iff.mp onWheel with
    | head => exact about
    | tail _ old => exact holds.tasks entry (List.mem_append_left due old)
  · exact holds.tasks entry (List.mem_append_right _ member)

/-- A timeout that leaves the pending state keeps its task until it is collected and claimed. -/
theorem Holds.settle {id : Nat} {status : TimeoutStatus} {left : List (Entry Job)}
    (holds : timer.Holds assigned due) (settled : status ≠ .pending)
    (shorter : ∀ entry ∈ left, entry ∈ due) :
    (timer.settle id status).2.Holds assigned left := by
  have settles := settle_settles timer id settled
  refine ⟨settles.wheel ▸ holds.wheel, fun entry member => holds.tasks entry ?_⟩
  rw [settles.entries] at member
  rcases List.mem_append.mp member with onWheel | member
  · exact List.mem_append_left due onWheel
  · exact List.mem_append_right _ (shorter entry member)

theorem Holds.collectDue (holds : timer.Holds assigned due) :
    timer.collectDue.2.Holds assigned (due ++ timer.collectDue.1) := by
  rcases collectDue_perm holds.wheel with ⟨ended, places, -⟩
  refine ⟨Nat.lt_of_lt_of_eq holds.wheel Array.size_setIfInBounds.symm, fun entry member => ?_⟩
  apply holds.tasks
  rw [List.mem_append, places.mem_iff]
  simp only [List.mem_append] at member ⊢
  grind

theorem Holds.stop (holds : timer.Holds assigned due) : timer.stop.2.Holds assigned due := by
  cases stopped : timer.stopped with
  | true => rwa [stop_of_stopped stopped]
  | false =>
      rcases stop_settles stopped with ⟨emptied, none, -, -, wheel, settles⟩
      refine ⟨?_, fun entry member => ?_⟩
      · rw [settles.wheel, wheel]
        exact holds.wheel
      · rw [settles.entries, none, List.nil_append] at member
        exact holds.tasks entry (List.mem_append_right _ member)

end Timer

/-! ### Channels -/

namespace RequestChannel

theorem enqueue_eq (request : Request) (channel : RequestChannel) :
    (channel.enqueue request).2 = { channel with
      queue := (channel.enqueue request).2.queue
      dropped := (channel.enqueue request).2.dropped } := by
  rw [enqueue]
  split <;> rfl

theorem Holds.enqueue (holds : channel.Holds assigned) (known : request.numbered ∈ assigned) :
    (channel.enqueue request).2.Holds assigned := by
  rw [RequestChannel.enqueue]
  split
  next => exact ⟨holds.queued, holds.inFlight⟩
  next =>
    refine ⟨fun other member => ?_, holds.inFlight⟩
    rcases List.mem_append.mp member with old | new
    · exact holds.queued other old
    · exact List.mem_singleton.mp new ▸ known

/-- A frame that is sent is given its id and then takes the way that a retry takes. -/
theorem send_eq_retry (frame : Frame) (channel : RequestChannel) :
    (channel.send frame).2 =
      { channel with nextId := channel.nextId + 1 }.retry ⟨channel.nextId, frame, 0⟩ := by
  rw [RequestChannel.send, RequestChannel.retry]
  dsimp only
  split <;> rfl

theorem Holds.retry (holds : channel.Holds assigned) (known : request.numbered ∈ assigned) :
    (channel.retry request).Holds assigned ∧ (channel.retry request).nextId = channel.nextId := by
  rw [RequestChannel.retry]
  split
  next => exact ⟨⟨holds.queued, holds.inFlight⟩, rfl⟩
  next => exact ⟨holds.enqueue known, by rw [enqueue_eq]⟩

/-- A request that waits for its next attempt waits with its id and frame. -/
theorem Holds.retryLater (holds : channel.Holds assigned)
    (timerHolds : timer.Holds assigned due) (known : request.numbered ∈ assigned)
    (retried : retryLater Job.retry request channel timer = (after, timerAfter)) :
    after.Holds assigned ∧ timerAfter.Holds assigned due ∧ after.nextId = channel.nextId := by
  rw [RequestChannel.retryLater] at retried
  split at retried
  next =>
    cases retried
    exact ⟨⟨holds.queued, holds.inFlight⟩, timerHolds, rfl⟩
  next =>
    split at retried
    next id accepted scheduled =>
      cases retried
      have about : (Job.retry { request with attempt := request.attempt + 1 }).About assigned :=
        known
      exact ⟨holds, timerHolds.schedule about scheduled, rfl⟩
    next =>
      cases retried
      exact ⟨⟨holds.queued, holds.inFlight⟩, timerHolds, rfl⟩

/-- No event brings in a request from elsewhere. -/
theorem step?_holds {event : RequestEvent} (holds : channel.Holds assigned)
    (timerHolds : timer.Holds assigned due)
    (stepped : channel.step? Job.retry event timer = some (after, timerAfter)) :
    after.Holds assigned ∧ timerAfter.Holds assigned due ∧ after.nextId = channel.nextId := by
  have reacts := reacts_of_step? stepped
  generalize outcome : (after, timerAfter) = result at reacts
  cases reacts with
  | @take request queue phase running queued =>
      cases outcome
      refine ⟨⟨fun other member => ?_, fun other taken => ?_⟩, timerHolds, rfl⟩
      · exact holds.queued other (queued ▸ List.mem_cons_of_mem request member)
      · cases taken
        exact holds.queued request (queued ▸ List.mem_cons_self)
  | acknowledged phase running =>
      cases outcome
      exact ⟨⟨holds.queued, nofun⟩, timerHolds, rfl⟩
  | @failed request phase running =>
      have idle : Holds assigned { channel with phase := .idle } := ⟨holds.queued, nofun⟩
      exact idle.retryLater timerHolds (holds.inFlight request phase) outcome.symm
  | ended phase shut =>
      cases outcome
      exact ⟨⟨nofun, nofun⟩, timerHolds, rfl⟩
  | interrupted phase shut =>
      cases outcome
      exact ⟨⟨nofun, nofun⟩, timerHolds, rfl⟩

end RequestChannel

end Telemetry.Delivery
