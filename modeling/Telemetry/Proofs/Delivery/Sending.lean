import Mathlib.Algebra.Group.Nat.Defs
import Telemetry.Proofs.Delivery.Holding

namespace Telemetry.Delivery

/-! A sender of metadata requests at work: the channel, its timer and the callers that hand frames
over, in any order of their steps. A frame is given its id before it reaches the queue, and callers
may overtake each other between the two. -/

structure Sender where
  channel : RequestChannel
  timer : Timer Job
  /-- The timeouts that the timer has collected and not claimed yet. -/
  due : List (Entry Job)
  /-- The task that was claimed and has not run yet. -/
  claimed : Option Job
  /-- The requests that were given their ids and have not reached the queue yet. -/
  entering : List Request
  /-- The ids that were given, each with its frame. -/
  assigned : List (UInt64 × Frame)

namespace Sender

inductive Move where
  /-- A caller's frame is given its id. -/
  | number (frame : Frame)
  /-- One of the requests that have an id reaches the queue, or finds no room there. -/
  | submit (place : Nat)
  | take
  | shutdown
  | noticeShutdown
  /-- Another user of the timer schedules a timeout. -/
  | occupy (delay : Nanos)
  /-- Another user of the timer cancels a timeout. -/
  | cancel (id : Nat)
  /-- The timer is advanced by one tick. -/
  | collect
  | claim
  | run
  | stopTimer
deriving DecidableEq, Repr

def start (capacity : Nat) (retryDelay : Nanos) (maxRetries : Nat) (timer : Timer Job) :
    Sender where
  channel := .start capacity retryDelay maxRetries
  timer := timer
  due := []
  claimed := none
  entering := []
  assigned := []

/-- The request that is waiting for its answer. -/
def inFlight? (sender : Sender) : Option Request :=
  match sender.channel.phase with
  | .requesting request => some request
  | _ => none

def event? (event : RequestEvent) (sender : Sender) : Option Sender :=
  (sender.channel.step? .retry event sender.timer).map fun (channel, timer) =>
    { sender with channel, timer }

/-- What the task of a timeout does. Only retries concern the channel. -/
def perform (sender : Sender) : Job → Sender
  | .retry request => { sender with channel := sender.channel.retry request }
  | .reconnect _ => sender
  | .unrelated => sender

def move? (sender : Sender) : Move → Option Sender
  | .number frame =>
      let id := sender.channel.nextId
      some { sender with
        channel := { sender.channel with nextId := id + 1 }
        entering := sender.entering ++ [⟨id, frame, 0⟩]
        assigned := sender.assigned ++ [(id, frame)] }
  | .submit place =>
      sender.entering[place]?.map fun request =>
        { sender with
          channel := sender.channel.retry request
          entering := sender.entering.eraseIdx place }
  | .take => sender.event? .take
  | .shutdown => some { sender with channel := sender.channel.close }
  | .noticeShutdown => sender.event? .noticeShutdown
  | .occupy delay =>
      match sender.timer.schedule delay .unrelated with
      | .ok (_, timer) => some { sender with timer }
      | .error _ => some sender
  | .cancel id => some { sender with timer := (sender.timer.cancel id).2 }
  | .collect =>
      let (due, timer) := sender.timer.collectDue
      some { sender with timer, due := sender.due ++ due }
  | .claim =>
      match sender.due, sender.claimed with
      | entry :: due, none =>
          let (won, timer) := sender.timer.expire entry.id
          some { sender with timer, due, claimed := if won then some entry.task else none }
      | _, _ => none
  | .run => sender.claimed.map fun job => { sender.perform job with claimed := none }
  | .stopTimer => some { sender with timer := sender.timer.stop.2 }

/-- A call that nobody overtakes sends its frame. -/
theorem submit_number (frame : Frame) (sender : Sender) :
    ((sender.move? (.number frame)).bind fun numbered =>
        numbered.move? (.submit sender.entering.length)) =
      some { sender with
        channel := (sender.channel.send frame).2
        assigned := sender.assigned ++ [(sender.channel.nextId, frame)] } := by
  simp [move?, RequestChannel.send_eq_retry, List.eraseIdx_append_of_length_le]

/-- Whatever the sender still has to do is about a request that it has numbered, and ids are given
in turn. -/
structure Tracked (sender : Sender) : Prop where
  channel : sender.channel.Holds sender.assigned
  timer : sender.timer.Holds sender.assigned sender.due
  claimed : ∀ job ∈ sender.claimed, job.About sender.assigned
  entering : ∀ request ∈ sender.entering, request.numbered ∈ sender.assigned
  ids : ∀ place id frame, sender.assigned[place]? = some (id, frame) →
    id = UInt64.ofNat (place + 1)
  nextId : sender.channel.nextId = UInt64.ofNat (sender.assigned.length + 1)

theorem tracked_start (capacity : Nat) (retryDelay : Nanos) (maxRetries : Nat) (tick : Nanos)
    (wheelSize maxPending : Nat) :
    (start capacity retryDelay maxRetries (.start tick wheelSize maxPending)).Tracked where
  channel := ⟨nofun, nofun⟩
  timer := Timer.holds_start tick wheelSize maxPending
  claimed := nofun
  entering := nofun
  ids := nofun
  nextId := rfl

variable {sender next : Sender}

/-- Until ids wrap, no two frames are given the same one. -/
theorem Tracked.frame_eq (tracked : sender.Tracked) {id : UInt64} {frame other : Frame}
    (unwrapped : sender.assigned.length < 2 ^ 64) (first : (id, frame) ∈ sender.assigned)
    (second : (id, other) ∈ sender.assigned) : frame = other := by
  rcases List.getElem?_of_mem first with ⟨place, found⟩
  rcases List.getElem?_of_mem second with ⟨otherPlace, otherFound⟩
  have inside := (List.getElem?_eq_some_iff.mp found).1
  have otherInside := (List.getElem?_eq_some_iff.mp otherFound).1
  have same : UInt64.ofNat (place + 1) = UInt64.ofNat (otherPlace + 1) :=
    (tracked.ids _ _ _ found).symm.trans (tracked.ids _ _ _ otherFound)
  have places : place = otherPlace := by
    have equal := congrArg UInt64.toNat same
    simp only [UInt64.toNat_ofNat'] at equal
    omega
  rw [places, otherFound] at found
  cases found
  rfl

theorem Tracked.inFlight? {request : Request} (tracked : sender.Tracked)
    (inFlight : sender.inFlight? = some request) : request.numbered ∈ sender.assigned := by
  rw [Sender.inFlight?] at inFlight
  split at inFlight
  next phase =>
    cases inFlight
    exact tracked.channel.inFlight request phase
  next => cases inFlight

theorem event?_tracked {event : RequestEvent} (tracked : sender.Tracked)
    (moved : sender.event? event = some next) :
    next.Tracked ∧ sender.assigned ⊆ next.assigned ∧
      next.channel.flushed =
        sender.channel.flushed + if event = .acknowledged then 1 else 0 := by
  rcases Option.map_eq_some_iff.mp moved with ⟨⟨channel, timer⟩, stepped, rfl⟩
  rcases RequestChannel.step?_holds tracked.channel tracked.timer stepped with
    ⟨channelHolds, timerHolds, nextId⟩
  exact ⟨⟨channelHolds, timerHolds, tracked.claimed, tracked.entering, tracked.ids,
    nextId.trans tracked.nextId⟩, List.Subset.refl _,
    RequestChannel.reacts_flushed (RequestChannel.reacts_of_step? stepped)⟩

theorem number_tracked (tracked : sender.Tracked) (frame : Frame) : Tracked { sender with
    channel := { sender.channel with nextId := sender.channel.nextId + 1 }
    entering := sender.entering ++ [⟨sender.channel.nextId, frame, 0⟩]
    assigned := sender.assigned ++ [(sender.channel.nextId, frame)] } := by
  have grown := List.subset_append_left sender.assigned [(sender.channel.nextId, frame)]
  have held := tracked.channel.mono grown
  refine ⟨⟨held.queued, held.inFlight⟩, tracked.timer.mono grown,
    fun job claimed => (tracked.claimed job claimed).mono grown, ?_, ?_, ?_⟩
  · intro request member
    rcases List.mem_append.mp member with old | new
    · exact grown (tracked.entering request old)
    · rw [List.mem_singleton.mp new]
      exact List.mem_append_right _ List.mem_cons_self
  · intro place id other found
    rw [List.getElem?_append] at found
    split at found
    next => exact tracked.ids place id other found
    next beyond =>
      rcases Nat.exists_eq_add_of_le (Nat.le_of_not_lt beyond) with ⟨more, rfl⟩
      cases more with
      | zero =>
          simp only [Nat.add_zero, Nat.sub_self, List.getElem?_cons_zero] at found
          cases found
          exact tracked.nextId
      | succ more => simp at found
  · change sender.channel.nextId + 1 = UInt64.ofNat ((sender.assigned ++ [_]).length + 1)
    rw [tracked.nextId, List.length_append]
    exact (UInt64.ofNat_add _ _).symm

theorem retry_tracked {request : Request} {entering : List Request} (tracked : sender.Tracked)
    (known : request.numbered ∈ sender.assigned)
    (left : ∀ request ∈ entering, request ∈ sender.entering) :
    Tracked { sender with channel := sender.channel.retry request, entering } := by
  rcases tracked.channel.retry known with ⟨held, nextId⟩
  exact ⟨held, tracked.timer, tracked.claimed,
    fun request member => tracked.entering request (left request member), tracked.ids,
    nextId.trans tracked.nextId⟩

/-- A change of the timer keeps track of the requests if it adds no task for another one. -/
theorem Tracked.of_timer (tracked : sender.Tracked) {timer : Timer Job} {due : List (Entry Job)}
    (held : timer.Holds sender.assigned due) :
    Tracked { sender with timer, due } :=
  ⟨tracked.channel, held, tracked.claimed, tracked.entering, tracked.ids, tracked.nextId⟩

theorem run_tracked (tracked : sender.Tracked) {job : Job} (claimed : sender.claimed = some job) :
    Tracked { sender.perform job with claimed := none } := by
  cases job with
  | retry request =>
      have known := tracked.claimed _ claimed
      have retried := retry_tracked tracked known fun request member => member
      exact { retried with claimed := nofun }
  | reconnect channel => exact { tracked with claimed := nofun }
  | unrelated => exact { tracked with claimed := nofun }

theorem claim_tracked (tracked : sender.Tracked) (moved : sender.move? .claim = some next) :
    next.Tracked ∧ sender.assigned ⊆ next.assigned ∧
      next.channel.flushed = sender.channel.flushed := by
  rw [move?] at moved
  split at moved
  next entry due front idle =>
    cases moved
    have held : Timer.Holds sender.assigned (sender.timer.expire entry.id).2 due :=
      tracked.timer.settle (by decide) fun other member => front ▸ List.mem_cons_of_mem entry member
    have own := tracked.timer.tasks entry (by simp [front])
    refine ⟨{ tracked.of_timer held with claimed := ?_ }, List.Subset.refl _, rfl⟩
    intro job claimed
    rcases Option.ite_none_right_eq_some.mp claimed with ⟨-, same⟩
    exact Option.some.inj same ▸ own
  next => cases moved

/-- No move but the answer to a request counts it as flushed, and ids are never taken back. -/
theorem move?_tracked {move : Move} (tracked : sender.Tracked)
    (moved : sender.move? move = some next) :
    next.Tracked ∧ sender.assigned ⊆ next.assigned ∧
      next.channel.flushed = sender.channel.flushed := by
  cases move with
  | number frame =>
      cases moved
      exact ⟨number_tracked tracked frame, List.subset_append_left _ _, rfl⟩
  | submit place =>
      rcases Option.map_eq_some_iff.mp moved with ⟨request, found, rfl⟩
      have known := tracked.entering request (List.mem_of_getElem? found)
      exact ⟨retry_tracked tracked known fun request => List.mem_of_mem_eraseIdx,
        List.Subset.refl _, RequestChannel.retry_flushed _ _⟩
  | take => exact event?_tracked tracked moved
  | shutdown =>
      cases moved
      have held : (sender.channel.close).Holds sender.assigned :=
        ⟨tracked.channel.queued, tracked.channel.inFlight⟩
      exact ⟨{ tracked with channel := held }, List.Subset.refl _, rfl⟩
  | noticeShutdown => exact event?_tracked tracked moved
  | occupy delay =>
      rw [move?] at moved
      split at moved
      next id timer scheduled =>
        cases moved
        have about : Job.unrelated.About sender.assigned := trivial
        exact ⟨tracked.of_timer (tracked.timer.schedule about scheduled), List.Subset.refl _, rfl⟩
      next =>
        cases moved
        exact ⟨tracked, List.Subset.refl _, rfl⟩
  | cancel id =>
      cases moved
      have held : Timer.Holds sender.assigned (sender.timer.cancel id).2 sender.due :=
        tracked.timer.settle (by decide) fun entry member => member
      exact ⟨tracked.of_timer held, List.Subset.refl _, rfl⟩
  | collect =>
      cases moved
      exact ⟨tracked.of_timer tracked.timer.collectDue, List.Subset.refl _, rfl⟩
  | claim => exact claim_tracked tracked moved
  | run =>
      rcases Option.map_eq_some_iff.mp moved with ⟨job, claimed, rfl⟩
      have kept := run_tracked tracked claimed
      cases job with
      | retry request =>
          exact ⟨kept, List.Subset.refl _, RequestChannel.retry_flushed _ _⟩
      | reconnect channel => exact ⟨kept, List.Subset.refl _, rfl⟩
      | unrelated => exact ⟨kept, List.Subset.refl _, rfl⟩
  | stopTimer =>
      cases moved
      exact ⟨tracked.of_timer tracked.timer.stop, List.Subset.refl _, rfl⟩

end Sender

end Telemetry.Delivery
