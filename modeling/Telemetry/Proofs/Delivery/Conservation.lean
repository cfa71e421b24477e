import Telemetry.Proofs.Delivery.Reaction

namespace Telemetry.Delivery

/-! What becomes of the frames of a channel. An accepted frame waits in the queue, is taken to be
written and may be held for the next connection. It leaves the channel by being written or, when
the channel ends, by being dropped. -/

/-- The frame that is being written. -/
def Phase.frames : Phase → List Frame
  | .writing frame => [frame]
  | _ => []

/-- The frame whose write succeeds with an event. -/
def StreamEvent.writes : StreamEvent → Phase → List Frame
  | .written, .writing frame => [frame]
  | _, _ => []

namespace Stream

variable {τ : Type} {now : Nanos} {task : τ} {timer : Timer τ}

/-- The frames that are to be written after the current one. -/
def backlog (stream : Stream) : List Frame := stream.held.toList ++ stream.queue

/-- The frames that were accepted and have neither been written nor dropped, oldest first. -/
def undelivered (stream : Stream) : List Frame := stream.phase.frames ++ stream.backlog

/-- The frame that is held or being written. -/
def current (stream : Stream) : List Frame := stream.phase.frames ++ stream.held.toList

structure WellFormed (stream : Stream) : Prop where
  /-- No frame is held while another one is being written. -/
  alone : stream.phase.frames ≠ [] → stream.held = none
  emptied : stream.phase = .finished → stream.backlog = []
  room : stream.queue.length ≤ stream.capacity

theorem undelivered_eq (stream : Stream) :
    stream.undelivered = stream.current ++ stream.queue := by
  rw [undelivered, backlog, current, List.append_assoc]

theorem undelivered_append (stream : Stream) (frames : List Frame) :
    { stream with queue := stream.queue ++ frames }.undelivered =
      stream.undelivered ++ frames := by
  rw [undelivered_eq, undelivered_eq, ← List.append_assoc]
  rfl

theorem length_current_le_one {stream : Stream} (wellFormed : stream.WellFormed) :
    stream.current.length ≤ 1 := by
  rw [current]
  cases phase : stream.phase with
  | writing frame =>
      have held : stream.held = none := wellFormed.alone (by simp [phase, Phase.frames])
      rw [held]
      exact Nat.le_refl 1
  | _ => cases stream.held <;> simp [Phase.frames]

/-- From `before` to `after`, first `written` and then `dropped` leave the front of `frames`. -/
structure Delivers (before : Stream) (frames written dropped : List Frame) (after : Stream) :
    Prop where
  conserved : frames = written ++ dropped ++ after.undelivered
  flushed : after.flushed = before.flushed + written.length
  counted : after.dropped = before.dropped + dropped.length
  ended : after.phase ≠ .finished → dropped = []
  capacity : after.capacity = before.capacity
  wellFormed : after.WellFormed

/-! ### Parts of a reaction -/

theorem Delivers.of_same {before other after : Stream} {frames written dropped : List Frame}
    (delivers : Delivers other frames written dropped after)
    (flushed : other.flushed = before.flushed) (counted : other.dropped = before.dropped)
    (capacity : other.capacity = before.capacity) :
    Delivers before frames written dropped after where
  conserved := delivers.conserved
  flushed := flushed ▸ delivers.flushed
  counted := counted ▸ delivers.counted
  ended := delivers.ended
  capacity := capacity ▸ delivers.capacity
  wellFormed := delivers.wellFormed

/-- The channel goes over to a phase in which nothing is written and keeps its frames. -/
theorem delivers_nothing {before after : Stream} (room : before.queue.length ≤ before.capacity)
    (frames : after.phase.frames = []) (running : after.phase ≠ .finished)
    (held : after.held = before.held) (queue : after.queue = before.queue)
    (capacity : after.capacity = before.capacity) (flushed : after.flushed = before.flushed)
    (dropped : after.dropped = before.dropped) :
    Delivers before before.backlog [] [] after where
  conserved := by rw [undelivered, frames, backlog, backlog, held, queue]; rfl
  flushed := flushed
  counted := dropped
  ended := fun _ => rfl
  capacity := capacity
  wellFormed :=
    { alone := fun writing => absurd frames writing
      emptied := fun finished => absurd finished running
      room := by rwa [queue, capacity] }

theorem finish_delivers (stream : Stream) (timer : Timer τ) :
    Delivers stream stream.backlog [] stream.backlog (stream.finish timer).1 where
  conserved := by simp [finish, undelivered, backlog, Phase.frames]
  flushed := rfl
  counted := by simp [finish, backlog, Nat.add_assoc]
  ended := fun running => absurd rfl running
  capacity := rfl
  wellFormed :=
    { alone := fun _ => rfl
      emptied := fun _ => rfl
      room := Nat.zero_le _ }

theorem scheduleReconnect_delivers (now : Nanos) (task : τ) (stream : Stream) (timer : Timer τ)
    (room : stream.queue.length ≤ stream.capacity) :
    ∃ dropped, Delivers stream stream.backlog [] dropped
      (stream.scheduleReconnect now task timer).1 := by
  rw [scheduleReconnect]
  split
  next reconnector ended _ =>
    have delivers := finish_delivers { stream with
      state := stream.state.moveTo .reconnectScheduled, reconnector, cancelled := true } ended
    exact ⟨stream.backlog, delivers.of_same rfl rfl rfl⟩
  next =>
    split
    next => exact ⟨[], delivers_nothing room rfl nofun rfl rfl rfl rfl rfl⟩
    next => exact ⟨[], delivers_nothing room rfl nofun rfl rfl rfl rfl rfl⟩

theorem scheduleReconnect_flushed (now : Nanos) (task : τ) (stream : Stream) (timer : Timer τ) :
    (stream.scheduleReconnect now task timer).1.flushed = stream.flushed := by
  rw [scheduleReconnect]
  split
  next => rfl
  next => split <;> rfl

/-! ### Reactions -/

theorem undelivered_of_phase {stream : Stream} {phase : Phase} (equal : stream.phase = phase)
    (frames : phase.frames = []) : stream.undelivered = stream.backlog := by
  rw [undelivered, equal, frames, List.nil_append]

/-- A frame whose write does not succeed goes back to the front of the backlog. -/
theorem undelivered_of_writing {stream : Stream} {frame : Frame} (wellFormed : stream.WellFormed)
    (phase : stream.phase = .writing frame) :
    stream.undelivered = frame :: stream.queue ∧ stream.backlog = stream.queue := by
  have held : stream.held = none := wellFormed.alone (by simp [phase, Phase.frames])
  have rest : stream.backlog = stream.queue := by rw [backlog, held]; rfl
  exact ⟨by rw [undelivered, phase, rest]; rfl, rest⟩

/-- The next frame comes off the front of the backlog. -/
theorem next?_eq_some {stream next : Stream} {frame : Frame}
    (available : stream.next? = some (frame, next)) :
    ∃ queue, next = { stream with held := none, queue } ∧ stream.backlog = frame :: queue ∧
      queue.length ≤ stream.queue.length := by
  rw [next?] at available
  split at available
  next held =>
    cases available
    exact ⟨stream.queue, rfl, by rw [backlog, held]; rfl, Nat.le_refl _⟩
  next queue held queued =>
    cases available
    exact ⟨queue, by rw [← held], by rw [backlog, held, queued]; rfl, by simp [queued]⟩
  next => cases available

/-- Of all events only a write that succeeded counts a frame as flushed. -/
theorem reacts_flushed {event : StreamEvent} {stream : Stream} {result : Stream × Timer τ}
    (reacts : Reacts now task stream timer event result) :
    result.1.flushed = stream.flushed + if event = .written then 1 else 0 := by
  cases reacts with
  | begin | beginCancelled | connected | written | notified | slept | abandoned | disconnecting |
    interrupted | completed => rfl
  | take phase running available =>
      rcases next?_eq_some available with ⟨queue, rfl, -⟩
      rfl
  | refused | writeFailed | peerClosed => exact scheduleReconnect_flushed _ _ _ _

theorem reacts_delivers {event : StreamEvent} {stream : Stream} {result : Stream × Timer τ}
    (wellFormed : stream.WellFormed) (reacts : Reacts now task stream timer event result) :
    ∃ dropped, Delivers stream stream.undelivered (event.writes stream.phase) dropped result.1 := by
  have room := wellFormed.room
  cases reacts with
  -- Only the phase changes, and neither phase writes a frame.
  | begin phase | connected phase | notified phase | slept phase | disconnecting phase =>
      rw [undelivered_of_phase phase rfl]
      exact ⟨[], delivers_nothing room rfl nofun rfl rfl rfl rfl rfl⟩
  | beginCancelled phase cancelled =>
      rw [undelivered_of_phase phase rfl]
      exact ⟨stream.backlog, (finish_delivers _ timer).of_same rfl rfl rfl⟩
  | refused phase | peerClosed phase =>
      rw [undelivered_of_phase phase rfl]
      exact scheduleReconnect_delivers now task stream timer room
  | @take frame next phase running available =>
      rcases next?_eq_some available with ⟨queue, rfl, front, shorter⟩
      rw [undelivered_of_phase phase rfl, front]
      refine ⟨[], rfl, rfl, rfl, fun _ => rfl, rfl, fun _ => rfl, nofun, ?_⟩
      exact Nat.le_trans shorter room
  | @written frame phase running =>
      rcases undelivered_of_writing wellFormed phase with ⟨front, rest⟩
      have conserved : stream.undelivered = [frame] ++ [] ++ stream.backlog := by
        rw [front, rest]
        rfl
      rw [phase]
      exact ⟨[], conserved, rfl, rfl, fun _ => rfl, rfl, fun none => absurd rfl none, nofun, room⟩
  | @writeFailed frame phase running =>
      -- The frame is held before the attempt is scheduled, so it heads the backlog if that fails.
      rw [(undelivered_of_writing wellFormed phase).1]
      rcases scheduleReconnect_delivers now task { stream with held := some frame } timer room with
        ⟨dropped, delivers⟩
      exact ⟨dropped, delivers.of_same rfl rfl rfl⟩
  | abandoned cancelled phase =>
      have waiting : stream.undelivered = stream.backlog := by
        rcases phase with phase | phase | ⟨wakeAt, phase⟩ <;> exact undelivered_of_phase phase rfl
      rw [waiting]
      exact ⟨stream.backlog, finish_delivers stream timer⟩
  | @interrupted frame phase cancelled =>
      rw [(undelivered_of_writing wellFormed phase).1]
      exact ⟨[], rfl, rfl, rfl, fun _ => rfl, rfl, fun none => absurd rfl none, nofun, room⟩
  | completed phase =>
      rw [undelivered_of_phase phase rfl]
      exact ⟨stream.backlog, finish_delivers stream timer⟩

end Stream

end Telemetry.Delivery
