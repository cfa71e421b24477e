import Telemetry.Proofs.Delivery.Conservation

namespace Telemetry.Delivery

/-! What a channel has done with all the frames it was given, over any run. The timer is shared, so
between two moves of the channel anything may happen to it. A move may have looked at the shutdown
flag before it was set. -/

namespace Stream

/-- A frame is accepted at the end of the queue or refused and counted. -/
inductive Sends (frame : Frame) (before : Stream) : Bool × Stream → Prop
  | accepts (running : before.phase ≠ .finished) (room : before.queue.length < before.capacity) :
      Sends frame before (true, { before with queue := before.queue ++ [frame] })
  | refuses : Sends frame before (false, { before with dropped := before.dropped + 1 })

theorem send_sends (frame : Frame) (stream : Stream) : Sends frame stream (stream.send frame) := by
  rw [send]
  split
  next => exact .refuses
  next accepts =>
    simp only [Bool.not_eq_true, Bool.or_eq_false_iff, decide_eq_false_iff_not, Nat.not_le]
      at accepts
    exact .accepts accepts.1.2 accepts.2

end Stream

/-- A channel with the timer it uses, and everything that was sent and written so far. -/
structure History (τ : Type) where
  stream : Stream
  timer : Timer τ
  /-- The frames of all calls of `send` and what the calls returned. -/
  sends : List (Frame × Bool)
  /-- The frames whose write succeeded. -/
  written : List Frame

inductive Move (τ : Type) where
  | send (frame : Frame)
  | react (now : Nanos) (task : τ) (event : StreamEvent)
  /-- A task of the timer wakes the channel. -/
  | wake
  | shutdown
  /-- The others that share the timer use it, it advances, or it is stopped. -/
  | timer (timer : Timer τ)
  /-- A move that looked at the shutdown flag before it was set. -/
  | unaware (move : Move τ)

namespace History

variable {τ : Type}

def start (channel : Channel) (queueSize : Nat) (backoff : Backoff) (timer : Timer τ) :
    History τ where
  stream := .start channel queueSize backoff
  timer := timer
  sends := []
  written := []

/-- The history after a move, `none` where the move cannot happen. -/
def move? (history : History τ) : Move τ → Option (History τ)
  | .send frame =>
      let (accepted, stream) := history.stream.send frame
      some { history with stream, sends := history.sends ++ [(frame, accepted)] }
  | .react now task event =>
      (history.stream.step? now task event history.timer).map fun (stream, timer) =>
        { history with
          stream, timer, written := history.written ++ event.writes history.stream.phase }
  | .wake => some { history with stream := history.stream.wake }
  | .shutdown => some { history with stream := history.stream.shutdown }
  | .timer timer => some { history with timer }
  | .unaware move =>
      (move? { history with stream := { history.stream with cancelled := false } } move).map
        fun after => { after with stream :=
          { after.stream with cancelled := history.stream.cancelled || after.stream.cancelled } }

def run? (history : History τ) : List (Move τ) → Option (History τ)
  | [] => some history
  | move :: moves => (history.move? move).bind fun next => next.run? moves

/-- The frames for which `send` returned true. -/
def accepted (history : History τ) : List Frame :=
  history.sends.filterMap fun (frame, accepted) => if accepted then some frame else none

/-- How often `send` returned false. -/
def refused (history : History τ) : Nat := history.sends.countP fun send => !send.2

/-- Every accepted frame was written, was dropped when the channel ended, or still waits. -/
structure Conserves (history : History τ) (capacity : Nat) : Prop where
  wellFormed : history.stream.WellFormed
  capacity : history.stream.capacity = capacity
  flushed : history.stream.flushed = history.written.length
  accounted : ∃ lost,
    history.accepted = history.written ++ lost ++ history.stream.undelivered ∧
    history.stream.dropped = history.refused + lost.length ∧
    (history.stream.phase ≠ .finished → lost = [])

theorem start_conserves (channel : Channel) (queueSize : Nat) (backoff : Backoff)
    (timer : Timer τ) : (start channel queueSize backoff timer).Conserves (max queueSize 1) where
  wellFormed := ⟨fun _ => rfl, fun _ => rfl, Nat.zero_le _⟩
  capacity := rfl
  flushed := rfl
  accounted := ⟨[], rfl, rfl, fun _ => rfl⟩

variable {history next : History τ} {capacity : Nat}

theorem sends_conserves {frame : Frame} {outcome : Bool × Stream}
    (conserves : history.Conserves capacity) (sends : history.stream.Sends frame outcome) :
    Conserves { history with
      stream := outcome.2, sends := history.sends ++ [(frame, outcome.1)] } capacity := by
  rcases conserves with ⟨wellFormed, sameCapacity, flushed, lost, order, dropped, ended⟩
  cases sends with
  | accepts running room =>
      refine ⟨⟨wellFormed.alone, fun finished => absurd finished running, ?_⟩, sameCapacity,
        flushed, lost, ?_, ?_, ended⟩
      · rw [List.length_append]
        exact room
      · rw [accepted, List.filterMap_append, ← accepted, order, Stream.undelivered_append,
          ← List.append_assoc]
        rfl
      · rw [dropped, refused, refused, List.countP_append]
        simp
  | refuses =>
      refine ⟨⟨wellFormed.alone, wellFormed.emptied, wellFormed.room⟩, sameCapacity, flushed,
        lost, ?_, ?_, ended⟩
      · rw [accepted, List.filterMap_append, ← accepted, order]
        simp [Stream.undelivered, Stream.backlog]
      · rw [refused, List.countP_append, ← refused, dropped]
        simp [Nat.add_right_comm]

theorem delivers_conserves {frames dropped : List Frame} {after : Stream} {timer : Timer τ}
    (conserves : history.Conserves capacity) (running : history.stream.phase ≠ .finished)
    (delivers : history.stream.Delivers history.stream.undelivered frames dropped after) :
    Conserves { history with
      stream := after, timer, written := history.written ++ frames } capacity := by
  rcases conserves with ⟨wellFormed, sameCapacity, flushed, lost, order, counted, ended⟩
  -- A channel that could still react had dropped nothing of what it accepted.
  rcases ended running with rfl
  refine ⟨delivers.wellFormed, delivers.capacity.trans sameCapacity, ?_, dropped, ?_, ?_,
    delivers.ended⟩
  · rw [delivers.flushed, flushed, List.length_append]
  · change history.accepted = _
    rw [order, delivers.conserved]
    simp
  · change after.dropped = history.refused + _
    rw [delivers.counted, counted]
    simp

/-- Neither the shutdown flag nor the state of reconnecting nor the timer carries frames. -/
theorem Conserves.control (conserves : history.Conserves capacity) (cancelled : Bool)
    (reconnector : Reconnector) (timer : Timer τ) :
    Conserves { history with
      stream := { history.stream with cancelled, reconnector }, timer } capacity := by
  rcases conserves with ⟨⟨alone, emptied, room⟩, sameCapacity, flushed, accounted⟩
  exact ⟨⟨alone, emptied, room⟩, sameCapacity, flushed, accounted⟩

theorem move?_conserves {move : Move τ} (conserves : history.Conserves capacity)
    (moved : history.move? move = some next) : next.Conserves capacity := by
  induction move generalizing history next with
  | send frame =>
      cases moved
      exact sends_conserves conserves (history.stream.send_sends frame)
  | react now task event =>
      rcases Option.map_eq_some_iff.mp moved with ⟨⟨after, timer⟩, stepped, rfl⟩
      have running : history.stream.phase ≠ .finished := by
        intro finished
        rw [Stream.step?_finished finished] at stepped
        cases stepped
      rcases Stream.reacts_delivers conserves.wellFormed (Stream.reacts_of_step? stepped) with
        ⟨dropped, delivers⟩
      exact delivers_conserves conserves running delivers
  | wake =>
      cases moved
      exact conserves.control history.stream.cancelled history.stream.reconnector.fire history.timer
  | shutdown =>
      cases moved
      exact conserves.control true history.stream.reconnector history.timer
  | timer timer =>
      cases moved
      exact conserves.control history.stream.cancelled history.stream.reconnector timer
  | unaware move induction =>
      rcases Option.map_eq_some_iff.mp moved with ⟨after, done, rfl⟩
      have seen := conserves.control false history.stream.reconnector history.timer
      have kept := induction seen done
      exact kept.control (history.stream.cancelled || after.stream.cancelled)
        after.stream.reconnector after.timer

theorem run?_conserves {moves : List (Move τ)} (conserves : history.Conserves capacity)
    (ran : history.run? moves = some next) : next.Conserves capacity := by
  induction moves generalizing history with
  | nil =>
      cases ran
      exact conserves
  | cons move moves induction =>
      rcases Option.bind_eq_some_iff.mp ran with ⟨middle, moved, ran⟩
      exact induction (move?_conserves conserves moved) ran

theorem length_sends (history : History τ) :
    history.sends.length = history.accepted.length + history.refused := by
  rw [accepted, refused]
  induction history.sends with
  | nil => rfl
  | cons send sends induction =>
      rcases send with ⟨frame, accepted⟩
      cases accepted with
      | true => simp [induction]; omega
      | false => simp [induction]; omega

/-- Until the channel ends, the frames it accepted are those it wrote, then the one it holds or
writes, then the queue. After its end every frame that was sent has been written or counted as
dropped, and what it wrote is the beginning of what it accepted. -/
theorem frames_conserved {channel : Channel} {queueSize : Nat} {backoff : Backoff}
    {timer : Timer τ} {moves : List (Move τ)} {history : History τ}
    (ran : (start channel queueSize backoff timer).run? moves = some history) :
    (history.stream.phase ≠ .finished →
      history.accepted = history.written ++ history.stream.current ++ history.stream.queue ∧
      history.stream.current.length ≤ 1 ∧ history.stream.queue.length ≤ max queueSize 1 ∧
      history.stream.flushed = history.written.length ∧
      history.stream.dropped = history.refused) ∧
    (history.stream.phase = .finished →
      history.written <+: history.accepted ∧
      history.stream.flushed + history.stream.dropped = history.sends.length) := by
  rcases run?_conserves (start_conserves channel queueSize backoff timer) ran with
    ⟨wellFormed, capacity, flushed, lost, order, dropped, ended⟩
  constructor
  · intro running
    rcases ended running with rfl
    refine ⟨?_, Stream.length_current_le_one wellFormed, ?_, flushed, dropped⟩
    · rw [order, Stream.undelivered_eq, List.append_nil, List.append_assoc]
    · rw [← capacity]
      exact wellFormed.room
  · intro finished
    have empty : history.stream.undelivered = [] := by
      rw [Stream.undelivered, finished, wellFormed.emptied finished]
      rfl
    rw [empty, List.append_nil] at order
    refine ⟨⟨lost, order.symm⟩, ?_⟩
    rw [length_sends, order, List.length_append, flushed, dropped]
    omega

/-- A frame is written, the next one fails, the queue is full for one, and one comes late. -/
def brokenConnection : List (Move Unit) :=
  [.send ⟨.span, [1]⟩, .react 0 () .begin, .react 1 () .connected, .react 2 () .take,
   .send ⟨.span, [2]⟩, .send ⟨.span, [3]⟩, .send ⟨.span, [4]⟩, .react 3 () .written,
   .react 4 () .take, .react 5 () .writeFailed, .wake, .react 6 () .notified, .react 7 () .begin,
   .react 8 () .connected, .shutdown, .unaware (.send ⟨.span, [5]⟩), .react 9 () .noticeShutdown,
   .react 10 () .completed]

theorem frames_conserved_brokenConnection :
    ∃ history, (start .span 2 (.ofDelays (ofMillis 10) (ofMillis 50))
        (.start (ofMillis 10) 1 8)).run? brokenConnection = some history ∧
      history.stream.phase = .finished ∧
      history.written <+: history.accepted ∧
      history.stream.flushed + history.stream.dropped = history.sends.length := by
  have finishes : ((start .span 2 (.ofDelays (ofMillis 10) (ofMillis 50))
      (.start (ofMillis 10) 1 8)).run? brokenConnection).map (fun history => history.stream.phase) =
      some .finished := by decide
  rcases Option.map_eq_some_iff.mp finishes with ⟨history, ran, finished⟩
  exact ⟨history, ran, finished, (frames_conserved ran).2 finished⟩

end History

end Telemetry.Delivery
