import Telemetry.Delivery.Stream

namespace Telemetry.Delivery.Stream

/-! The reactions of a channel, one for each way in which an event can go. -/

variable {τ : Type}

/-- All that an event can do to a channel, and when. -/
inductive Reacts (now : Nanos) (task : τ) (stream : Stream) (timer : Timer τ) :
    StreamEvent → Stream × Timer τ → Prop
  | begin (phase : stream.phase = .ready) (running : stream.cancelled = false) :
      Reacts now task stream timer .begin
        ({ stream with state := stream.state.moveTo .connecting, phase := .connecting }, timer)
  | beginCancelled (phase : stream.phase = .ready) (cancelled : stream.cancelled = true) :
      Reacts now task stream timer .begin
        (finish { stream with state := stream.state.moveTo .connecting } timer)
  | connected (phase : stream.phase = .connecting) (running : stream.cancelled = false) :
      Reacts now task stream timer .connected
        ({ stream with
            reconnector := stream.reconnector.reset
            state := stream.state.moveTo .streaming
            phase := .idle }, timer)
  | refused (phase : stream.phase = .connecting) (running : stream.cancelled = false) :
      Reacts now task stream timer .refused (stream.scheduleReconnect now task timer)
  | take {frame : Frame} {next : Stream} (phase : stream.phase = .idle)
      (running : stream.cancelled = false) (available : stream.next? = some (frame, next)) :
      Reacts now task stream timer .take ({ next with phase := .writing frame }, timer)
  | written {frame : Frame} (phase : stream.phase = .writing frame)
      (running : stream.cancelled = false) :
      Reacts now task stream timer .written
        ({ stream with phase := .idle, flushed := stream.flushed + 1 }, timer)
  | writeFailed {frame : Frame} (phase : stream.phase = .writing frame)
      (running : stream.cancelled = false) :
      Reacts now task stream timer .writeFailed
        (scheduleReconnect now task { stream with held := some frame } timer)
  | peerClosed (phase : stream.phase = .idle) (running : stream.cancelled = false)
      (delivered : stream.held = none) :
      Reacts now task stream timer .peerClosed (stream.scheduleReconnect now task timer)
  | notified {reconnector : Reconnector} (phase : stream.phase = .waiting)
      (running : stream.cancelled = false)
      (woken : stream.reconnector.resume? = some reconnector) :
      Reacts now task stream timer .notified ({ stream with reconnector, phase := .ready }, timer)
  | slept {wakeAt : Nanos} (phase : stream.phase = .sleeping wakeAt)
      (running : stream.cancelled = false) (due : wakeAt ≤ now) :
      Reacts now task stream timer .slept ({ stream with phase := .ready }, timer)
  | abandoned (cancelled : stream.cancelled = true)
      (phase : stream.phase = .connecting ∨ stream.phase = .waiting ∨
        ∃ wakeAt, stream.phase = .sleeping wakeAt) :
      Reacts now task stream timer .noticeShutdown (stream.finish timer)
  | disconnecting (phase : stream.phase = .idle) (cancelled : stream.cancelled = true) :
      Reacts now task stream timer .noticeShutdown ({ stream with phase := .completing }, timer)
  | interrupted {frame : Frame} (phase : stream.phase = .writing frame)
      (cancelled : stream.cancelled = true) :
      Reacts now task stream timer .noticeShutdown
        ({ stream with held := some frame, phase := .completing }, timer)
  | completed (phase : stream.phase = .completing) :
      Reacts now task stream timer .completed (stream.finish timer)

variable {now : Nanos} {task : τ} {event : StreamEvent} {stream : Stream} {timer : Timer τ}
  {result : Stream × Timer τ}

/-- Whatever an event does is one of the reactions. -/
theorem reacts_of_step? (stepped : stream.step? now task event timer = some result) :
    Reacts now task stream timer event result := by
  rw [step?.eq_def] at stepped
  split at stepped
  case h_1 phase =>
    dsimp only at stepped
    split at stepped
    next cancelled =>
      cases stepped
      exact .beginCancelled phase cancelled
    next running =>
      cases stepped
      exact .begin phase (Bool.eq_false_iff.mpr running)
  case h_2 phase =>
    rcases Option.ite_none_left_eq_some.mp stepped with ⟨running, equal⟩
    cases equal
    exact .connected phase (Bool.eq_false_iff.mpr running)
  case h_3 phase =>
    rcases Option.ite_none_left_eq_some.mp stepped with ⟨running, equal⟩
    cases equal
    exact .refused phase (Bool.eq_false_iff.mpr running)
  case h_4 phase =>
    rcases Option.ite_none_left_eq_some.mp stepped with ⟨running, equal⟩
    rcases Option.map_eq_some_iff.mp equal with ⟨⟨frame, next⟩, available, rfl⟩
    exact .take phase (Bool.eq_false_iff.mpr running) available
  case h_5 frame phase =>
    rcases Option.ite_none_left_eq_some.mp stepped with ⟨running, equal⟩
    cases equal
    exact .written phase (Bool.eq_false_iff.mpr running)
  case h_6 frame phase =>
    rcases Option.ite_none_left_eq_some.mp stepped with ⟨running, equal⟩
    cases equal
    exact .writeFailed phase (Bool.eq_false_iff.mpr running)
  case h_7 phase =>
    rcases Option.ite_none_left_eq_some.mp stepped with ⟨running, equal⟩
    cases equal
    simp only [Bool.not_eq_true, Bool.or_eq_false_iff, Option.isSome_eq_false_iff,
      Option.isNone_iff_eq_none] at running
    exact .peerClosed phase running.1 running.2
  case h_8 phase =>
    rcases Option.ite_none_left_eq_some.mp stepped with ⟨running, equal⟩
    rcases Option.map_eq_some_iff.mp equal with ⟨reconnector, woken, rfl⟩
    exact .notified phase (Bool.eq_false_iff.mpr running) woken
  case h_9 wakeAt phase =>
    rcases Option.ite_none_left_eq_some.mp stepped with ⟨running, equal⟩
    cases equal
    simp only [Bool.not_eq_true, Bool.or_eq_false_iff, decide_eq_false_iff_not, Nat.not_lt]
      at running
    exact .slept phase running.1 running.2
  case h_10 phase =>
    rcases Option.ite_none_right_eq_some.mp stepped with ⟨cancelled, equal⟩
    cases equal
    exact .abandoned cancelled (.inl phase)
  case h_11 phase =>
    rcases Option.ite_none_right_eq_some.mp stepped with ⟨cancelled, equal⟩
    cases equal
    exact .disconnecting phase cancelled
  case h_12 frame phase =>
    rcases Option.ite_none_right_eq_some.mp stepped with ⟨cancelled, equal⟩
    cases equal
    exact .interrupted phase cancelled
  case h_13 phase =>
    rcases Option.ite_none_right_eq_some.mp stepped with ⟨cancelled, equal⟩
    cases equal
    exact .abandoned cancelled (.inr (.inl phase))
  case h_14 wakeAt phase =>
    rcases Option.ite_none_right_eq_some.mp stepped with ⟨cancelled, equal⟩
    cases equal
    exact .abandoned cancelled (.inr (.inr ⟨wakeAt, phase⟩))
  case h_15 phase =>
    cases stepped
    exact .completed phase
  case h_16 => cases stepped

theorem Reacts.unfinished (reacts : Reacts now task stream timer event result) :
    stream.phase ≠ .finished := by
  intro finished
  cases reacts <;> simp_all

/-- A finished channel reacts to nothing any more. -/
theorem step?_finished (finished : stream.phase = .finished) :
    stream.step? now task event timer = none := by
  cases stepped : stream.step? now task event timer with
  | none => rfl
  | some result => exact absurd finished (reacts_of_step? stepped).unfinished

/-! ### Sending

A frame that is handed over is no event: at most the queue and a count change. -/

theorem send_phase (frame : Frame) (stream : Stream) :
    (stream.send frame).2.phase = stream.phase := by
  rw [send]
  split <;> rfl

theorem send_state (frame : Frame) (stream : Stream) :
    (stream.send frame).2.state = stream.state := by
  rw [send]
  split <;> rfl

theorem send_cancelled (frame : Frame) (stream : Stream) :
    (stream.send frame).2.cancelled = stream.cancelled := by
  rw [send]
  split <;> rfl

theorem send_reconnector (frame : Frame) (stream : Stream) :
    (stream.send frame).2.reconnector = stream.reconnector := by
  rw [send]
  split <;> rfl

end Telemetry.Delivery.Stream
