import Telemetry.Proofs.Delivery.Beats
import Telemetry.Proofs.Delivery.Holding

namespace Telemetry.Delivery

/-! Where the frames of a transport come from. A channel has the frames that were handed over to it,
and the timer has attempts at its own requests: what is written or sent as a request was handed over
before. -/

variable {known : Frame → Prop} {assigned : List (UInt64 × Frame)} {timer : Timer Job}
  {due : List (Entry Job)} {task : Job} {now : Nanos}

/-! ### The timer of a stream -/

namespace Reconnector

theorem close_holds (reconnector : Reconnector) (holds : timer.Holds assigned due) :
    (reconnector.close timer).2.Holds assigned due := by
  rw [close]
  split
  next => exact holds.settle (by decide) fun _ => id
  next => exact holds

theorem schedule_holds (reconnector : Reconnector) (now : Nanos) (about : task.About assigned)
    (holds : timer.Holds assigned due) :
    (reconnector.schedule now task timer).2.2.Holds assigned due := by
  rw [schedule]
  dsimp only
  split
  next id after scheduled => exact holds.schedule about scheduled
  next => exact holds
  next => exact holds

end Reconnector

namespace Stream

theorem scheduleReconnect_holds (stream : Stream) (about : task.About assigned)
    (holds : timer.Holds assigned due) :
    (stream.scheduleReconnect now task timer).2.Holds assigned due := by
  have scheduled := stream.reconnector.schedule_holds now about holds
  rw [scheduleReconnect]
  dsimp only
  split
  next failed =>
    rw [failed] at scheduled
    exact Reconnector.close_holds _ scheduled
  next waits =>
    rw [waits] at scheduled
    split <;> exact scheduled

theorem reacts_holds {stream : Stream} {event : StreamEvent} {result : Stream × Timer Job}
    (about : task.About assigned) (holds : timer.Holds assigned due)
    (reacts : Reacts now task stream timer event result) : result.2.Holds assigned due := by
  cases reacts with
  | begin | connected | take | written | notified | slept | disconnecting | interrupted =>
      exact holds
  | beginCancelled | abandoned | completed => exact Reconnector.close_holds _ holds
  | refused | writeFailed | peerClosed => exact scheduleReconnect_holds _ about holds

/-! ### Streams -/

/-- All frames that the channel has still to deliver are known. -/
structure Has (known : Frame → Prop) (stream : Stream) : Prop where
  wellFormed : stream.WellFormed
  frames : ∀ frame ∈ stream.undelivered, known frame

theorem has_start (channel : Channel) (capacity : Nat) (backoff : Backoff) :
    (start channel capacity backoff).Has known :=
  ⟨(start_sound channel capacity backoff).wellFormed, nofun⟩

theorem Has.send {stream : Stream} {frame : Frame} (has : stream.Has known)
    (handed : known frame) : (stream.send frame).2.Has known := by
  refine ⟨send_wellFormed has.wellFormed frame, fun other member => ?_⟩
  have sends := stream.send_sends frame
  cases outcome : stream.send frame with
  | mk accepted after =>
      rw [outcome] at sends member
      cases sends with
      | accepts =>
          rw [undelivered_append, List.mem_append, List.mem_singleton] at member
          rcases member with old | rfl
          · exact has.frames other old
          · exact handed
      | refuses => exact has.frames other member

theorem Has.react {stream : Stream} {event : StreamEvent} {result : Stream × Timer Job}
    (has : stream.Has known) (reacts : Reacts now task stream timer event result) :
    result.1.Has known := by
  rcases reacts_delivers has.wellFormed reacts with ⟨dropped, delivers⟩
  refine ⟨delivers.wellFormed, fun frame member => has.frames frame ?_⟩
  rw [delivers.conserved]
  exact List.mem_append_right _ member

theorem Has.wake {stream : Stream} (has : stream.Has known) : stream.wake.Has known :=
  ⟨⟨has.wellFormed.alone, has.wellFormed.emptied, has.wellFormed.room⟩, has.frames⟩

end Stream

/-! ### Transports -/

namespace Transport

/-- All frames that the transport has still to deliver on a channel are known for that channel. -/
structure Has (known : Channel → Frame → Prop) (due : List (Entry Job)) (transport : Transport) :
    Prop where
  span : transport.span.Has (known .span)
  stat : transport.stat.Has (known .stat)
  requests : ∃ assigned : List (UInt64 × Frame),
    (∀ request ∈ assigned, known .metadata request.2) ∧
      transport.metadata.Holds assigned ∧ transport.timer.Holds assigned due

variable {known : Channel → Frame → Prop} {transport : Transport}

theorem has_ofConfig (config : Config) : (ofConfig config).Has known [] where
  span := Stream.has_start _ _ _
  stat := Stream.has_start _ _ _
  requests := ⟨[], nofun, ⟨nofun, nofun⟩, Timer.holds_start _ _ _⟩

theorem Has.sendFrame {frame : Frame} (has : transport.Has known due)
    (handed : ∀ channel, channel? frame.kind = some channel → known channel frame) :
    (transport.sendFrame frame).2.Has known due := by
  rw [Transport.sendFrame]
  split
  next channel kind =>
    have own := handed channel kind
    cases channel with
    | span => exact ⟨has.span.send own, has.stat, has.requests⟩
    | stat => exact ⟨has.span, has.stat.send own, has.requests⟩
    | metadata =>
        rcases has.requests with ⟨assigned, requests, holds, timer⟩
        let request : Request := ⟨transport.metadata.nextId, frame, 0⟩
        have grown : assigned ⊆ request.numbered :: assigned := List.subset_cons_self _ _
        have assignedTo : request.numbered ∈ request.numbered :: assigned := List.mem_cons_self
        have more := holds.mono grown
        have numbered : RequestChannel.Holds (request.numbered :: assigned)
            { transport.metadata with nextId := transport.metadata.nextId + 1 } :=
          ⟨more.queued, more.inFlight⟩
        have sent := (numbered.retry assignedTo).1
        rw [← RequestChannel.send_eq_retry] at sent
        exact ⟨has.span, has.stat, request.numbered :: assigned,
          List.forall_mem_cons.mpr ⟨own, requests⟩, sent, timer.mono grown⟩
  next => exact has

theorem Has.reactSpan {event : StreamEvent} {result : Stream × Timer Job}
    (has : transport.Has known due)
    (reacts : transport.span.Reacts now (.reconnect .span) transport.timer event result) :
    { transport with span := result.1, timer := result.2 }.Has known due := by
  rcases has.requests with ⟨assigned, requests, holds, timer⟩
  have about : (Job.reconnect .span).About assigned := trivial
  exact ⟨has.span.react reacts, has.stat, assigned, requests, holds,
    Stream.reacts_holds about timer reacts⟩

theorem Has.reactStat {event : StreamEvent} {result : Stream × Timer Job}
    (has : transport.Has known due)
    (reacts : transport.stat.Reacts now (.reconnect .stat) transport.timer event result) :
    { transport with stat := result.1, timer := result.2 }.Has known due := by
  rcases has.requests with ⟨assigned, requests, holds, timer⟩
  have about : (Job.reconnect .stat).About assigned := trivial
  exact ⟨has.span, has.stat.react reacts, assigned, requests, holds,
    Stream.reacts_holds about timer reacts⟩

theorem Has.stepMetadata {event : RequestEvent} {metadata : RequestChannel} {timer : Timer Job}
    (has : transport.Has known due)
    (stepped : transport.metadata.step? .retry event transport.timer = some (metadata, timer)) :
    { transport with metadata, timer }.Has known due := by
  rcases has.requests with ⟨assigned, requests, holds, timerHolds⟩
  rcases RequestChannel.step?_holds holds timerHolds stepped with ⟨after, timerAfter, -⟩
  exact ⟨has.span, has.stat, assigned, requests, after, timerAfter⟩

/-- A task that comes due tells its channel to go on, or hands it a request once more. -/
theorem Has.runDue (has : transport.Has known due) : (transport.runDue due).Has known [] := by
  induction due generalizing transport with
  | nil => exact has
  | cons entry due induction =>
      rcases has.requests with ⟨assigned, requests, holds, timer⟩
      have about : entry.task.About assigned := timer.tasks entry (by simp)
      have expired : (transport.timer.expire entry.id).2.Holds assigned due :=
        timer.settle nofun fun other => List.mem_cons_of_mem entry
      rw [Transport.runDue]
      dsimp only
      apply induction
      split
      next =>
        cases task : entry.task with
        | reconnect channel =>
            cases channel with
            | span => exact ⟨has.span.wake, has.stat, assigned, requests, holds, expired⟩
            | stat => exact ⟨has.span, has.stat.wake, assigned, requests, holds, expired⟩
            | metadata => exact ⟨has.span, has.stat, assigned, requests, holds, expired⟩
        | retry request =>
            rw [task] at about
            exact ⟨has.span, has.stat, assigned, requests, (holds.retry about).1, expired⟩
        | unrelated => exact ⟨has.span, has.stat, assigned, requests, holds, expired⟩
      next => exact ⟨has.span, has.stat, assigned, requests, holds, expired⟩

theorem Has.advance (has : transport.Has known []) : transport.advance.Has known [] := by
  rcases has.requests with ⟨assigned, requests, holds, timer⟩
  have collected : { transport with timer := transport.timer.collectDue.2 }.Has known
      transport.timer.collectDue.1 :=
    ⟨has.span, has.stat, assigned, requests, holds, timer.collectDue⟩
  exact collected.runDue

end Transport

end Telemetry.Delivery
