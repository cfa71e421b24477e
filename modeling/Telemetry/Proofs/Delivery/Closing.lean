import Telemetry.Proofs.Delivery.Joining

namespace Telemetry.Delivery

/-! The end of a transport. The call that closes it returns when its channels have ended. From then
on nothing happens any more, whatever is still called and whatever the timer had collected before
it was stopped: what is handed over is refused, and what comes due finds its channel finished. -/

/-- A call of a channel to its peer, from its start until its outcome is seen. -/
inductive Call where
  | connect
  | write (frame : Frame)
  | request (request : Request)
deriving DecidableEq, Repr

def Phase.call? : Phase → Option Call
  | .connecting => some .connect
  | .writing frame => some (.write frame)
  | _ => none

def RequestPhase.call? : RequestPhase → Option Call
  | .requesting request => some (.request request)
  | _ => none

/-! ### Channels that have ended -/

namespace Stream

variable {stream before after : Stream} {part : Option Part}

/-- Whoever looks at a channel that has ended sees it closed. -/
def ClosesAtEnd (stream : Stream) : Prop := stream.phase = .finished → stream.state = .closed

theorem scheduleReconnect_closesAtEnd {τ : Type} (now : Nanos) (task : τ) (stream : Stream)
    (timer : Timer τ) : (stream.scheduleReconnect now task timer).1.ClosesAtEnd := by
  intro finished
  rw [scheduleReconnect] at finished ⊢
  split
  next => rfl
  next scheduled =>
    rw [scheduled] at finished
    dsimp only at finished
    split at finished <;> cases finished

theorem Takes.closesAtEnd (takes : before.Takes part after) (closes : before.ClosesAtEnd) :
    after.ClosesAtEnd := by
  induction takes with
  | send before frame =>
      rw [ClosesAtEnd, send_phase, send_state]
      exact closes
  | react reacts =>
      cases reacts with
      | begin | connected | take | written | notified | slept | disconnecting | interrupted =>
          exact fun finished => nomatch finished
      | refused | writeFailed | peerClosed => exact scheduleReconnect_closesAtEnd _ _ _ _
      | beginCancelled | abandoned | completed => exact fun _ => rfl
  | control before cancelled reconnector => exact closes
  | unaware takes induction => exact induction closes

theorem wake_counters (stream : Stream) : stream.wake.counters = stream.counters := by
  rw [wake, counters, Reconnector.fire]
  split
  next => rfl
  next => split <;> rfl

theorem send_finished (finished : stream.phase = .finished) (frame : Frame) :
    stream.send frame = (false, { stream with dropped := stream.dropped + 1 }) := by
  simp [send, finished]

end Stream

namespace RequestChannel

variable {channel : RequestChannel}

theorem enqueue_finished (finished : channel.phase = .finished) (request : Request) :
    channel.enqueue request = (false, channel.drop) := by
  simp [enqueue, finished]

theorem send_finished (finished : channel.phase = .finished) (frame : Frame) :
    channel.send frame = (false, { channel with nextId := channel.nextId + 1 }.drop) := by
  rw [send]
  dsimp only
  split
  next => rfl
  next => exact enqueue_finished (by exact finished) _

theorem retry_finished (finished : channel.phase = .finished) (request : Request) :
    channel.retry request = channel.drop := by
  rw [retry]
  split
  next => rfl
  next => rw [enqueue_finished finished]

end RequestChannel

namespace Transport

variable {transport before middle after : Transport}

/-- The call to its peer that a channel is in. -/
def call? (transport : Transport) : Channel → Option Call
  | .span => transport.span.phase.call?
  | .stat => transport.stat.phase.call?
  | .metadata => transport.metadata.phase.call?

/-- A frame is refused, and it counts as dropped by its own channel only. -/
def Refuses (transport : Transport) (channel : Channel) (frame : Frame) : Prop :=
  (transport.sendFrame frame).1 = false ∧
    ∀ other, (transport.sendFrame frame).2.counters other =
      if other = channel then
        { transport.counters channel with dropped := (transport.counters channel).dropped + 1 }
      else transport.counters other

/-- The transport is closed and all of its channels have ended. No flag is asked for, so it is the
same for a step that read the flags before they were set. -/
structure Ended (transport : Transport) : Prop where
  closed : transport.closed = true
  stopped : transport.timer.stopped = true
  span : transport.span.phase = .finished ∧ transport.span.state = .closed
  stat : transport.stat.phase = .finished ∧ transport.stat.state = .closed
  metadata : transport.metadata.phase = .finished

/-- It ends up with the same counts of what was delivered. -/
structure Rests (before after : Transport) : Prop where
  ended : after.Ended
  counted : ∀ channel, (after.counters channel).flushed = (before.counters channel).flushed ∧
    (after.counters channel).reconnects = (before.counters channel).reconnects

namespace Ended

theorem unflagged (ended : transport.Ended) : transport.unflagged.Ended :=
  ⟨ended.closed, ended.stopped, ended.span, ended.stat, ended.metadata⟩

theorem rests (ended : transport.Ended) : transport.Rests transport :=
  ⟨ended, fun _ => ⟨rfl, rfl⟩⟩

theorem call?_eq_none (ended : transport.Ended) (channel : Channel) :
    transport.call? channel = none := by
  cases channel with
  | span => simp [call?, Phase.call?, ended.span.1]
  | stat => simp [call?, Phase.call?, ended.stat.1]
  | metadata => simp [call?, RequestPhase.call?, ended.metadata]

theorem close_eq (ended : transport.Ended) : transport.close = transport := by
  rw [close, if_pos ended.closed]

theorem sendOn_dropped (ended : transport.Ended) (channel : Channel) (frame : Frame) :
    (transport.sendOn channel frame).1 = false ∧ (transport.sendOn channel frame).2.Ended ∧
      ∀ other, (transport.sendOn channel frame).2.counters other =
        if other = channel then
          { transport.counters channel with dropped := (transport.counters channel).dropped + 1 }
        else transport.counters other := by
  rcases ended with ⟨closed, stopped, span, stat, metadata⟩
  cases channel with
  | span =>
      rw [sendOn, Stream.send_finished span.1]
      exact ⟨rfl, ⟨closed, stopped, span, stat, metadata⟩, fun other => by cases other <;> rfl⟩
  | stat =>
      rw [sendOn, Stream.send_finished stat.1]
      exact ⟨rfl, ⟨closed, stopped, span, stat, metadata⟩, fun other => by cases other <;> rfl⟩
  | metadata =>
      rw [sendOn, RequestChannel.send_finished metadata]
      exact ⟨rfl, ⟨closed, stopped, span, stat, metadata⟩, fun other => by cases other <;> rfl⟩

theorem refuses (ended : transport.Ended) {channel : Channel} {frame : Frame}
    (kind : channel? frame.kind = some channel) : transport.Refuses channel frame := by
  rw [Refuses, sendFrame, kind]
  rcases ended.sendOn_dropped channel frame with ⟨refused, -, counted⟩
  exact ⟨refused, counted⟩

theorem sendFrame_rests (ended : transport.Ended) (frame : Frame) :
    transport.Rests (transport.sendFrame frame).2 := by
  rw [sendFrame]
  split
  next channel kind =>
    rcases ended.sendOn_dropped channel frame with ⟨-, after, counted⟩
    refine ⟨after, fun other => ?_⟩
    rw [counted]
    split
    next same =>
      subst same
      exact ⟨rfl, rfl⟩
    next => exact ⟨rfl, rfl⟩
  next => exact ended.rests

theorem run_rests (ended : transport.Ended) (job : Job) : transport.Rests (transport.run job) := by
  rcases ended with ⟨closed, stopped, span, stat, metadata⟩
  cases job with
  | reconnect channel =>
      refine ⟨?_, fun other => ?_⟩
      · cases channel <;> exact ⟨closed, stopped, span, stat, metadata⟩
      · cases channel <;> cases other <;> simp [run, counters, Stream.wake_counters]
  | retry request =>
      rw [run, RequestChannel.retry_finished metadata]
      refine ⟨⟨closed, stopped, span, stat, metadata⟩, fun other => ?_⟩
      cases other <;> exact ⟨rfl, rfl⟩
  | unrelated => exact ⟨⟨closed, stopped, span, stat, metadata⟩, fun _ => ⟨rfl, rfl⟩⟩

end Ended

theorem Rests.trans (first : before.Rests middle) (second : middle.Rests after) :
    before.Rests after := by
  refine ⟨second.ended, fun channel => ?_⟩
  rcases first.counted channel with ⟨flushed, reconnects⟩
  rcases second.counted channel with ⟨flushedLater, reconnectsLater⟩
  exact ⟨flushedLater.trans flushed, reconnectsLater.trans reconnects⟩

/-- The timer does its own things. -/
theorem Ended.rests_timer (ended : transport.Ended) {timer : Timer Job}
    (stopped : timer.stopped = true) : transport.Rests { transport with timer } :=
  ⟨⟨ended.closed, stopped, ended.span, ended.stat, ended.metadata⟩,
    fun channel => by cases channel <;> exact ⟨rfl, rfl⟩⟩

end Transport

/-! ### Sessions -/

namespace Session

variable {session next : Session}

theorem act?_rests {act : Act} (ended : session.transport.Ended)
    (acted : session.act? act = some next) : session.transport.Rests next.transport := by
  induction act generalizing session next with
  | sendFrame frame =>
      rcases Option.some.inj acted with rfl
      exact ended.sendFrame_rests frame
  | span now event =>
      rw [act?, Stream.step?_finished ended.span.1] at acted
      cases acted
  | stat now event =>
      rw [act?, Stream.step?_finished ended.stat.1] at acted
      cases acted
  | metadata event =>
      rcases Option.map_eq_some_iff.mp acted with ⟨result, stepped, rfl⟩
      have finished := ended.metadata
      cases RequestChannel.reacts_of_step? stepped <;> simp_all
  | occupy delay =>
      rw [act?, Timer.schedule, if_pos ended.stopped] at acted
      cases acted
      exact ended.rests
  | collect =>
      rcases Option.some.inj acted with rfl
      exact ended.rests_timer ended.stopped
  | claim =>
      rw [act?] at acted
      split at acted
      next entry due dueFront unclaimed =>
        have settles : Timer.Settles session.transport.timer [entry.id]
            (session.transport.timer.expire entry.id).2 := Timer.settle_settles _ _ (by decide)
        cases acted
        exact ended.rests_timer (settles.stopped.trans ended.stopped)
      next => cases acted
  | run =>
      rcases Option.map_eq_some_iff.mp acted with ⟨job, claimed, rfl⟩
      exact ended.run_rests job
  | shutdown channel =>
      rcases Option.some.inj acted with rfl
      cases channel <;>
        exact ⟨⟨ended.closed, ended.stopped, ended.span, ended.stat, ended.metadata⟩,
          fun other => by cases other <;> exact ⟨rfl, rfl⟩⟩
  | close =>
      rcases Option.some.inj acted with rfl
      rw [ended.close_eq]
      exact ended.rests
  | unaware act induction =>
      rcases Option.map_eq_some_iff.mp acted with ⟨after, done, rfl⟩
      have seen : Transport.Rests session.transport.unflagged after.transport :=
        induction ended.unflagged done
      rcases seen with ⟨⟨closed, stopped, span, stat, metadata⟩, counted⟩
      refine ⟨⟨closed, stopped, span, stat, metadata⟩, fun channel => ?_⟩
      have counted := counted channel
      cases channel <;> exact counted

/-- A channel that has ended does not wait. -/
theorem change?_ended {channel : Channel} {change : Stream → Option Stream}
    (ended : session.transport.Ended)
    (waits : ∀ stream : Stream, stream.phase = .finished → change stream = none) :
    session.transport.change? channel change = none := by
  cases channel with
  | span => rw [Transport.change?, waits _ ended.span.1, Option.map_none]
  | stat => rw [Transport.change?, waits _ ended.stat.1, Option.map_none]
  | metadata => rfl

theorem beat?_rests {beat : Beat} (ended : session.transport.Ended)
    (beaten : session.beat? beat = some next) : session.transport.Rests next.transport := by
  cases beat with
  | act act => exact act?_rests ended beaten
  | defer channel =>
      rw [beat?, change?_ended ended fun stream finished => by simp [Stream.defer?, finished]]
        at beaten
      cases beaten
  | listen channel =>
      rw [beat?, change?_ended ended fun stream finished => by simp [Stream.listen?, finished]]
        at beaten
      cases beaten
  | release id =>
      rcases Option.ite_none_right_eq_some.mp beaten with ⟨-, equal⟩
      cases equal
      have settles : Timer.Settles session.transport.timer [id]
          (session.transport.timer.cancel id).2 := Timer.settle_settles _ _ (by decide)
      exact ended.rests_timer (settles.stopped.trans ended.stopped)
  | join =>
      rcases beat?_join beaten with ⟨awaited, -, -, rfl⟩
      exact ended.rests

theorem beats?_rests {beats : List Beat} (ended : session.transport.Ended)
    (ran : session.beats? beats = some next) : session.transport.Rests next.transport := by
  induction beats generalizing session with
  | nil =>
      cases ran
      exact ended.rests
  | cons beat beats induction =>
      rcases Option.bind_eq_some_iff.mp ran with ⟨middle, beaten, ran⟩
      have first := beat?_rests ended beaten
      exact first.trans (induction first.ended ran)

/-! ### What every run keeps -/

theorem change?_accounted {channel : Channel} {change : Stream → Option Stream}
    {transport : Transport} (accounted : session.Accounted)
    (changed : session.transport.change? channel change = some transport)
    (adjusts : ∀ stream after, change stream = some after → stream.Adjusts after) :
    Accounted { session with transport } := by
  rcases accounted with ⟨consistent, span, stat, emptied, stopped, balance⟩
  cases channel with
  | span =>
      rcases Option.map_eq_some_iff.mp changed with ⟨after, made, rfl⟩
      have same := (adjusts _ _ made).scheduled
      exact ⟨consistent, fun id member => span id (same ▸ member), stat, emptied, stopped, balance⟩
  | stat =>
      rcases Option.map_eq_some_iff.mp changed with ⟨after, made, rfl⟩
      have same := (adjusts _ _ made).scheduled
      exact ⟨consistent, span, fun id member => stat id (same ▸ member), emptied, stopped, balance⟩
  | metadata => cases changed

theorem beat?_accounted {beat : Beat} (accounted : session.Accounted)
    (beaten : session.beat? beat = some next) : next.Accounted := by
  cases beat with
  | act act => exact act?_accounted accounted beaten
  | defer channel =>
      rcases Option.map_eq_some_iff.mp beaten with ⟨transport, changed, rfl⟩
      exact change?_accounted accounted changed fun _ _ => Stream.defer?_adjusts
  | listen channel =>
      rcases Option.map_eq_some_iff.mp beaten with ⟨transport, changed, rfl⟩
      exact change?_accounted accounted changed fun _ _ => Stream.listen?_adjusts
  | release id =>
      rcases Option.ite_none_right_eq_some.mp beaten with ⟨⟨known, unrelated⟩, equal⟩
      cases equal
      have settles : Timer.Settles session.transport.timer [id]
          (session.transport.timer.cancel id).2 := Timer.settle_settles _ _ (by decide)
      have exempt : session.transport.timer.Exempt Job.isRetry session.due id :=
        ⟨known, fun entry member same => by rw [unrelated entry member same]; rfl⟩
      refine accounted.of_carries (settles.carries accounted.consistent) rfl rfl accounted.emptied
        rfl ?_
      rw [Timer.outstanding_settles exempt settles]
      exact accounted.balance
  | join =>
      rcases beat?_join beaten with ⟨awaited, -, -, rfl⟩
      exact { accounted with }

theorem beats?_accounted {beats : List Beat} (accounted : session.Accounted)
    (ran : session.beats? beats = some next) : next.Accounted := by
  induction beats generalizing session with
  | nil =>
      cases ran
      exact accounted
  | cons beat beats induction =>
      rcases Option.bind_eq_some_iff.mp ran with ⟨middle, beaten, ran⟩
      exact induction (beat?_accounted accounted beaten) ran

/-! ### Closing -/

theorem start_beats?_ended {config : Config} {beats : List Beat}
    (ran : (start config).beats? beats = some session) (returned : session.Returned) :
    session.transport.Ended := by
  rcases returned with ⟨closed, finished⟩
  have closes {channel : Channel} {own : Stream}
      (stream : session.transport.stream? channel = some own) : own.ClosesAtEnd :=
    start_beats?_invariant (fun _ _ _ => nofun) (fun takes => takes.closesAtEnd) ran stream
  have span := of_decide_eq_true (finished .span)
  have stat := of_decide_eq_true (finished .stat)
  exact {
    closed := closed
    stopped := (beats?_accounted (start_accounted config) ran).stopped closed
    span := ⟨span, closes (Transport.stream?_span _) span⟩
    stat := ⟨stat, closes (Transport.stream?_stat _) stat⟩
    metadata := of_decide_eq_true (finished .metadata) }

/-- Closing is final. Once the call has returned, the timer is stopped and the streaming channels
are closed, and so it stays, whatever happens then: no channel starts a call to its peer, every
frame is refused and dropped by its own channel, also where the caller had looked at the flags
before, nothing counts as flushed or reconnected any more, and closing again changes nothing. -/
theorem close_final {config : Config} {beats more : List Beat} {session later : Session}
    (ran : (start config).beats? beats = some session) (returned : session.Returned)
    (went : session.beats? more = some later) :
    later.transport.timer.stopped = true ∧
      later.transport.state? .span = some .closed ∧ later.transport.state? .stat = some .closed ∧
      (∀ channel, later.transport.call? channel = none) ∧
      (∀ frame channel, channel? frame.kind = some channel →
        later.transport.Refuses channel frame ∧
          later.transport.unflagged.Refuses channel frame) ∧
      (∀ channel,
        (later.transport.counters channel).flushed =
          (session.transport.counters channel).flushed ∧
        (later.transport.counters channel).reconnects =
          (session.transport.counters channel).reconnects) ∧
      later.transport.close = later.transport := by
  rcases beats?_rests (start_beats?_ended ran returned) went with ⟨ended, counted⟩
  refine ⟨ended.stopped, congrArg some ended.span.2, congrArg some ended.stat.2,
    ended.call?_eq_none, fun frame channel kind => ?_, counted, ended.close_eq⟩
  exact ⟨ended.refuses kind, ended.unflagged.refuses kind⟩

/-- The transport is closed while one channel is connecting, another one is writing, a request is
being answered and the retry of a further request has come due. The channels end in an order of
their own. -/
def closedAtWork : List Beat :=
  [.act (.sendFrame ⟨.sqlMetadata, [1]⟩), .act (.metadata .take), .act (.metadata .failed)] ++
    List.replicate 10 (.act .collect) ++
  [.act (.sendFrame ⟨.apiMetadata, [2]⟩), .act (.metadata .take), .act (.span 0 .begin),
   .act (.stat 0 .begin), .act (.stat 0 .connected), .act (.sendFrame ⟨.statBatch, [3]⟩),
   .act (.stat 0 .take), .act .close, .act (.stat 0 .noticeShutdown),
   .act (.metadata .noticeShutdown), .act (.span 0 .noticeShutdown), .join,
   .act (.stat 0 .completed), .join, .join]

/-- What was collected before still runs, and frames are still handed over. -/
def afterwards : List Beat :=
  [.act .claim, .act .run, .act (.sendFrame ⟨.span, [4]⟩),
   .act (.unaware (.sendFrame ⟨.sqlMetadata, [5]⟩)), .act .close, .act .collect]

theorem close_final_closedAtWork :
    ∃ session later, (start { timerWheelSize := 64 }).beats? closedAtWork = some session ∧
      session.closing = .returned ∧ session.Returned ∧ session.due.length = 1 ∧
      session.beats? afterwards = some later ∧
      (later.transport.counters .span).dropped = 1 ∧
      (later.transport.counters .metadata).dropped = 3 ∧
      later.transport.timer.stopped = true ∧
      (∀ channel, later.transport.call? channel = none) ∧
      later.transport.Refuses .span ⟨.span, [6]⟩ ∧
      later.transport.close = later.transport := by
  have ends : ((start { timerWheelSize := 64 }).beats? closedAtWork).map (fun session =>
      (session.closing, session.due.length, (session.beats? afterwards).map fun later =>
        ((later.transport.counters .span).dropped,
          (later.transport.counters .metadata).dropped))) =
      some (.returned, 1, some (1, 3)) := by decide +kernel
  rcases Option.map_eq_some_iff.mp ends with ⟨session, ran, ended⟩
  simp only [Prod.mk.injEq] at ended
  rcases ended with ⟨closing, due, continued⟩
  rcases Option.map_eq_some_iff.mp continued with ⟨later, went, dropped⟩
  simp only [Prod.mk.injEq] at dropped
  have returned := returned_of_beats? ran closing
  rcases close_final ran returned went with ⟨stopped, -, -, silent, refuses, -, again⟩
  exact ⟨session, later, ran, closing, returned, due, went, dropped.1, dropped.2, stopped, silent,
    (refuses ⟨.span, [6]⟩ .span rfl).1, again⟩

end Session

end Telemetry.Delivery
