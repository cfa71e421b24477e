import Telemetry.Proofs.Delivery.Beats

namespace Telemetry.Delivery

/-! The call that closes a transport. It waits for the channels, one after the other, and returns
when all of them have ended: not before, and without waiting for anything else. A channel that has
ended does not begin again, so those that the call has waited for are at their end when it
returns. -/

namespace Stream

theorem Takes.finished {before after : Stream} {part : Option Part}
    (takes : before.Takes part after) (finished : before.phase = .finished) :
    after.phase = .finished := by
  induction takes with
  | send before frame =>
      rw [send_phase]
      exact finished
  | react reacts => exact absurd finished reacts.unfinished
  | control => exact finished
  | unaware takes induction => exact induction finished

end Stream

namespace RequestChannel

theorem enqueue_phase (channel : RequestChannel) (request : Request) :
    (channel.enqueue request).2.phase = channel.phase := by
  rw [enqueue]
  split <;> rfl

theorem send_phase (channel : RequestChannel) (frame : Frame) :
    (channel.send frame).2.phase = channel.phase := by
  rw [send]
  dsimp only
  split
  next => rfl
  next => exact enqueue_phase _ _

theorem retry_phase (channel : RequestChannel) (request : Request) :
    (channel.retry request).phase = channel.phase := by
  rw [retry]
  split
  next => rfl
  next => exact channel.enqueue_phase request

end RequestChannel

theorem Transport.sendFrame_keeps (frame : Frame) (transport : Transport) :
    (transport.sendFrame frame).2.closed = transport.closed ∧
      (transport.sendFrame frame).2.metadata.phase = transport.metadata.phase := by
  rw [sendFrame]
  split
  next channel kind =>
    cases channel with
    | span | stat => exact ⟨rfl, rfl⟩
    | metadata => exact ⟨rfl, transport.metadata.send_phase frame⟩
  next => exact ⟨rfl, rfl⟩

namespace Closing

/-- The channels that the call has waited for. -/
def joined : Closing → List Channel
  | .uncalled => []
  | .awaiting .span => []
  | .awaiting .stat => [.span]
  | .awaiting .metadata => [.span, .stat]
  | .returned => [.span, .stat, .metadata]

theorem joined_after (channel : Channel) :
    joined (.after channel) = joined (.awaiting channel) ++ [channel] := by
  cases channel <;> rfl

end Closing

namespace Session

variable {session next : Session}

/-! ### Beats -/

/-- What a beat can do to the call, unless the call takes the beat itself: the transport is closed
by the first call alone. The worker of the metadata channel does not begin again. -/
structure Proceeds (session next : Session) : Prop where
  call : (next.closing = session.closing ∧ next.transport.closed = session.transport.closed) ∨
    (next.closing = .awaiting .span ∧ next.transport.closed = true)
  metadata : session.transport.metadata.phase = .finished →
    next.transport.metadata.phase = .finished

theorem Proceeds.still (closing : next.closing = session.closing)
    (closed : next.transport.closed = session.transport.closed)
    (metadata : next.transport.metadata.phase = session.transport.metadata.phase) :
    session.Proceeds next :=
  ⟨.inl ⟨closing, closed⟩, metadata.trans⟩

theorem act?_proceeds {act : Act} (acted : session.act? act = some next) :
    session.Proceeds next := by
  induction act generalizing session next with
  | sendFrame frame =>
      rcases Option.some.inj acted with rfl
      have kept := session.transport.sendFrame_keeps frame
      exact .still rfl kept.1 kept.2
  | span now event | stat now event =>
      rcases Option.map_eq_some_iff.mp acted with ⟨result, stepped, rfl⟩
      exact .still rfl rfl rfl
  | metadata event =>
      rcases Option.map_eq_some_iff.mp acted with ⟨result, stepped, rfl⟩
      refine ⟨.inl ⟨rfl, rfl⟩, fun finished => ?_⟩
      cases RequestChannel.reacts_of_step? stepped <;> simp_all
  | occupy delay =>
      rw [act?] at acted
      split at acted <;> cases acted <;> exact .still rfl rfl rfl
  | collect =>
      rcases Option.some.inj acted with rfl
      exact .still rfl rfl rfl
  | claim =>
      rw [act?] at acted
      split at acted <;> cases acted
      exact .still rfl rfl rfl
  | run =>
      rcases Option.map_eq_some_iff.mp acted with ⟨job, claimed, rfl⟩
      cases job with
      | reconnect channel => cases channel <;> exact .still rfl rfl rfl
      | retry request => exact .still rfl rfl (session.transport.metadata.retry_phase request)
      | unrelated => exact .still rfl rfl rfl
  | shutdown channel =>
      rcases Option.some.inj acted with rfl
      cases channel <;> exact .still rfl rfl rfl
  | close =>
      rcases Option.some.inj acted with rfl
      by_cases closed : session.transport.closed = true
      · refine .still (if_pos closed) ?_ ?_ <;> rw [Transport.close, if_pos closed]
      · refine ⟨.inr ⟨if_neg closed, ?_⟩, fun finished => ?_⟩ <;>
          rw [Transport.close, if_neg closed]
        exact finished
  | unaware act induction =>
      rcases Option.map_eq_some_iff.mp acted with ⟨after, done, rfl⟩
      have seen := induction done
      exact ⟨seen.call, seen.metadata⟩

theorem beat?_proceeds {beat : Beat} (unjoined : beat ≠ .join)
    (beaten : session.beat? beat = some next) : session.Proceeds next := by
  cases beat with
  | act act => exact act?_proceeds beaten
  | defer channel | listen channel =>
      rcases Option.map_eq_some_iff.mp beaten with ⟨transport, changed, rfl⟩
      cases channel with
      | span | stat =>
          rcases Option.map_eq_some_iff.mp changed with ⟨after, made, rfl⟩
          exact .still rfl rfl rfl
      | metadata => cases changed
  | release id =>
      rcases Option.ite_none_right_eq_some.mp beaten with ⟨-, equal⟩
      cases equal
      exact .still rfl rfl rfl
  | join => exact absurd rfl unjoined

theorem beat?_isFinished {beat : Beat} {channel : Channel} (unjoined : beat ≠ .join)
    (beaten : session.beat? beat = some next)
    (finished : session.transport.isFinished channel = true) :
    next.transport.isFinished channel = true := by
  cases channel with
  | span =>
      rcases beat?_takes beaten (Transport.stream?_span _) with ⟨after, found, takes⟩
      cases found
      exact decide_eq_true (takes.finished (of_decide_eq_true finished))
  | stat =>
      rcases beat?_takes beaten (Transport.stream?_stat _) with ⟨after, found, takes⟩
      cases found
      exact decide_eq_true (takes.finished (of_decide_eq_true finished))
  | metadata =>
      have proceeds := beat?_proceeds unjoined beaten
      exact decide_eq_true (proceeds.metadata (of_decide_eq_true finished))

/-- The call was made exactly if the transport is closed, and what it has waited for has ended. -/
structure Joined (session : Session) : Prop where
  called : session.closing = .uncalled ↔ session.transport.closed = false
  ended : ∀ channel ∈ session.closing.joined, session.transport.isFinished channel = true

theorem start_joined (config : Config) : (start config).Joined :=
  ⟨⟨fun _ => rfl, fun _ => rfl⟩, nofun⟩

theorem beat?_joined {beat : Beat} (before : session.Joined)
    (beaten : session.beat? beat = some next) : next.Joined := by
  by_cases join : beat = .join
  · subst join
    rcases beat?_join beaten with ⟨channel, waits, finished, rfl⟩
    rcases before with ⟨called, ended⟩
    rw [waits] at called ended
    refine ⟨⟨?_, fun opened => nomatch called.mpr opened⟩, fun other member => ?_⟩
    · cases channel <;> exact nofun
    · dsimp only at member
      rw [Closing.joined_after] at member
      rcases List.mem_append.mp member with earlier | same
      · exact ended other earlier
      · rw [List.mem_singleton.mp same]
        exact finished
  · rcases (beat?_proceeds join beaten).call with ⟨closing, closed⟩ | ⟨closing, closed⟩
    · refine ⟨by rw [closing, closed, before.called], fun channel member => ?_⟩
      rw [closing] at member
      exact beat?_isFinished join beaten (before.ended channel member)
    · refine ⟨by simp [closing, closed], fun channel member => ?_⟩
      rw [closing] at member
      cases member

theorem beats?_joined {beats : List Beat} (before : session.Joined)
    (ran : session.beats? beats = some next) : next.Joined := by
  induction beats generalizing session with
  | nil =>
      cases ran
      exact before
  | cons beat beats induction =>
      rcases Option.bind_eq_some_iff.mp ran with ⟨middle, beaten, ran⟩
      exact induction (beat?_joined before beaten) ran

/-! ### Its return -/

/-- The transport is closed and its channels have ended. -/
def Returned (session : Session) : Prop :=
  session.transport.closed = true ∧ ∀ channel, session.transport.isFinished channel = true

/-- The call that closes the transport returns only when the channels have ended. -/
theorem returned_of_beats? {config : Config} {beats : List Beat}
    (ran : (start config).beats? beats = some session) (returned : session.closing = .returned) :
    session.Returned := by
  rcases beats?_joined (start_joined config) ran with ⟨called, ended⟩
  rw [returned] at called ended
  have closed : session.transport.closed = true := by
    refine Bool.ne_false_iff.mp fun opened => ?_
    cases called.mpr opened
  exact ⟨closed, fun channel => ended channel (by cases channel <;> decide)⟩

theorem beats?_join_cons (session : Session) {channel : Channel} (beats : List Beat)
    (finished : session.transport.isFinished channel = true) :
    beats? { session with closing := .awaiting channel } (.join :: beats) =
      beats? { session with closing := .after channel } beats := by
  simp [beats?, beat?, finished]

theorem exists_joins_of_called {closing : Closing} (called : closing ≠ .uncalled)
    (finished : ∀ channel, session.transport.isFinished channel = true) :
    ∃ count, beats? { session with closing } (List.replicate count .join) =
      some { session with closing := .returned } := by
  have stat := beats?_join_cons session [.join] (finished .stat)
  have metadata := beats?_join_cons session [] (finished .metadata)
  cases closing with
  | uncalled => exact absurd rfl called
  | awaiting channel =>
      cases channel with
      | span =>
          have span := beats?_join_cons session [.join, .join] (finished .span)
          exact ⟨3, span.trans (stat.trans metadata)⟩
      | stat => exact ⟨2, stat.trans metadata⟩
      | metadata => exact ⟨1, metadata⟩
  | returned => exact ⟨0, rfl⟩

/-- The call waits for nothing else: once the channels have ended it can go on until it returns. -/
theorem exists_joins {config : Config} {beats : List Beat}
    (ran : (start config).beats? beats = some session) (returned : session.Returned) :
    ∃ count, session.beats? (List.replicate count .join) =
      some { session with closing := .returned } := by
  have called := (beats?_joined (start_joined config) ran).called
  rcases returned with ⟨closed, finished⟩
  refine exists_joins_of_called (fun uncalled => ?_) finished
  rw [called.mp uncalled] at closed
  cases closed

end Session

end Telemetry.Delivery
