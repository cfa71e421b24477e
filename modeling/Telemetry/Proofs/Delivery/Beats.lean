import Telemetry.Proofs.Delivery.Accounting
import Telemetry.Proofs.Delivery.Alertness
import Telemetry.Proofs.Delivery.History

namespace Telemetry.Delivery

/-! The runs of a transport, beat by beat, as one of its streaming channels sees them. Beside the
acts of a session, a channel may begin to listen some time after it scheduled its attempt, the
other users of the timer may cancel their timeouts, and the call that closes the transport goes on
when the channel that it waits for has ended. In most beats the channel has no part of its
own: at most its shutdown flag or its way of waiting changes. It has a part in a beat that hands it
a frame, and in its own reactions. -/

namespace Transport

def stream? (transport : Transport) : Channel → Option Stream
  | .span => some transport.span
  | .stat => some transport.stat
  | .metadata => none

theorem stream?_span (transport : Transport) : transport.stream? .span = some transport.span := rfl

theorem stream?_stat (transport : Transport) : transport.stream? .stat = some transport.stat := rfl

theorem stream?_sendOn_of_ne {channel receiving : Channel} (apart : receiving ≠ channel)
    (frame : Frame) (transport : Transport) :
    (transport.sendOn receiving frame).2.stream? channel = transport.stream? channel := by
  cases receiving with
  | span =>
      cases channel with
      | span => exact absurd rfl apart
      | stat | metadata => rfl
  | stat =>
      cases channel with
      | stat => exact absurd rfl apart
      | span | metadata => rfl
  | metadata => cases channel <;> rfl

theorem stream?_shutdown_of_ne {channel asked : Channel} (apart : asked ≠ channel)
    (transport : Transport) :
    (transport.shutdown asked).stream? channel = transport.stream? channel := by
  cases asked with
  | span =>
      cases channel with
      | span => exact absurd rfl apart
      | stat | metadata => rfl
  | stat =>
      cases channel with
      | stat => exact absurd rfl apart
      | span | metadata => rfl
  | metadata => cases channel <;> rfl

/-- Changes one of the streams. -/
def change? (channel : Channel) (change : Stream → Option Stream) (transport : Transport) :
    Option Transport :=
  match channel with
  | .span => (change transport.span).map fun span => { transport with span }
  | .stat => (change transport.stat).map fun stat => { transport with stat }
  | .metadata => none

end Transport

inductive Beat where
  | act (act : Act)
  /-- A channel that scheduled its attempt takes its time before it listens. -/
  | defer (channel : Channel)
  | listen (channel : Channel)
  /-- Another user of the timer cancels a timeout. -/
  | release (id : Nat)
  /-- The call that closes the transport finds that the channel it waits for has ended. -/
  | join

/-- The call waits for the channels in this order, and then returns. -/
def Closing.after : Channel → Closing
  | .span => .awaiting .stat
  | .stat => .awaiting .metadata
  | .metadata => .returned

namespace Session

/-- The session after a beat, `none` where the beat cannot happen. -/
def beat? (session : Session) : Beat → Option Session
  | .act act => session.act? act
  | .defer channel =>
      (session.transport.change? channel Stream.defer?).map fun transport =>
        { session with transport }
  | .listen channel =>
      (session.transport.change? channel Stream.listen?).map fun transport =>
        { session with transport }
  | .release id =>
      let timer := session.transport.timer
      if id < timer.statuses.size ∧
          ∀ entry ∈ timer.entries ++ session.due, entry.id = id → entry.task = .unrelated then
        some { session with transport := { session.transport with timer := (timer.cancel id).2 } }
      else none
  | .join =>
      match session.closing with
      | .awaiting channel =>
          if session.transport.isFinished channel then
            some { session with closing := .after channel }
          else none
      | _ => none

theorem beat?_join {session next : Session} (beaten : session.beat? .join = some next) :
    ∃ channel, session.closing = .awaiting channel ∧ session.transport.isFinished channel = true ∧
      next = { session with closing := .after channel } := by
  rw [beat?] at beaten
  split at beaten
  next channel waits =>
    rcases Option.ite_none_right_eq_some.mp beaten with ⟨finished, equal⟩
    exact ⟨channel, waits, finished, (Option.some.inj equal).symm⟩
  next => cases beaten

def beats? (session : Session) : List Beat → Option Session
  | [] => some session
  | beat :: beats => (session.beat? beat).bind fun next => next.beats? beats

end Session

/-! ### The part of a channel -/

/-- What a channel does itself in a beat. -/
inductive Part where
  | send (frame : Frame)
  | react (now : Nanos) (event : StreamEvent)

def Act.part? (channel : Channel) : Act → Option Part
  | .sendFrame frame => if channel? frame.kind = some channel then some (.send frame) else none
  | .span now event => if channel = .span then some (.react now event) else none
  | .stat now event => if channel = .stat then some (.react now event) else none
  | .unaware act => act.part? channel
  | _ => none

def Beat.part? (channel : Channel) : Beat → Option Part
  | .act deed => deed.part? channel
  | _ => none

/-- The frames whose writes succeed with a part. -/
def Part.writes (phase : Phase) : Part → List Frame
  | .send _ => []
  | .react _ event => event.writes phase

/-- The frames that the channel writes in a beat. -/
def Beat.writes (channel : Channel) (phase : Phase) (beat : Beat) : List Frame :=
  (beat.part? channel).elim [] (Part.writes phase)

/-- The dispatcher is ending the channel or has ended. -/
def Phase.ends : Phase → Bool
  | .completing => true
  | .finished => true
  | _ => false

namespace Stream

variable {stream before after : Stream} {part : Option Part}

/-- From `before` to `after` in a beat in which the channel has the given part. -/
inductive Takes : Stream → Option Part → Stream → Prop
  | send (before : Stream) (frame : Frame) :
      Takes before (some (.send frame)) (before.send frame).2
  | react {before : Stream} {now : Nanos} {task : Job} {timer : Timer Job} {event : StreamEvent}
      {result : Stream × Timer Job} (reacts : before.Reacts now task timer event result) :
      Takes before (some (.react now event)) result.1
  /-- Nothing, or it is woken up, asked to end, or gets on with its wait. -/
  | control (before : Stream) (cancelled : Bool) (reconnector : Reconnector)
      (kept : before.cancelled = true → cancelled = true) :
      Takes before none { before with cancelled, reconnector }
  | unaware {before after : Stream} {part : Option Part}
      (takes : Takes { before with cancelled := false } part after) :
      Takes before part { after with cancelled := before.cancelled || after.cancelled }

theorem takes_control (stream : Stream) (reconnector : Reconnector) :
    stream.Takes none { stream with reconnector } :=
  .control stream stream.cancelled reconnector id

theorem takes_nothing (stream : Stream) : stream.Takes none stream :=
  stream.takes_control stream.reconnector

theorem takes_shutdown (stream : Stream) : stream.Takes none stream.shutdown :=
  .control stream true stream.reconnector fun _ => rfl

theorem WellFormed.control (wellFormed : stream.WellFormed) (cancelled : Bool)
    (reconnector : Reconnector) : WellFormed { stream with cancelled, reconnector } :=
  ⟨wellFormed.alone, wellFormed.emptied, wellFormed.room⟩

theorem send_wellFormed (wellFormed : stream.WellFormed) (frame : Frame) :
    (stream.send frame).2.WellFormed := by
  have sends := stream.send_sends frame
  cases outcome : stream.send frame with
  | mk accepted after =>
      rw [outcome] at sends
      cases sends with
      | accepts running room =>
          refine ⟨wellFormed.alone, fun finished => absurd finished running, ?_⟩
          rw [List.length_append]
          exact room
      | refuses => exact ⟨wellFormed.alone, wellFormed.emptied, wellFormed.room⟩

theorem Takes.wellFormed (takes : before.Takes part after) (wellFormed : before.WellFormed) :
    after.WellFormed := by
  induction takes with
  | send before frame => exact send_wellFormed wellFormed frame
  | react reacts =>
      rcases reacts_delivers wellFormed reacts with ⟨dropped, delivers⟩
      exact delivers.wellFormed
  | control before cancelled reconnector => exact wellFormed.control cancelled reconnector
  | unaware takes induction =>
      have seen := induction (wellFormed.control false _)
      exact seen.control _ _

/-- Unless the channel is handed a frame, frames only leave it, and they leave at the front. -/
theorem Takes.delivers (takes : before.Takes part after) (wellFormed : before.WellFormed)
    (unsent : ∀ frame, part ≠ some (.send frame)) :
    ∃ dropped, before.undelivered =
        part.elim [] (Part.writes before.phase) ++ dropped ++ after.undelivered ∧
      (dropped = [] ∨ after.undelivered = []) := by
  induction takes with
  | send before frame => exact absurd rfl (unsent frame)
  | @react before now task timer event result reacts =>
      rcases reacts_delivers wellFormed reacts with ⟨dropped, delivers⟩
      refine ⟨dropped, delivers.conserved, ?_⟩
      by_cases finished : result.1.phase = .finished
      · right
        rw [undelivered, delivers.wellFormed.emptied finished, finished]
        rfl
      · exact .inl (delivers.ended finished)
  | control before cancelled reconnector => exact ⟨[], rfl, .inl rfl⟩
  | unaware takes induction => exact induction (wellFormed.control false _) unsent

/-- A channel ends after it was asked to end, or because the timer was stopped; then it asks
itself. -/
theorem reacts_ends {now : Nanos} {task : Job} {timer : Timer Job} {event : StreamEvent}
    {result : Stream × Timer Job} (reacts : stream.Reacts now task timer event result)
    (ends : result.1.phase.ends = true) :
    result.1.cancelled = true ∨ stream.phase.ends = true := by
  cases reacts with
  | begin | connected | take | written | notified | slept => cases ends
  | refused | writeFailed | peerClosed =>
      left
      rw [scheduleReconnect] at ends ⊢
      split
      next => rfl
      next scheduled =>
        rw [scheduled] at ends
        dsimp only at ends
        split at ends <;> cases ends
  | beginCancelled phase cancelled => exact .inl cancelled
  | abandoned cancelled | disconnecting phase cancelled | interrupted phase cancelled =>
      exact .inl cancelled
  | completed phase =>
      right
      rw [phase]
      rfl

theorem Takes.cancelled (takes : before.Takes part after) (asked : before.cancelled = true) :
    after.cancelled = true := by
  induction takes with
  | send before frame =>
      rw [send_cancelled]
      exact asked
  | react reacts => exact reacts_cancelled reacts asked
  | control before cancelled reconnector kept => exact kept asked
  | unaware => exact Bool.or_eq_true_iff.mpr (.inl asked)

theorem Takes.ends (takes : before.Takes part after) (ends : after.phase.ends = true) :
    after.cancelled = true ∨ before.phase.ends = true := by
  induction takes with
  | send before frame =>
      rw [send_phase] at ends
      exact .inr ends
  | react reacts => exact reacts_ends reacts ends
  | control => exact .inr ends
  | unaware takes induction =>
      exact (induction ends).imp_left fun asked => Bool.or_eq_true_iff.mpr (.inr asked)

/-- What holds of a channel in every state of a run. -/
structure Sound (stream : Stream) : Prop where
  wellFormed : stream.WellFormed
  ending : stream.phase.ends = true → stream.cancelled = true

theorem start_sound (channel : Channel) (capacity : Nat) (backoff : Backoff) :
    (start channel capacity backoff).Sound :=
  ⟨⟨fun _ => rfl, fun _ => rfl, Nat.zero_le _⟩, nofun⟩

theorem Takes.sound (takes : before.Takes part after) (sound : before.Sound) : after.Sound :=
  ⟨takes.wellFormed sound.wellFormed, fun ends =>
    (takes.ends ends).elim id fun ending => takes.cancelled (sound.ending ending)⟩

end Stream

namespace Session

variable {session next : Session} {channel : Channel} {own : Stream}

/-! ### Acts and beats -/

theorem sendFrame_takes (frame : Frame) (acted : session.act? (.sendFrame frame) = some next)
    (stream : session.transport.stream? channel = some own) :
    ∃ after, next.transport.stream? channel = some after ∧
      own.Takes ((Act.sendFrame frame).part? channel) after := by
  rcases Option.some.inj acted with rfl
  rw [Transport.sendFrame, Act.part?]
  by_cases mine : channel? frame.kind = some channel
  · rw [mine, if_pos rfl]
    cases channel with
    | span | stat =>
        cases stream
        exact ⟨_, rfl, .send _ frame⟩
    | metadata => cases stream
  · rw [if_neg mine]
    refine ⟨own, ?_, own.takes_nothing⟩
    cases kind : channel? frame.kind with
    | none => exact stream
    | some receiving =>
        have apart : receiving ≠ channel := fun same => mine (by rw [kind, same])
        exact (Transport.stream?_sendOn_of_ne apart frame session.transport).trans stream

theorem run_takes (acted : session.act? .run = some next)
    (stream : session.transport.stream? channel = some own) :
    ∃ reconnector, next.transport.stream? channel = some { own with reconnector } := by
  rcases Option.map_eq_some_iff.mp acted with ⟨job, claimed, rfl⟩
  cases job with
  | reconnect woken =>
      cases channel <;> cases woken <;> cases stream <;> exact ⟨_, rfl⟩
  | retry request => cases channel <;> cases stream <;> exact ⟨_, rfl⟩
  | unrelated => exact ⟨_, stream⟩

theorem act?_takes {act : Act} (acted : session.act? act = some next)
    (stream : session.transport.stream? channel = some own) :
    ∃ after, next.transport.stream? channel = some after ∧
      own.Takes (act.part? channel) after := by
  induction act generalizing session next own with
  | sendFrame frame => exact sendFrame_takes frame acted stream
  | span now event =>
      rcases Option.map_eq_some_iff.mp acted with ⟨⟨span, timer⟩, stepped, rfl⟩
      cases channel with
      | span =>
          cases stream
          exact ⟨span, rfl, .react (Stream.reacts_of_step? stepped)⟩
      | stat => exact ⟨own, stream, own.takes_nothing⟩
      | metadata => cases stream
  | stat now event =>
      rcases Option.map_eq_some_iff.mp acted with ⟨⟨stat, timer⟩, stepped, rfl⟩
      cases channel with
      | span => exact ⟨own, stream, own.takes_nothing⟩
      | stat =>
          cases stream
          exact ⟨stat, rfl, .react (Stream.reacts_of_step? stepped)⟩
      | metadata => cases stream
  | metadata event =>
      rcases Option.map_eq_some_iff.mp acted with ⟨⟨metadata, timer⟩, stepped, rfl⟩
      refine ⟨own, ?_, own.takes_nothing⟩
      cases channel <;> exact stream
  | occupy delay =>
      rw [act?] at acted
      refine ⟨own, ?_, own.takes_nothing⟩
      split at acted <;> cases acted <;> cases channel <;> exact stream
  | collect =>
      rcases Option.some.inj acted with rfl
      refine ⟨own, ?_, own.takes_nothing⟩
      cases channel <;> exact stream
  | claim =>
      rw [act?] at acted
      refine ⟨own, ?_, own.takes_nothing⟩
      split at acted <;> cases acted
      cases channel <;> exact stream
  | run =>
      rcases run_takes acted stream with ⟨reconnector, after⟩
      exact ⟨_, after, own.takes_control reconnector⟩
  | shutdown asked =>
      rcases Option.some.inj acted with rfl
      by_cases same : asked = channel
      · subst same
        refine ⟨own.shutdown, ?_, own.takes_shutdown⟩
        cases asked <;> cases stream <;> rfl
      · refine ⟨own, ?_, own.takes_nothing⟩
        exact (Transport.stream?_shutdown_of_ne same session.transport).trans stream
  | close =>
      rcases Option.some.inj acted with rfl
      rw [Transport.close]
      split
      next => exact ⟨own, stream, own.takes_nothing⟩
      next =>
        refine ⟨own.shutdown, ?_, own.takes_shutdown⟩
        cases channel <;> cases stream <;> rfl
  | unaware act induction =>
      rcases Option.map_eq_some_iff.mp acted with ⟨unflagged, done, rfl⟩
      have seen : Transport.stream? session.transport.unflagged channel =
          some { own with cancelled := false } := by
        cases channel <;> cases stream <;> rfl
      rcases induction done seen with ⟨after, found, takes⟩
      refine ⟨_, ?_, takes.unaware⟩
      cases channel <;> cases stream <;> cases found <;> rfl

theorem change?_takes {changing : Channel} {change : Stream → Option Stream}
    {transport : Transport} (changed : session.transport.change? changing change = some transport)
    (adjusts : ∀ stream after, change stream = some after → stream.Adjusts after)
    (stream : session.transport.stream? channel = some own) :
    ∃ after, transport.stream? channel = some after ∧ own.Takes none after := by
  cases changing with
  | span =>
      rcases Option.map_eq_some_iff.mp changed with ⟨span, made, rfl⟩
      rcases (adjusts _ _ made).same with ⟨reconnector, rfl⟩
      cases channel <;> cases stream <;> exact ⟨_, rfl, Stream.takes_control _ _⟩
  | stat =>
      rcases Option.map_eq_some_iff.mp changed with ⟨stat, made, rfl⟩
      rcases (adjusts _ _ made).same with ⟨reconnector, rfl⟩
      cases channel <;> cases stream <;> exact ⟨_, rfl, Stream.takes_control _ _⟩
  | metadata => cases changed

theorem beat?_takes {beat : Beat} (beaten : session.beat? beat = some next)
    (stream : session.transport.stream? channel = some own) :
    ∃ after, next.transport.stream? channel = some after ∧
      own.Takes (beat.part? channel) after := by
  cases beat with
  | act act => exact act?_takes beaten stream
  | defer changing =>
      rcases Option.map_eq_some_iff.mp beaten with ⟨transport, changed, rfl⟩
      exact change?_takes changed (fun _ _ => Stream.defer?_adjusts) stream
  | listen changing =>
      rcases Option.map_eq_some_iff.mp beaten with ⟨transport, changed, rfl⟩
      exact change?_takes changed (fun _ _ => Stream.listen?_adjusts) stream
  | release id =>
      rcases Option.ite_none_right_eq_some.mp beaten with ⟨-, equal⟩
      rcases Option.some.inj equal with rfl
      refine ⟨own, ?_, own.takes_nothing⟩
      cases channel <;> exact stream
  | join =>
      rcases beat?_join beaten with ⟨awaited, -, -, rfl⟩
      exact ⟨own, stream, own.takes_nothing⟩

theorem beat?_cancelled {beat : Beat} {after : Stream}
    (beaten : session.beat? beat = some next)
    (stream : session.transport.stream? channel = some own)
    (found : next.transport.stream? channel = some after) (asked : own.cancelled = true) :
    after.cancelled = true := by
  rcases beat?_takes beaten stream with ⟨same, reached, takes⟩
  rw [found] at reached
  cases reached
  exact takes.cancelled asked

/-! ### Runs -/

/-- What no beat takes away from a channel is kept by every run. -/
theorem beats?_invariant {holds : Stream → Prop} {beats : List Beat}
    (kept : ∀ {before after : Stream} {part : Option Part}, before.Takes part after →
      holds before → holds after)
    (ran : session.beats? beats = some next)
    (stream : session.transport.stream? channel = some own) (holdsOwn : holds own) :
    ∃ after, next.transport.stream? channel = some after ∧ holds after := by
  induction beats generalizing session own with
  | nil =>
      cases ran
      exact ⟨own, stream, holdsOwn⟩
  | cons beat beats induction =>
      rcases Option.bind_eq_some_iff.mp ran with ⟨middle, beaten, ran⟩
      rcases beat?_takes beaten stream with ⟨after, found, takes⟩
      exact induction ran found (kept takes holdsOwn)

theorem start_beats?_invariant {holds : Stream → Prop} {config : Config} {beats : List Beat}
    (starts : ∀ channel capacity backoff, holds (.start channel capacity backoff))
    (kept : ∀ {before after : Stream} {part : Option Part}, before.Takes part after →
      holds before → holds after)
    (ran : (start config).beats? beats = some session)
    (stream : session.transport.stream? channel = some own) : holds own := by
  have fresh : ∃ first, (start config).transport.stream? channel = some first ∧ holds first := by
    cases channel with
    | span | stat => exact ⟨_, rfl, starts _ _ _⟩
    | metadata => cases stream
  rcases fresh with ⟨first, found, holdsFirst⟩
  rcases beats?_invariant kept ran found holdsFirst with ⟨after, reached, holdsAfter⟩
  rw [stream] at reached
  cases reached
  exact holdsAfter

theorem start_beats?_sound {config : Config} {beats : List Beat}
    (ran : (start config).beats? beats = some session)
    (stream : session.transport.stream? channel = some own) : own.Sound :=
  start_beats?_invariant Stream.start_sound (fun takes sound => takes.sound sound) ran stream

end Session

end Telemetry.Delivery
