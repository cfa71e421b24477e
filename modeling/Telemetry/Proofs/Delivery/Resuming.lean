import Telemetry.Proofs.Delivery.Frame
import Telemetry.Proofs.Delivery.WakeUps
import Telemetry.Proofs.Delivery.Wheel

namespace Telemetry.Delivery

/-! How a streaming channel gets on when its peer takes all that the framing lets through: the timer
turns until it wakes the channel up, the channel connects, and it writes its frames up to the first
one that is too long. -/

/-- The acts of those who use the transport. -/
def Act.isCall : Act → Bool
  | .sendFrame _ => true
  | .shutdown _ => true
  | .close => true
  | .unaware act => act.isCall
  | _ => false

def Beat.isCall : Beat → Bool
  | .act deed => deed.isCall
  | _ => false

/-- The events of a peer that accepts every connection and reads all that is written to it: a write
fails if the frame does not fit, and for no other reason. -/
def StreamEvent.welcome (maxLength : Nat) : StreamEvent → Phase → Bool
  | .refused, _ => false
  | .peerClosed, _ => false
  | .written, .writing frame => frame.fits maxLength
  | .writeFailed, .writing frame => !frame.fits maxLength
  | _, _ => true

/-- The beats of a transport that nobody calls and whose channel has such a peer, from a time on. -/
structure Welcomes (maxLength : Nat) (since : Nanos) (channel : Channel) (own : Stream)
    (beat : Beat) : Prop where
  uncalled : beat.isCall = false
  welcome : ∀ now event, beat.part? channel = some (.react now event) →
    since ≤ now ∧ event.welcome maxLength own.phase = true

/-- The only notification of a channel that does not listen is a permit. -/
theorem Reconnector.permit_of_notices {reconnector : Reconnector}
    (leaves : reconnector.listener = .away) (noticed : reconnector.notices = 1) :
    reconnector.permit = true := by
  rw [notices, leaves] at noticed
  cases left : reconnector.permit with
  | true => rfl
  | false =>
      rw [left] at noticed
      cases noticed

namespace Stream

variable {τ : Type} {now : Nanos} {task : τ} {timer : Timer τ} {stream : Stream} {frame : Frame}
  {rest : List Frame}

theorem next?_of_backlog (front : stream.backlog = frame :: rest) :
    stream.next? = some (frame, { stream with held := none, queue := rest }) := by
  rw [backlog] at front
  rw [next?]
  cases held : stream.held with
  | some first =>
      rw [held] at front
      cases front
      rfl
  | none =>
      rw [held] at front
      cases queue : stream.queue with
      | nil =>
          rw [queue] at front
          cases front
      | cons first others =>
          rw [queue] at front
          cases front
          rfl

/-! ### Reactions of a channel that was not asked to end -/

theorem step?_begin (ready : stream.phase = .ready) (asked : stream.cancelled = false) :
    stream.step? now task .begin timer = some ({ stream with
      state := stream.state.moveTo .connecting, phase := .connecting }, timer) := by
  simp [step?, ready, asked]

theorem step?_connected (connecting : stream.phase = .connecting)
    (asked : stream.cancelled = false) :
    stream.step? now task .connected timer = some ({ stream with
      reconnector := stream.reconnector.reset
      state := stream.state.moveTo .streaming
      phase := .idle }, timer) := by
  simp [step?, connecting, asked]

theorem step?_take (idle : stream.phase = .idle) (asked : stream.cancelled = false)
    (front : stream.backlog = frame :: rest) :
    stream.step? now task .take timer =
      some ({ stream with held := none, queue := rest, phase := .writing frame }, timer) := by
  simp [step?, idle, asked, next?_of_backlog front]

theorem step?_written (writing : stream.phase = .writing frame)
    (asked : stream.cancelled = false) :
    stream.step? now task .written timer =
      some ({ stream with phase := .idle, flushed := stream.flushed + 1 }, timer) := by
  simp [step?, writing, asked]

theorem step?_notified (waiting : stream.phase = .waiting) (asked : stream.cancelled = false)
    (woken : stream.reconnector.listener = .woken) :
    stream.step? now task .notified timer = some ({ stream with
      reconnector := { stream.reconnector with listener := .away }, phase := .ready }, timer) := by
  simp [step?, Reconnector.resume?, waiting, asked, woken]

theorem step?_slept {wakeAt : Nanos} (sleeping : stream.phase = .sleeping wakeAt)
    (asked : stream.cancelled = false) (due : wakeAt ≤ now) :
    stream.step? now task .slept timer = some ({ stream with phase := .ready }, timer) := by
  simp [step?, sleeping, asked, due]

end Stream

namespace Session

variable {maxLength : Nat} {since : Nanos} {channel : Channel} {session next : Session}
  {own : Stream} {frames : List Frame}

/-! ### Continuations -/

/-- Runs of beats that are allowed as the channel stands, with the frames that it writes in them. -/
inductive Continues (allowed : Stream → Beat → Prop) (channel : Channel) :
    Session → List Frame → Session → Prop
  | refl (session : Session) : Continues allowed channel session [] session
  | step {session next after : Session} {own : Stream} {beat : Beat} {frames : List Frame}
      (stream : session.transport.stream? channel = some own) (allows : allowed own beat)
      (beaten : session.beat? beat = some next)
      (rest : Continues allowed channel next frames after) :
      Continues allowed channel session (beat.writes channel own.phase ++ frames) after

namespace Continues

variable {allowed wider : Stream → Beat → Prop} {after : Session} {more : List Frame}

protected theorem trans {middle : Session}
    (first : Continues allowed channel session frames middle)
    (second : Continues allowed channel middle more after) :
    Continues allowed channel session (frames ++ more) after := by
  induction first with
  | refl => exact second
  | step stream allows beaten rest induction =>
      rw [List.append_assoc]
      exact .step stream allows beaten (induction second)

theorem mono (continues : Continues allowed channel session frames after)
    (allows : ∀ own beat, allowed own beat → wider own beat) :
    Continues wider channel session frames after := by
  induction continues with
  | refl => exact .refl _
  | step stream allowed beaten rest induction =>
      exact .step stream (allows _ _ allowed) beaten induction

theorem watchful (continues : Continues allowed channel session frames after)
    (watchful : session.Watchful) (flagged : session.Flagged) :
    after.Watchful ∧ after.Flagged := by
  induction continues with
  | refl => exact ⟨watchful, flagged⟩
  | step stream allows beaten rest induction =>
      exact induction (beat?_watchful watchful beaten)
        (beat?_flagged watchful.consistent flagged beaten)

end Continues

/-- The channel can go on and write the given frames. -/
def CanWrite (maxLength : Nat) (since : Nanos) (channel : Channel) (session : Session)
    (frames : List Frame) : Prop :=
  ∃ after, Continues (Welcomes maxLength since channel) channel session frames after

/-! ### Reactions -/

theorem CanWrite.nothing (session : Session) : CanWrite maxLength since channel session [] :=
  ⟨session, .refl session⟩

theorem CanWrite.later {later : Nanos} (canWrite : CanWrite maxLength later channel session frames)
    (order : since ≤ later) : CanWrite maxLength since channel session frames := by
  rcases canWrite with ⟨after, continues⟩
  refine ⟨after, continues.mono fun own beat welcomes => ⟨welcomes.uncalled, ?_⟩⟩
  intro now event part
  rcases welcomes.welcome now event part with ⟨late, welcome⟩
  exact ⟨Nat.le_trans order late, welcome⟩

/-- A reaction of the channel is an act of the session. -/
theorem exists_react {now : Nanos} {event : StreamEvent} {result : Stream × Timer Job}
    (stream : session.transport.stream? channel = some own)
    (stepped : own.step? now (.reconnect channel) event session.transport.timer = some result) :
    ∃ act next, session.act? act = some next ∧ act.part? channel = some (.react now event) ∧
      act.isCall = false ∧ next.transport.stream? channel = some result.1 := by
  cases channel with
  | span =>
      cases stream
      exact ⟨.span now event, _, congrArg (Option.map _) stepped, rfl, rfl, rfl⟩
  | stat =>
      cases stream
      exact ⟨.stat now event, _, congrArg (Option.map _) stepped, rfl, rfl, rfl⟩
  | metadata => cases stream

theorem CanWrite.react {now : Nanos} {event : StreamEvent} {result : Stream × Timer Job}
    (stream : session.transport.stream? channel = some own)
    (stepped : own.step? now (.reconnect channel) event session.transport.timer = some result)
    (late : since ≤ now) (welcome : event.welcome maxLength own.phase = true)
    (rest : ∀ next, next.transport.stream? channel = some result.1 →
      CanWrite maxLength since channel next frames) :
    CanWrite maxLength since channel session (event.writes own.phase ++ frames) := by
  rcases exists_react stream stepped with ⟨act, next, acted, part, uncalled, after⟩
  rcases rest next after with ⟨last, continues⟩
  have welcomes : Welcomes maxLength since channel own (.act act) := by
    refine ⟨uncalled, fun other happened same => ?_⟩
    rw [Beat.part?, part] at same
    cases same
    exact ⟨late, welcome⟩
  have whole := Continues.step stream welcomes acted continues
  rw [Beat.writes, Beat.part?, part] at whole
  exact ⟨last, whole⟩

/-! ### Writing -/

/-- A connected channel writes its frames one after the other. -/
theorem idle_canWrite (stream : session.transport.stream? channel = some own)
    (idle : own.phase = .idle) (asked : own.cancelled = false) :
    CanWrite maxLength since channel session (own.backlog.takeWhile (Frame.fits maxLength)) := by
  induction backlog : own.backlog generalizing session own with
  | nil => exact .nothing session
  | cons frame rest induction =>
      by_cases fits : frame.fits maxLength = true
      · rw [List.takeWhile_cons_of_pos fits]
        refine .react stream (Stream.step?_take idle asked backlog) (Nat.le_refl since) rfl
          fun middle found => ?_
        exact .react found (Stream.step?_written rfl asked) (Nat.le_refl since) fits
          fun last after => induction after rfl asked rfl
      · rw [List.takeWhile_cons_of_neg fits]
        exact .nothing session

theorem writing_canWrite {frame : Frame} (stream : session.transport.stream? channel = some own)
    (writing : own.phase = .writing frame) (asked : own.cancelled = false)
    (wellFormed : own.WellFormed) :
    CanWrite maxLength since channel session
      (own.undelivered.takeWhile (Frame.fits maxLength)) := by
  rcases Stream.undelivered_of_writing wellFormed writing with ⟨front, rest⟩
  rw [front, ← rest]
  by_cases fits : frame.fits maxLength = true
  · rw [List.takeWhile_cons_of_pos fits]
    have whole := CanWrite.react stream (Stream.step?_written writing asked) (Nat.le_refl since)
      (by rw [writing]; exact fits) fun next after => idle_canWrite after rfl asked
    rwa [writing] at whole
  · rw [List.takeWhile_cons_of_neg fits]
    exact .nothing session

theorem connecting_canWrite (stream : session.transport.stream? channel = some own)
    (connecting : own.phase = .connecting) (asked : own.cancelled = false) :
    CanWrite maxLength since channel session (own.backlog.takeWhile (Frame.fits maxLength)) :=
  .react stream (Stream.step?_connected connecting asked) (Nat.le_refl since) rfl
    fun _ after => (idle_canWrite after rfl asked :)

theorem ready_canWrite (stream : session.transport.stream? channel = some own)
    (ready : own.phase = .ready) (asked : own.cancelled = false) :
    CanWrite maxLength since channel session (own.backlog.takeWhile (Frame.fits maxLength)) :=
  .react stream (Stream.step?_begin ready asked) (Nat.le_refl since) rfl
    fun _ after => (connecting_canWrite after rfl asked :)

theorem sleeping_canWrite {wakeAt : Nanos} (stream : session.transport.stream? channel = some own)
    (sleeping : own.phase = .sleeping wakeAt) (asked : own.cancelled = false) :
    CanWrite maxLength since channel session (own.backlog.takeWhile (Frame.fits maxLength)) := by
  have awake : CanWrite maxLength (max since wakeAt) channel session
      (own.backlog.takeWhile (Frame.fits maxLength)) :=
    .react stream (Stream.step?_slept sleeping asked (Nat.le_max_right since wakeAt))
      (Nat.le_refl _) rfl fun _ after => (ready_canWrite after rfl asked :)
  exact awake.later (Nat.le_max_left since wakeAt)

/-! ### Waiting

What the timer has collected is claimed and run, and the wheel turns until nothing is left on it.
Then the wake-up of the channel must have come. -/

/-- Between two sessions the wheel stays as it is, and the channel is woken up at most. -/
structure Idles (channel : Channel) (before after : Session) : Prop where
  buckets : after.transport.timer.buckets = before.transport.timer.buckets
  ticks : after.transport.timer.ticks = before.transport.timer.ticks
  stream : ∀ own, before.transport.stream? channel = some own →
    ∃ reconnector, after.transport.stream? channel = some { own with reconnector }

protected theorem Idles.refl (session : Session) : Idles channel session session :=
  ⟨rfl, rfl, fun own found => ⟨own.reconnector, found⟩⟩

protected theorem Idles.trans {middle : Session} (first : Idles channel session middle)
    (second : Idles channel middle next) : Idles channel session next := by
  refine ⟨second.buckets.trans first.buckets, second.ticks.trans first.ticks, fun own found => ?_⟩
  rcases first.stream own found with ⟨reconnector, found⟩
  exact (second.stream _ found :)

/-- A beat in which the channel has no part. -/
theorem continues_of_uninvolved {beat : Beat} {after : Session}
    (stream : session.transport.stream? channel = some own) (part : beat.part? channel = none)
    (uncalled : beat.isCall = false) (beaten : session.beat? beat = some next)
    (rest : Continues (Welcomes maxLength since channel) channel next frames after) :
    Continues (Welcomes maxLength since channel) channel session frames after := by
  have welcomes : Welcomes maxLength since channel own beat := by
    refine ⟨uncalled, fun now event involved => ?_⟩
    rw [part] at involved
    cases involved
  have whole := Continues.step stream welcomes beaten rest
  rwa [Beat.writes, part] at whole

theorem run_idles (acted : session.act? .run = some next) :
    Idles channel session next ∧ next.due = session.due ∧ next.claimed = none := by
  have timer : next.transport.timer = session.transport.timer := by
    rcases Option.map_eq_some_iff.mp acted with ⟨job, claimed, rfl⟩
    cases job with
    | reconnect woken => cases woken <;> rfl
    | retry request => rfl
    | unrelated => rfl
  refine ⟨⟨by rw [timer], by rw [timer], fun own found => run_takes acted found⟩, ?_⟩
  rcases Option.map_eq_some_iff.mp acted with ⟨job, claimed, rfl⟩
  exact ⟨rfl, rfl⟩

theorem exists_claim {entry : Entry Job} {due : List (Entry Job)}
    (collected : session.due = entry :: due) (unclaimed : session.claimed = none) :
    ∃ next, session.act? .claim = some next ∧ Idles channel session next ∧ next.due = due := by
  let expired := session.transport.timer.expire entry.id
  have acted : session.act? .claim = some { session with
      transport := { session.transport with timer := expired.2 }
      due := due
      claimed := if expired.1 then some entry.task else none } := by
    rw [act?, collected, unclaimed]
  have same := Timer.settle_eq session.transport.timer entry.id .expired
  have buckets : expired.2.buckets = session.transport.timer.buckets :=
    (congrArg Timer.buckets same :)
  have ticks : expired.2.ticks = session.transport.timer.ticks := (congrArg Timer.ticks same :)
  refine ⟨_, acted, ⟨buckets, ticks, ?_⟩, rfl⟩
  intro own found
  refine ⟨own.reconnector, ?_⟩
  cases channel <;> exact found

/-- A claimed task runs before the next timeout can be claimed. -/
theorem runs_claimed (stream : session.transport.stream? channel = some own) :
    ∃ after, Continues (Welcomes maxLength since channel) channel session [] after ∧
      Idles channel session after ∧ after.due = session.due ∧ after.claimed = none := by
  cases claimed : session.claimed with
  | none => exact ⟨session, .refl session, .refl session, rfl, claimed⟩
  | some job =>
      have acted : session.act? .run =
          some { session with transport := session.transport.run job, claimed := none } := by
        rw [act?, claimed, Option.map_some]
      have beat : session.beat? (.act .run) = _ := acted
      exact ⟨_, continues_of_uninvolved stream rfl rfl beat (.refl _), run_idles acted⟩

/-- What was claimed and what is due is worked off. -/
theorem drains (stream : session.transport.stream? channel = some own) :
    ∃ after, Continues (Welcomes maxLength since channel) channel session [] after ∧
      Idles channel session after ∧ after.due = [] ∧ after.claimed = none := by
  induction collected : session.due generalizing session own with
  | nil =>
      rcases runs_claimed stream with ⟨after, continues, idles, due, claimed⟩
      exact ⟨after, continues, idles, due.trans collected, claimed⟩
  | cons entry due induction =>
      rcases runs_claimed stream with ⟨idle, continues, idles, same, unclaimed⟩
      rcases idles.stream own stream with ⟨reconnector, found⟩
      rcases exists_claim (same.trans collected) unclaimed with ⟨next, acted, claims, left⟩
      rcases claims.stream _ found with ⟨others, kept⟩
      rcases induction kept left with ⟨after, rest, restIdles, drained⟩
      have beat : idle.beat? (.act .claim) = some next := acted
      exact ⟨after, continues.trans (continues_of_uninvolved found rfl rfl beat rest),
        (idles.trans claims).trans restIdles, drained⟩

/-- An advance of the timer, with all that it runs. -/
theorem advances (stream : session.transport.stream? channel = some own) :
    ∃ after reconnector, Continues (Welcomes maxLength since channel) channel session [] after ∧
      after.transport.timer.buckets = session.transport.timer.collectDue.2.buckets ∧
      after.transport.timer.ticks = session.transport.timer.ticks + 1 ∧
      after.transport.stream? channel = some { own with reconnector } ∧
      after.due = [] ∧ after.claimed = none := by
  let collected : Session := { session with
    transport := { session.transport with timer := session.transport.timer.collectDue.2 }
    due := session.due ++ session.transport.timer.collectDue.1 }
  have beat : session.beat? (.act .collect) = some collected := rfl
  have kept : collected.transport.stream? channel = some own := by
    cases channel <;> exact stream
  rcases drains kept with ⟨after, continues, idles, drained⟩
  rcases idles.stream own kept with ⟨reconnector, found⟩
  exact ⟨after, reconnector, continues_of_uninvolved stream rfl rfl beat continues,
    idles.buckets, idles.ticks, found, drained⟩

/-- After enough advances nothing is left on the wheel. -/
theorem empties {bound : Nat} (stream : session.transport.stream? channel = some own)
    (unvisited : session.transport.timer.Unvisited bound) (ticks : Nat)
    (turned : session.transport.timer.buckets.size * (bound + 1) ≤
      session.transport.timer.ticks + ticks)
    (due : session.due = []) (claimed : session.claimed = none) :
    ∃ after reconnector, Continues (Welcomes maxLength since channel) channel session [] after ∧
      after.transport.timer.entries = [] ∧ after.due = [] ∧ after.claimed = none ∧
      after.transport.stream? channel = some { own with reconnector } := by
  induction ticks generalizing session own with
  | zero =>
      exact ⟨session, own.reconnector, .refl session, Timer.entries_of_unvisited unvisited turned,
        due, claimed, stream⟩
  | succ ticks induction =>
      rcases advances stream with
        ⟨middle, reconnector, continues, buckets, tick, found, due, claimed⟩
      have size : middle.transport.timer.buckets.size = session.transport.timer.buckets.size := by
        rw [buckets]
        exact Array.size_setIfInBounds
      have moved := (Timer.unvisited_collectDue unvisited).of_same buckets tick
      rcases induction found moved (by rw [size, tick]; omega) due claimed with
        ⟨after, last, rest, emptied, drained, unclaimed, kept⟩
      exact ⟨after, last, continues.trans rest, emptied, drained, unclaimed, kept⟩

/-- The one wake-up of a waiting channel comes by the time the wheel is empty. -/
theorem awaits_notice (watchful : session.Watchful) (flagged : session.Flagged)
    (stream : session.transport.stream? channel = some own) (waiting : own.phase = .waiting)
    (asked : own.cancelled = false) (emptied : session.transport.timer.entries = [])
    (due : session.due = []) (claimed : session.claimed = none) :
    own.reconnector.notices = 1 ∧
      (own.reconnector.listener = .waiting → own.reconnector.permit = false) := by
  rcases watchful.watched stream with ⟨other, watched⟩
  have alert := watched.alert
  rw [Stream.Alert, waiting] at alert
  have wakeUp := alert.awaited (flagged.running stream asked)
  rw [due, Timer.outstanding_of_emptied emptied, claimed] at wakeUp
  exact ⟨by simpa using wakeUp, alert.listening⟩

theorem woken_canWrite (stream : session.transport.stream? channel = some own)
    (waiting : own.phase = .waiting) (asked : own.cancelled = false)
    (woken : own.reconnector.listener = .woken) :
    CanWrite maxLength since channel session (own.backlog.takeWhile (Frame.fits maxLength)) :=
  .react stream (Stream.step?_notified waiting asked woken) (Nat.le_refl since) rfl
    fun _ after => (ready_canWrite after rfl asked :)

theorem exists_listen {listening : Stream}
    (stream : session.transport.stream? channel = some own)
    (listens : own.listen? = some listening) :
    ∃ next, session.beat? (.listen channel) = some next ∧
      next.transport.stream? channel = some listening := by
  cases channel with
  | span | stat =>
      cases stream
      rw [beat?, Transport.change?, listens]
      exact ⟨_, rfl, rfl⟩
  | metadata => cases stream

/-- A channel that has not begun to listen finds the permit when it does. -/
theorem noticed_canWrite (stream : session.transport.stream? channel = some own)
    (waiting : own.phase = .waiting) (asked : own.cancelled = false)
    (noticed : own.reconnector.notices = 1)
    (listening : own.reconnector.listener = .waiting → own.reconnector.permit = false) :
    CanWrite maxLength since channel session (own.backlog.takeWhile (Frame.fits maxLength)) := by
  cases listener : own.reconnector.listener with
  | woken => exact woken_canWrite stream waiting asked listener
  | waiting =>
      rw [Reconnector.notices, listener, listening listener] at noticed
      cases noticed
  | away =>
      have permit := Reconnector.permit_of_notices listener noticed
      have listens : own.listen? = some { own with
          reconnector := { own.reconnector with listener := .woken, permit := false } } := by
        simp [Stream.listen?, Reconnector.listen, waiting, listener, permit]
      rcases exists_listen stream listens with ⟨next, beaten, found⟩
      have woken : CanWrite maxLength since channel next
          (own.backlog.takeWhile (Frame.fits maxLength)) :=
        (woken_canWrite found waiting asked rfl :)
      rcases woken with ⟨after, continues⟩
      exact ⟨after, continues_of_uninvolved stream rfl rfl beaten continues⟩

theorem waiting_canWrite (watchful : session.Watchful) (flagged : session.Flagged)
    (stream : session.transport.stream? channel = some own) (waiting : own.phase = .waiting)
    (asked : own.cancelled = false) :
    CanWrite maxLength since channel session (own.backlog.takeWhile (Frame.fits maxLength)) := by
  rcases drains stream with ⟨idle, drained, idles, due, claimed⟩
  rcases idles.stream own stream with ⟨reconnector, found⟩
  rcases Timer.exists_unvisited idle.transport.timer with ⟨bound, unvisited⟩
  rcases empties found unvisited _ (Nat.le_add_left _ _) due claimed with
    ⟨empty, last, emptying, emptied, due, claimed, kept⟩
  have waits : Continues (Welcomes maxLength since channel) channel session [] empty :=
    drained.trans emptying
  rcases waits.watchful watchful flagged with ⟨watchful, flagged⟩
  rcases awaits_notice watchful flagged kept waiting asked emptied due claimed with
    ⟨noticed, listening⟩
  have noticed : CanWrite maxLength since channel empty
      (own.backlog.takeWhile (Frame.fits maxLength)) :=
    (noticed_canWrite kept waiting asked noticed listening :)
  rcases noticed with ⟨after, writes⟩
  exact ⟨after, waits.trans writes⟩

/-- Whatever a channel that was not asked to end is doing, it can go on up to the first frame that
does not fit. -/
theorem canWrite (watchful : session.Watchful) (flagged : session.Flagged)
    (stream : session.transport.stream? channel = some own) (sound : own.Sound)
    (asked : own.cancelled = false) :
    CanWrite maxLength since channel session
      (own.undelivered.takeWhile (Frame.fits maxLength)) := by
  have ending (ends : own.phase.ends = true) : False := by
    rw [sound.ending ends] at asked
    cases asked
  cases phase : own.phase with
  | writing frame => exact writing_canWrite stream phase asked sound.wellFormed
  | ready =>
      rw [Stream.undelivered_of_phase phase rfl]
      exact ready_canWrite stream phase asked
  | connecting =>
      rw [Stream.undelivered_of_phase phase rfl]
      exact connecting_canWrite stream phase asked
  | idle =>
      rw [Stream.undelivered_of_phase phase rfl]
      exact idle_canWrite stream phase asked
  | waiting =>
      rw [Stream.undelivered_of_phase phase rfl]
      exact waiting_canWrite watchful flagged stream phase asked
  | sleeping wakeAt =>
      rw [Stream.undelivered_of_phase phase rfl]
      exact sleeping_canWrite stream phase asked
  | completing | finished => exact (ending (by rw [phase]; rfl)).elim

end Session

end Telemetry.Delivery
