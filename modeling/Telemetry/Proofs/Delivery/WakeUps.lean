import Telemetry.Proofs.Delivery.Beats

namespace Telemetry.Delivery

/-! The wake-ups of the streaming channels of a transport, over any run. -/

/-- The tasks of the timer that wake a channel up. -/
def Job.reconnects (channel : Channel) : Job → Bool
  | .reconnect other => other = channel
  | _ => false

/-- Whether the channel waits for its next attempt. -/
def Phase.awaits : Phase → Bool
  | .waiting => true
  | .sleeping _ => true
  | _ => false

/-- The sleep by which a channel wakes itself up. -/
def Phase.alarms : Phase → Nat
  | .sleeping _ => 1
  | _ => 0

/-! ### Requests -/

namespace RequestChannel

variable {τ : Type} (counted : τ → Bool) {channel : RequestChannel} {timer : Timer τ}
  {due : List (Entry τ)} {task : Request → τ}

theorem retryLater_spares (uncounted : ∀ request, counted (task request) = false)
    (consistent : timer.Consistent due) (request : Request) :
    timer.Carries counted due (channel.retryLater task request timer).2 due ∧
      (channel.retryLater task request timer).2.outstanding counted due =
        timer.outstanding counted due ∧
      (channel.retryLater task request timer).2.stopped = timer.stopped := by
  rw [retryLater]
  split
  next => exact ⟨.refl counted consistent, rfl, rfl⟩
  next =>
    split
    next id after accepted =>
      rcases Timer.schedule_eq_ok consistent.wheel accepted with ⟨-, running, runningAfter, -⟩
      rcases Timer.schedule_carries counted consistent accepted with ⟨carries, outstanding, -⟩
      rw [uncounted] at outstanding
      exact ⟨carries, outstanding, runningAfter.trans running.symm⟩
    next => exact ⟨.refl counted consistent, rfl, rfl⟩

/-- What is on the timer for anybody else is spared by the requests. -/
theorem reacts_spares {event : RequestEvent} {result : RequestChannel × Timer τ}
    (uncounted : ∀ request, counted (task request) = false) (consistent : timer.Consistent due)
    (reacts : Reacts task channel timer event result) :
    timer.Carries counted due result.2 due ∧
      result.2.outstanding counted due = timer.outstanding counted due ∧
      result.2.stopped = timer.stopped := by
  cases reacts with
  | failed => exact retryLater_spares counted uncounted consistent _
  | take | acknowledged | ended | interrupted => exact ⟨.refl counted consistent, rfl, rfl⟩

end RequestChannel

/-! ### One channel -/

/-- What is on its way to a channel is as its phase asks for, whatever the other channel does. -/
structure Watched (channel : Channel) (timer : Timer Job) (due : List (Entry Job))
    (claimed : Option Job) (own other : Stream) : Prop where
  other : ∀ id ∈ other.reconnector.scheduled, timer.Exempt (Job.reconnects channel) due id
  alert : own.Alert timer.stopped (timer.outstanding (Job.reconnects channel) due +
    (claimed.any (Job.reconnects channel)).toNat)

namespace Watched

variable {channel acting : Channel} {timer timerAfter : Timer Job} {due dueAfter : List (Entry Job)}
  {claimed claimedAfter : Option Job} {own ownAfter other otherAfter : Stream} {now : Nanos}
  {event : StreamEvent}

/-- The streams are left alone, and so is what is on its way to the channel. -/
theorem of_carries (watched : Watched channel timer due claimed own other)
    (carries : timer.Carries (Job.reconnects channel) due timerAfter dueAfter)
    (coming : timerAfter.outstanding (Job.reconnects channel) dueAfter +
        (claimedAfter.any (Job.reconnects channel)).toNat =
      timer.outstanding (Job.reconnects channel) due +
        (claimed.any (Job.reconnects channel)).toNat)
    (phase : ownAfter.phase = own.phase) (reconnector : ownAfter.reconnector = own.reconnector)
    (scheduled : otherAfter.reconnector.scheduled = other.reconnector.scheduled) :
    Watched channel timerAfter dueAfter claimedAfter ownAfter otherAfter := by
  refine ⟨fun id member => carries.exempt id (watched.other id (scheduled ▸ member)), ?_⟩
  rw [coming]
  refine (watched.alert.of_same phase reconnector).mono (Nat.le_refl _) fun running => ⟨?_, rfl⟩
  cases ran : timer.stopped with
  | false => rfl
  | true =>
      rw [carries.stopped ran] at running
      cases running

theorem react (watched : Watched channel timer due claimed own other)
    (consistent : timer.Consistent due)
    (reacts : own.Reacts now (.reconnect channel) timer event (ownAfter, timerAfter)) :
    Watched channel timerAfter due claimed ownAfter other where
  other := fun id member =>
    (Stream.reacts_keeps _ consistent reacts).1.exempt id (watched.other id member)
  alert := Stream.reacts_alert consistent (decide_eq_true rfl) watched.alert reacts

/-- The reactions of the other channel. -/
theorem beside (watched : Watched channel timer due claimed own other)
    (consistent : timer.Consistent due) (distinct : acting ≠ channel)
    (reacts : other.Reacts now (.reconnect acting) timer event (otherAfter, timerAfter)) :
    Watched channel timerAfter due claimed own otherAfter := by
  have serves := Stream.reacts_serves consistent (decide_eq_false distinct) watched.other reacts
  have stays : Watched channel timerAfter due claimed own other :=
    watched.of_carries serves.carries (by rw [serves.outstanding]) rfl rfl rfl
  exact ⟨serves.own, stays.alert⟩

/-- The claimed task of the channel runs. -/
theorem wake (watched : Watched channel timer due (some (.reconnect channel)) own other) :
    Watched channel timer due none own.wake other := by
  refine ⟨watched.other, Stream.Alert.wake ?_⟩
  have alert := watched.alert
  have counts : Job.reconnects channel (.reconnect channel) = true := decide_eq_true rfl
  simp only [Option.any_some, counts, Bool.toNat_true] at alert
  exact alert

theorem wake_beside (watched : Watched channel timer due (some (.reconnect acting)) own other)
    (distinct : acting ≠ channel) : Watched channel timer due none own other.wake := by
  have uncounted : Job.reconnects channel (.reconnect acting) = false := decide_eq_false distinct
  refine ⟨fun id member => watched.other id ?_, ?_⟩
  · rwa [Stream.wake, Reconnector.fire_scheduled] at member
  · have alert := watched.alert
    simp only [Option.any_some, uncounted] at alert
    exact alert

theorem stop (watched : Watched channel timer due claimed own other)
    (consistent : timer.Consistent due) :
    Watched channel timer.stop.2 due claimed own other := by
  rcases Timer.stop_carries (Job.reconnects channel) consistent with
    ⟨carries, stopped, outstanding⟩
  refine ⟨fun id member => carries.exempt id (watched.other id member), ?_⟩
  refine watched.alert.mono ?_ fun running => ?_
  · omega
  · rw [stopped] at running
    cases running

/-- Either channel gets on with its wait. -/
theorem adjust (watched : Watched channel timer due claimed own other)
    (adjusts : own.Adjusts ownAfter) : Watched channel timer due claimed ownAfter other :=
  ⟨watched.other, adjusts.alert watched.alert⟩

theorem adjust_beside (watched : Watched channel timer due claimed own other)
    (adjusts : other.Adjusts otherAfter) : Watched channel timer due claimed own otherAfter :=
  ⟨fun id member => watched.other id (adjusts.scheduled ▸ member), watched.alert⟩

end Watched

/-! ### Sessions -/

namespace Session

/-- The wake-ups that a channel can still get: live timeouts and a claimed task that notify it,
notifications it has not noticed, and its own sleep. -/
def wakeUps (session : Session) (channel : Channel) (stream : Stream) : Nat :=
  session.transport.timer.outstanding (Job.reconnects channel) session.due +
    (session.claimed.any (Job.reconnects channel)).toNat + stream.reconnector.notices +
    stream.phase.alarms

structure Watchful (session : Session) : Prop where
  consistent : session.transport.timer.Consistent session.due
  span : Watched .span session.transport.timer session.due session.claimed
    session.transport.span session.transport.stat
  stat : Watched .stat session.transport.timer session.due session.claimed
    session.transport.stat session.transport.span

theorem start_watchful (config : Config) : (start config).Watchful := by
  have none (counted : Job → Bool) :
      (start config).transport.timer.outstanding counted (start config).due = 0 :=
    Timer.outstanding_of_emptied (Timer.entries_start _ _ _)
  refine ⟨Timer.consistent_start _ _ _, ⟨nofun, ?_⟩, ⟨nofun, ?_⟩⟩ <;>
    · rw [none]
      exact Stream.alert_start _ _ _ _

variable {session next : Session}

/-- Both streams are left alone, and so is what is on its way to them. -/
theorem Watchful.of_carries (watchful : session.Watchful)
    (carries : ∀ channel, session.transport.timer.Carries (Job.reconnects channel) session.due
      next.transport.timer next.due)
    (coming : ∀ channel, next.transport.timer.outstanding (Job.reconnects channel) next.due +
        (next.claimed.any (Job.reconnects channel)).toNat =
      session.transport.timer.outstanding (Job.reconnects channel) session.due +
        (session.claimed.any (Job.reconnects channel)).toNat)
    (span : next.transport.span.phase = session.transport.span.phase ∧
      next.transport.span.reconnector = session.transport.span.reconnector)
    (stat : next.transport.stat.phase = session.transport.stat.phase ∧
      next.transport.stat.reconnector = session.transport.stat.reconnector) :
    next.Watchful where
  consistent := (carries .span).consistent
  span := watchful.span.of_carries (carries .span) (coming .span) span.1 span.2 (by rw [stat.2])
  stat := watchful.stat.of_carries (carries .stat) (coming .stat) stat.1 stat.2 (by rw [span.2])

theorem sendFrame_watchful (frame : Frame) (watchful : session.Watchful)
    (acted : session.act? (.sendFrame frame) = some next) : next.Watchful := by
  rcases Option.some.inj acted with rfl
  have carries (channel : Channel) :=
    Timer.Carries.refl (Job.reconnects channel) watchful.consistent
  rw [Transport.sendFrame]
  split
  next channel kind =>
    cases channel with
    | span =>
        exact watchful.of_carries carries (fun _ => rfl)
          ⟨Stream.send_phase frame _, Stream.send_reconnector frame _⟩ ⟨rfl, rfl⟩
    | stat =>
        exact watchful.of_carries carries (fun _ => rfl) ⟨rfl, rfl⟩
          ⟨Stream.send_phase frame _, Stream.send_reconnector frame _⟩
    | metadata => exact watchful.of_carries carries (fun _ => rfl) ⟨rfl, rfl⟩ ⟨rfl, rfl⟩
  next => exact watchful.of_carries carries (fun _ => rfl) ⟨rfl, rfl⟩ ⟨rfl, rfl⟩

theorem span_watchful {now : Nanos} {event : StreamEvent} (watchful : session.Watchful)
    (acted : session.act? (.span now event) = some next) : next.Watchful := by
  rcases Option.map_eq_some_iff.mp acted with ⟨⟨span, timer⟩, stepped, rfl⟩
  rcases watchful with ⟨consistent, ownSpan, ownStat⟩
  have reacts := Stream.reacts_of_step? stepped
  have keeps := Stream.reacts_keeps (Job.reconnects .span) consistent reacts
  exact ⟨keeps.1.consistent, ownSpan.react consistent reacts,
    ownStat.beside consistent (by decide) reacts⟩

theorem stat_watchful {now : Nanos} {event : StreamEvent} (watchful : session.Watchful)
    (acted : session.act? (.stat now event) = some next) : next.Watchful := by
  rcases Option.map_eq_some_iff.mp acted with ⟨⟨stat, timer⟩, stepped, rfl⟩
  rcases watchful with ⟨consistent, ownSpan, ownStat⟩
  have reacts := Stream.reacts_of_step? stepped
  have keeps := Stream.reacts_keeps (Job.reconnects .stat) consistent reacts
  exact ⟨keeps.1.consistent, ownSpan.beside consistent (by decide) reacts,
    ownStat.react consistent reacts⟩

theorem metadata_watchful {event : RequestEvent} (watchful : session.Watchful)
    (acted : session.act? (.metadata event) = some next) : next.Watchful := by
  rcases Option.map_eq_some_iff.mp acted with ⟨⟨metadata, timer⟩, stepped, rfl⟩
  have reacts := RequestChannel.reacts_of_step? stepped
  have spares (channel : Channel) := RequestChannel.reacts_spares (Job.reconnects channel)
    (fun _ => rfl) watchful.consistent reacts
  exact watchful.of_carries (fun channel => (spares channel).1)
    (fun channel => congrArg (· + _) (spares channel).2.1) ⟨rfl, rfl⟩ ⟨rfl, rfl⟩

theorem occupy_watchful {delay : Nanos} (watchful : session.Watchful)
    (acted : session.act? (.occupy delay) = some next) : next.Watchful := by
  rw [act?] at acted
  split at acted
  next id timer accepted =>
    cases acted
    have scheduled (channel : Channel) :=
      Timer.schedule_carries (Job.reconnects channel) watchful.consistent accepted
    exact watchful.of_carries (fun channel => (scheduled channel).1)
      (fun channel => congrArg (· + _) (scheduled channel).2.1) ⟨rfl, rfl⟩ ⟨rfl, rfl⟩
  next =>
    cases acted
    exact watchful

theorem collect_watchful (watchful : session.Watchful)
    (acted : session.act? .collect = some next) : next.Watchful := by
  rcases Option.some.inj acted with rfl
  have collected (channel : Channel) :=
    Timer.collectDue_carries (Job.reconnects channel) watchful.consistent
  exact watchful.of_carries (fun channel => (collected channel).1)
    (fun channel => congrArg (· + _) (collected channel).2) ⟨rfl, rfl⟩ ⟨rfl, rfl⟩

theorem claim_watchful (watchful : session.Watchful)
    (acted : session.act? .claim = some next) : next.Watchful := by
  rw [act?] at acted
  split at acted
  next entry due dueFront unclaimed =>
    have consistent := watchful.consistent
    rw [dueFront] at consistent
    have expired (channel : Channel) :=
      Timer.expire_carries (Job.reconnects channel) consistent
    cases expires : session.transport.timer.expire entry.id with
    | mk won timer =>
        rw [expires] at acted expired
        cases acted
        refine watchful.of_carries (fun channel => ?_) (fun channel => ?_) ⟨rfl, rfl⟩ ⟨rfl, rfl⟩
        · rw [dueFront]
          exact (expired channel).1
        · have claimed : (if won then some entry.task else none).any (Job.reconnects channel) =
              (won && entry.task.reconnects channel) := by
            cases won <;> rfl
          rw [claimed, dueFront, unclaimed, (expired channel).2]
          rfl
  next => cases acted

theorem run_watchful (watchful : session.Watchful)
    (acted : session.act? .run = some next) : next.Watchful := by
  rcases Option.map_eq_some_iff.mp acted with ⟨job, claimed, rfl⟩
  have carries (channel : Channel) :=
    Timer.Carries.refl (Job.reconnects channel) watchful.consistent
  have others (uncounted : ∀ channel, job.reconnects channel = false) (channel : Channel) :
      session.transport.timer.outstanding (Job.reconnects channel) session.due + 0 =
        session.transport.timer.outstanding (Job.reconnects channel) session.due +
          (session.claimed.any (Job.reconnects channel)).toNat := by
    rw [claimed, Option.any_some, uncounted]
    rfl
  cases job with
  | reconnect channel =>
      rcases watchful with ⟨consistent, ownSpan, ownStat⟩
      rw [claimed] at ownSpan ownStat
      cases channel with
      | span => exact ⟨consistent, ownSpan.wake, ownStat.wake_beside (by decide)⟩
      | stat => exact ⟨consistent, ownSpan.wake_beside (by decide), ownStat.wake⟩
      | metadata =>
          have watchful : session.Watchful := ⟨consistent, claimed ▸ ownSpan, claimed ▸ ownStat⟩
          refine ⟨consistent, ⟨watchful.span.other, ?_⟩, ⟨watchful.stat.other, ?_⟩⟩
          · exact ownSpan.alert
          · exact ownStat.alert
  | retry request => exact watchful.of_carries carries (others fun _ => rfl) ⟨rfl, rfl⟩ ⟨rfl, rfl⟩
  | unrelated => exact watchful.of_carries carries (others fun _ => rfl) ⟨rfl, rfl⟩ ⟨rfl, rfl⟩

theorem shutdown_watchful {channel : Channel} (watchful : session.Watchful)
    (acted : session.act? (.shutdown channel) = some next) : next.Watchful := by
  cases acted
  have carries (channel : Channel) :=
    Timer.Carries.refl (Job.reconnects channel) watchful.consistent
  cases channel <;> exact watchful.of_carries carries (fun _ => rfl) ⟨rfl, rfl⟩ ⟨rfl, rfl⟩

theorem close_watchful (watchful : session.Watchful)
    (acted : session.act? .close = some next) : next.Watchful := by
  rcases Option.some.inj acted with rfl
  rcases watchful with ⟨consistent, ownSpan, ownStat⟩
  rw [Transport.close]
  split
  next => exact ⟨consistent, ownSpan, ownStat⟩
  next =>
    have span := ownSpan.stop consistent
    have stat := ownStat.stop consistent
    exact ⟨(Timer.stop_carries (Job.reconnects .span) consistent).1.consistent,
      ⟨span.other, span.alert⟩, ⟨stat.other, stat.alert⟩⟩

theorem act?_watchful {act : Act} (watchful : session.Watchful)
    (acted : session.act? act = some next) : next.Watchful := by
  induction act generalizing session next with
  | sendFrame frame => exact sendFrame_watchful frame watchful acted
  | span now event => exact span_watchful watchful acted
  | stat now event => exact stat_watchful watchful acted
  | metadata event => exact metadata_watchful watchful acted
  | occupy delay => exact occupy_watchful watchful acted
  | collect => exact collect_watchful watchful acted
  | claim => exact claim_watchful watchful acted
  | run => exact run_watchful watchful acted
  | shutdown channel => exact shutdown_watchful watchful acted
  | close => exact close_watchful watchful acted
  | unaware act induction =>
      rcases Option.map_eq_some_iff.mp acted with ⟨after, done, rfl⟩
      -- No flag decides which wake-ups there are.
      have seen : Watchful { session with transport := session.transport.unflagged } :=
        ⟨watchful.consistent, ⟨watchful.span.other, watchful.span.alert⟩,
          ⟨watchful.stat.other, watchful.stat.alert⟩⟩
      have kept := induction seen done
      exact ⟨kept.consistent, ⟨kept.span.other, kept.span.alert⟩,
        ⟨kept.stat.other, kept.stat.alert⟩⟩

/-! ### Flags -/

/-- The timer is stopped after all channels were asked to end. -/
def Flagged (session : Session) : Prop :=
  session.transport.timer.stopped = true →
    session.transport.span.cancelled = true ∧ session.transport.stat.cancelled = true

/-- Only an act that asks both channels to end can stop the timer. -/
theorem act?_stopped {act : Act} (consistent : session.transport.timer.Consistent session.due)
    (acted : session.act? act = some next) :
    next.transport.timer.stopped = session.transport.timer.stopped ∨
      (next.transport.span.cancelled = true ∧ next.transport.stat.cancelled = true) := by
  induction act generalizing session next with
  | sendFrame frame =>
      rcases Option.some.inj acted with rfl
      left
      rw [Transport.sendFrame]
      split
      next channel kind => cases channel <;> rfl
      next => rfl
  | span now event =>
      rcases Option.map_eq_some_iff.mp acted with ⟨⟨span, timer⟩, stepped, rfl⟩
      have reacts := Stream.reacts_of_step? stepped
      exact .inl (Stream.reacts_keeps (Job.reconnects .span) consistent reacts).2
  | stat now event =>
      rcases Option.map_eq_some_iff.mp acted with ⟨⟨stat, timer⟩, stepped, rfl⟩
      have reacts := Stream.reacts_of_step? stepped
      exact .inl (Stream.reacts_keeps (Job.reconnects .stat) consistent reacts).2
  | metadata event =>
      rcases Option.map_eq_some_iff.mp acted with ⟨⟨metadata, timer⟩, stepped, rfl⟩
      have reacts := RequestChannel.reacts_of_step? stepped
      exact .inl (RequestChannel.reacts_spares (Job.reconnects .span) (fun _ => rfl) consistent
        reacts).2.2
  | occupy delay =>
      left
      rw [act?] at acted
      split at acted
      next id timer accepted =>
        cases acted
        rcases Timer.schedule_eq_ok consistent.wheel accepted with
          ⟨-, running, runningAfter, -⟩
        exact runningAfter.trans running.symm
      next =>
        cases acted
        rfl
  | collect =>
      rcases Option.some.inj acted with rfl
      exact .inl rfl
  | claim =>
      left
      rw [act?] at acted
      split at acted
      next entry due dueFront unclaimed =>
        have settles : Timer.Settles session.transport.timer [entry.id]
            (session.transport.timer.expire entry.id).2 := Timer.settle_settles _ _ (by decide)
        cases acted
        exact settles.stopped
      next => cases acted
  | run =>
      rcases Option.map_eq_some_iff.mp acted with ⟨job, claimed, rfl⟩
      left
      cases job with
      | reconnect channel => cases channel <;> rfl
      | retry request => rfl
      | unrelated => rfl
  | shutdown channel =>
      rcases Option.some.inj acted with rfl
      left
      cases channel <;> rfl
  | close =>
      rcases Option.some.inj acted with rfl
      rw [Transport.close]
      split
      next => exact .inl rfl
      next => exact .inr ⟨rfl, rfl⟩
  | unaware act induction =>
      rcases Option.map_eq_some_iff.mp acted with ⟨after, done, rfl⟩
      let seen : Session := { session with transport := session.transport.unflagged }
      have stopped : after.transport.timer.stopped = seen.transport.timer.stopped ∨
          (after.transport.span.cancelled = true ∧ after.transport.stat.cancelled = true) :=
        induction consistent done
      refine stopped.imp_right fun asked => ⟨?_, ?_⟩
      · exact Bool.or_eq_true_iff.mpr (.inr asked.1)
      · exact Bool.or_eq_true_iff.mpr (.inr asked.2)

theorem beat?_flagged {beat : Beat} (consistent : session.transport.timer.Consistent session.due)
    (flagged : session.Flagged) (beaten : session.beat? beat = some next) : next.Flagged := by
  have stopped : next.transport.timer.stopped = session.transport.timer.stopped ∨
      (next.transport.span.cancelled = true ∧ next.transport.stat.cancelled = true) := by
    cases beat with
    | act act => exact act?_stopped consistent beaten
    | defer channel | listen channel =>
        rcases Option.map_eq_some_iff.mp beaten with ⟨transport, changed, rfl⟩
        left
        cases channel with
        | span | stat =>
            rcases Option.map_eq_some_iff.mp changed with ⟨after, made, rfl⟩
            rfl
        | metadata => cases changed
    | release id =>
        rcases Option.ite_none_right_eq_some.mp beaten with ⟨-, equal⟩
        cases equal
        have settles : Timer.Settles session.transport.timer [id]
            (session.transport.timer.cancel id).2 := Timer.settle_settles _ _ nofun
        exact .inl settles.stopped
    | join =>
        rcases beat?_join beaten with ⟨awaited, -, -, rfl⟩
        exact .inl rfl
  intro ended
  rcases stopped with same | asked
  · rcases flagged (same ▸ ended) with ⟨span, stat⟩
    exact ⟨beat?_cancelled beaten (Transport.stream?_span _) (Transport.stream?_span _) span,
      beat?_cancelled beaten (Transport.stream?_stat _) (Transport.stream?_stat _) stat⟩
  · exact asked

/-! ### Runs -/

theorem release_watchful {id : Nat} (watchful : session.Watchful)
    (beaten : session.beat? (.release id) = some next) : next.Watchful := by
  rcases Option.ite_none_right_eq_some.mp beaten with ⟨⟨known, unrelated⟩, equal⟩
  cases equal
  have settles : Timer.Settles session.transport.timer [id]
      (session.transport.timer.cancel id).2 := Timer.settle_settles _ _ nofun
  have exempt (channel : Channel) :
      session.transport.timer.Exempt (Job.reconnects channel) session.due id :=
    ⟨known, fun entry member same => by rw [unrelated entry member same]; rfl⟩
  exact watchful.of_carries (fun _ => settles.carries watchful.consistent)
    (fun channel => congrArg (· + _) (Timer.outstanding_settles (exempt channel) settles))
    ⟨rfl, rfl⟩ ⟨rfl, rfl⟩

theorem change?_watchful {channel : Channel} {change : Stream → Option Stream}
    {transport : Transport} (watchful : session.Watchful)
    (changed : session.transport.change? channel change = some transport)
    (adjusts : ∀ stream after, change stream = some after → stream.Adjusts after) :
    Watchful { session with transport } := by
  rcases watchful with ⟨consistent, ownSpan, ownStat⟩
  cases channel with
  | span =>
      rcases Option.map_eq_some_iff.mp changed with ⟨span, made, rfl⟩
      have adjusts := adjusts _ _ made
      exact ⟨consistent, ownSpan.adjust adjusts, ownStat.adjust_beside adjusts⟩
  | stat =>
      rcases Option.map_eq_some_iff.mp changed with ⟨stat, made, rfl⟩
      have adjusts := adjusts _ _ made
      exact ⟨consistent, ownSpan.adjust_beside adjusts, ownStat.adjust adjusts⟩
  | metadata => cases changed

theorem beat?_watchful {beat : Beat} (watchful : session.Watchful)
    (beaten : session.beat? beat = some next) : next.Watchful := by
  cases beat with
  | act act => exact act?_watchful watchful beaten
  | release id => exact release_watchful watchful beaten
  | defer channel =>
      rcases Option.map_eq_some_iff.mp beaten with ⟨transport, changed, rfl⟩
      exact change?_watchful watchful changed fun _ _ => Stream.defer?_adjusts
  | listen channel =>
      rcases Option.map_eq_some_iff.mp beaten with ⟨transport, changed, rfl⟩
      exact change?_watchful watchful changed fun _ _ => Stream.listen?_adjusts
  | join =>
      rcases beat?_join beaten with ⟨awaited, -, -, rfl⟩
      exact ⟨watchful.consistent, watchful.span, watchful.stat⟩

theorem beats?_watchful {beats : List Beat} (watchful : session.Watchful)
    (flagged : session.Flagged) (ran : session.beats? beats = some next) :
    next.Watchful ∧ next.Flagged := by
  induction beats generalizing session with
  | nil =>
      cases ran
      exact ⟨watchful, flagged⟩
  | cons beat beats induction =>
      rcases Option.bind_eq_some_iff.mp ran with ⟨middle, beaten, ran⟩
      exact induction (beat?_watchful watchful beaten)
        (beat?_flagged watchful.consistent flagged beaten) ran

/-! ### Wake-ups -/

theorem Watchful.watched (watchful : session.Watchful) {channel : Channel} {own : Stream}
    (stream : session.transport.stream? channel = some own) :
    ∃ other, Watched channel session.transport.timer session.due session.claimed own other := by
  cases channel with
  | span =>
      cases stream
      exact ⟨_, watchful.span⟩
  | stat =>
      cases stream
      exact ⟨_, watchful.stat⟩
  | metadata => cases stream

theorem Flagged.running (flagged : session.Flagged) {channel : Channel} {own : Stream}
    (stream : session.transport.stream? channel = some own) (asked : own.cancelled = false) :
    session.transport.timer.stopped = false := by
  cases stopped : session.transport.timer.stopped with
  | false => rfl
  | true =>
      rcases flagged stopped with ⟨span, stat⟩
      cases channel with
      | span =>
          cases stream
          rw [span] at asked
          cases asked
      | stat =>
          cases stream
          rw [stat] at asked
          cases asked
      | metadata => cases stream

/-- A channel that waits for its next attempt, and was not asked to end, has exactly one wake-up to
come; one that is about to connect, connecting, connected or closing its connection has none. -/
theorem wakeUps_exact {config : Config} {beats : List Beat} {session : Session}
    (ran : (start config).beats? beats = some session) {channel : Channel} {own : Stream}
    (stream : session.transport.stream? channel = some own) :
    (own.phase.awaits = true → own.cancelled = false → session.wakeUps channel own = 1) ∧
      (own.phase.awaits = false → own.phase ≠ .finished → session.wakeUps channel own = 0) := by
  have noStop : (start config).Flagged := fun stopped => nomatch stopped
  rcases beats?_watchful (start_watchful config) noStop ran with ⟨watchful, flagged⟩
  rcases watchful.watched stream with ⟨other, watched⟩
  have alert := watched.alert
  constructor
  · intro awaits asked
    have running := flagged.running stream asked
    rw [wakeUps]
    cases phase : own.phase with
    | waiting =>
        rw [Stream.Alert, phase] at alert
        exact alert.awaited running
    | sleeping wakeAt =>
        rw [Stream.Alert, phase] at alert
        rw [alert.2, alert.1.notices]
        rfl
    | _ =>
        rw [phase] at awaits
        cases awaits
  · intro busy unfinished
    rw [wakeUps]
    cases phase : own.phase with
    | waiting | sleeping =>
        rw [phase] at busy
        cases busy
    | finished => exact absurd phase unfinished
    | _ =>
        rw [Stream.Alert, phase] at alert
        rw [alert.2, alert.1.notices]
        rfl

/-- A refused channel whose attempt comes due before the channel begins to listen. -/
def lateListener : List Beat :=
  [.act (.span 0 .begin), .act (.span 0 .refused), .defer .span] ++
    List.replicate 10 (.act .collect) ++ [.act .claim, .act .run]

theorem wakeUps_exact_lateListener :
    ∃ session own, (start { timerWheelSize := 64 }).beats? lateListener = some session ∧
      session.transport.stream? .span = some own ∧ own.phase = .waiting ∧
      own.cancelled = false ∧ own.reconnector.permit = true ∧ session.wakeUps .span own = 1 := by
  have ends : ((start { timerWheelSize := 64 }).beats? lateListener).map (fun session =>
      (session.transport.span.phase, session.transport.span.cancelled,
        session.transport.span.reconnector.permit)) = some (.waiting, false, true) := by
    decide +kernel
  rcases Option.map_eq_some_iff.mp ends with ⟨session, ran, ended⟩
  simp only [Prod.mk.injEq] at ended
  rcases ended with ⟨waiting, asked, permit⟩
  have wakeUps := wakeUps_exact ran (rfl : session.transport.stream? .span = some _)
  exact ⟨session, _, ran, rfl, waiting, asked, permit, wakeUps.1 (by rw [waiting]; rfl) asked⟩

end Session

end Telemetry.Delivery
