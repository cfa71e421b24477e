import Telemetry.Delivery.Transport
import Telemetry.Proofs.Delivery.Reconnecting
import Telemetry.Proofs.Delivery.Requests

namespace Telemetry.Delivery

/-! What becomes of the metadata requests of a transport, over any run. The channels, the timer and
the callers of the transport take turns in any order, and a step may have looked at a shutdown flag
before it was set. -/

def Job.isRetry : Job → Bool
  | .retry _ => true
  | _ => false

namespace Transport

/-- The transport as it looks to a step that read the shutdown flags before they were set. -/
def unflagged (transport : Transport) : Transport :=
  { transport with
    span := { transport.span with cancelled := false }
    stat := { transport.stat with cancelled := false }
    metadata := { transport.metadata with shutdown := false } }

/-- A shutdown flag that was set stays set. -/
def keepFlags (before after : Transport) : Transport :=
  { after with
    span := { after.span with cancelled := before.span.cancelled || after.span.cancelled }
    stat := { after.stat with cancelled := before.stat.cancelled || after.stat.cancelled }
    metadata :=
      { after.metadata with shutdown := before.metadata.shutdown || after.metadata.shutdown } }

end Transport

/-- How far the call has come that closes the transport. It asks the channels to end and stops the
timer, and then waits for one channel after the other. -/
inductive Closing where
  | uncalled
  | awaiting (channel : Channel)
  | returned
deriving DecidableEq, Repr

/-- A transport at work, and what has become of its requests. -/
structure Session where
  transport : Transport
  closing : Closing
  /-- The timeouts that the timer has collected and not claimed yet. -/
  due : List (Entry Job)
  /-- The task that was claimed and has not run yet. -/
  claimed : Option Job
  /-- How often a frame was handed over that is sent as a request. -/
  requests : Nat
  /-- The requests whose next attempt waited on the wheel when the timer was stopped. -/
  lost : Nat

inductive Act where
  | sendFrame (frame : Frame)
  | span (now : Nanos) (event : StreamEvent)
  | stat (now : Nanos) (event : StreamEvent)
  | metadata (event : RequestEvent)
  /-- Another user of the timer schedules a timeout. -/
  | occupy (delay : Nanos)
  /-- The timer is advanced by one tick. -/
  | collect
  | claim
  | run
  /-- A channel is asked to end, as the first part of closing does with all of them. -/
  | shutdown (channel : Channel)
  | close
  /-- An act that looked at the shutdown flags before they were set. -/
  | unaware (act : Act)

namespace Session

def start (config : Config) : Session where
  transport := .ofConfig config
  closing := .uncalled
  due := []
  claimed := none
  requests := 0
  lost := 0

/-- The session after an act, `none` where the act cannot happen. -/
def act? (session : Session) : Act → Option Session
  | .sendFrame frame =>
      some { session with
        transport := (session.transport.sendFrame frame).2
        requests := session.requests + if route frame.kind = .request then 1 else 0 }
  | .span now event =>
      (session.transport.span.step? now (.reconnect .span) event session.transport.timer).map
        fun (span, timer) => { session with transport := { session.transport with span, timer } }
  | .stat now event =>
      (session.transport.stat.step? now (.reconnect .stat) event session.transport.timer).map
        fun (stat, timer) => { session with transport := { session.transport with stat, timer } }
  | .metadata event =>
      (session.transport.metadata.step? .retry event session.transport.timer).map
        fun (metadata, timer) =>
          { session with transport := { session.transport with metadata, timer } }
  | .occupy delay =>
      match session.transport.timer.schedule delay .unrelated with
      | .ok (_, timer) => some { session with transport := { session.transport with timer } }
      | .error _ => some session
  | .collect =>
      let (due, timer) := session.transport.timer.collectDue
      some { session with
        transport := { session.transport with timer }, due := session.due ++ due }
  | .claim =>
      match session.due, session.claimed with
      | entry :: due, none =>
          let (won, timer) := session.transport.timer.expire entry.id
          some { session with
            transport := { session.transport with timer }
            due := due
            claimed := if won then some entry.task else none }
      | _, _ => none
  | .run =>
      session.claimed.map fun job =>
        { session with transport := session.transport.run job, claimed := none }
  | .shutdown channel => some { session with transport := session.transport.shutdown channel }
  | .close =>
      some { session with
        transport := session.transport.close
        closing := if session.transport.closed then session.closing else .awaiting .span
        lost := session.lost + session.transport.timer.outstanding Job.isRetry [] }
  | .unaware act =>
      (act? { session with transport := session.transport.unflagged } act).map fun after =>
        { after with transport := session.transport.keepFlags after.transport }

def run? (session : Session) : List Act → Option Session
  | [] => some session
  | act :: acts => (session.act? act).bind fun next => next.run? acts

/-- Every request was flushed or dropped, waits somewhere, or was lost. -/
structure Accounted (session : Session) : Prop where
  consistent : session.transport.timer.Consistent session.due
  span : ∀ id ∈ session.transport.span.reconnector.scheduled,
    session.transport.timer.Exempt Job.isRetry session.due id
  stat : ∀ id ∈ session.transport.stat.reconnector.scheduled,
    session.transport.timer.Exempt Job.isRetry session.due id
  emptied : session.transport.metadata.Emptied
  stopped : session.transport.closed = true → session.transport.timer.stopped = true
  balance : session.transport.metadata.handled +
      session.transport.timer.outstanding Job.isRetry session.due +
      (session.claimed.any Job.isRetry).toNat + session.lost = session.requests

theorem start_accounted (config : Config) : (start config).Accounted where
  consistent := Timer.consistent_start _ _ _
  span := nofun
  stat := nofun
  emptied := nofun
  stopped := nofun
  balance := by
    have none : (start config).transport.timer.entries = [] := Timer.entries_start _ _ _
    change 0 + (start config).transport.timer.outstanding Job.isRetry [] + 0 + 0 = 0
    rw [Timer.outstanding_of_emptied none]

variable {session next : Session}

/-- What an act keeps of the timer it keeps of the session, if it leaves the streams alone. -/
theorem Accounted.of_carries (accounted : session.Accounted)
    (carries : session.transport.timer.Carries Job.isRetry session.due
      next.transport.timer next.due)
    (span : next.transport.span.reconnector.scheduled =
      session.transport.span.reconnector.scheduled)
    (stat : next.transport.stat.reconnector.scheduled =
      session.transport.stat.reconnector.scheduled)
    (emptied : next.transport.metadata.Emptied)
    (closed : next.transport.closed = session.transport.closed)
    (balance : next.transport.metadata.handled +
      next.transport.timer.outstanding Job.isRetry next.due +
      (next.claimed.any Job.isRetry).toNat + next.lost = next.requests) : next.Accounted where
  consistent := carries.consistent
  span := fun id member => carries.exempt id (accounted.span id (span ▸ member))
  stat := fun id member => carries.exempt id (accounted.stat id (stat ▸ member))
  emptied := emptied
  stopped := fun ended => carries.stopped (accounted.stopped (closed ▸ ended))
  balance := balance

/-! ### Acts -/

theorem channel?_eq_metadata (kind : Message.MessageKind) :
    channel? kind = some .metadata ↔ route kind = .request := by
  cases kind <;> decide

theorem sendFrame_accounted (frame : Frame) (accounted : session.Accounted)
    (acted : session.act? (.sendFrame frame) = some next) : next.Accounted := by
  rcases Option.some.inj acted with rfl
  have request := channel?_eq_metadata frame.kind
  have carries := Timer.Carries.refl Job.isRetry accounted.consistent
  rw [Transport.sendFrame]
  split
  next channel kind =>
    cases channel with
    | span =>
        have same := congrArg Reconnector.scheduled
          (Stream.send_reconnector frame session.transport.span)
        have other : route frame.kind ≠ .request := by simp [← request, kind]
        rw [if_neg other]
        exact accounted.of_carries carries same rfl accounted.emptied rfl accounted.balance
    | stat =>
        have same := congrArg Reconnector.scheduled
          (Stream.send_reconnector frame session.transport.stat)
        have other : route frame.kind ≠ .request := by simp [← request, kind]
        rw [if_neg other]
        exact accounted.of_carries carries rfl same accounted.emptied rfl accounted.balance
    | metadata =>
        rcases RequestChannel.send_handled frame accounted.emptied with ⟨handled, emptied⟩
        rw [if_pos (request.mp kind)]
        refine accounted.of_carries carries rfl rfl emptied rfl ?_
        change (session.transport.metadata.send frame).2.handled +
          session.transport.timer.outstanding Job.isRetry session.due +
          (session.claimed.any Job.isRetry).toNat + session.lost = session.requests + 1
        have balance := accounted.balance
        omega
  next kind =>
    have other : route frame.kind ≠ .request := by simp [← request, kind]
    rw [if_neg other]
    exact accounted.of_carries carries rfl rfl accounted.emptied rfl accounted.balance

theorem span_accounted {now : Nanos} {event : StreamEvent} (accounted : session.Accounted)
    (acted : session.act? (.span now event) = some next) : next.Accounted := by
  rcases Option.map_eq_some_iff.mp acted with ⟨⟨span, timer⟩, stepped, rfl⟩
  rcases accounted with ⟨consistent, ownSpan, ownStat, emptied, stopped, balance⟩
  have serves := Stream.reacts_serves consistent rfl ownSpan (Stream.reacts_of_step? stepped)
  refine ⟨serves.carries.consistent, serves.own,
    fun id member => serves.carries.exempt id (ownStat id member), emptied,
    fun closed => serves.carries.stopped (stopped closed), ?_⟩
  rw [serves.outstanding]
  exact balance

theorem stat_accounted {now : Nanos} {event : StreamEvent} (accounted : session.Accounted)
    (acted : session.act? (.stat now event) = some next) : next.Accounted := by
  rcases Option.map_eq_some_iff.mp acted with ⟨⟨stat, timer⟩, stepped, rfl⟩
  rcases accounted with ⟨consistent, ownSpan, ownStat, emptied, stopped, balance⟩
  have serves := Stream.reacts_serves consistent rfl ownStat (Stream.reacts_of_step? stepped)
  refine ⟨serves.carries.consistent,
    fun id member => serves.carries.exempt id (ownSpan id member), serves.own, emptied,
    fun closed => serves.carries.stopped (stopped closed), ?_⟩
  rw [serves.outstanding]
  exact balance

theorem metadata_accounted {event : RequestEvent} (accounted : session.Accounted)
    (acted : session.act? (.metadata event) = some next) : next.Accounted := by
  rcases Option.map_eq_some_iff.mp acted with ⟨⟨metadata, timer⟩, stepped, rfl⟩
  have counts : ∀ request, Job.isRetry (.retry request) = true := fun _ => rfl
  rcases RequestChannel.reacts_handled counts accounted.consistent accounted.emptied
      (RequestChannel.reacts_of_step? stepped) with
    ⟨carries, handled, emptied⟩
  refine accounted.of_carries carries rfl rfl emptied rfl ?_
  have balance := accounted.balance
  rwa [← handled] at balance

theorem occupy_accounted {delay : Nanos} (accounted : session.Accounted)
    (acted : session.act? (.occupy delay) = some next) : next.Accounted := by
  rw [act?] at acted
  split at acted
  next id timer accepted =>
    cases acted
    rcases Timer.schedule_carries Job.isRetry accounted.consistent accepted with
      ⟨carries, outstanding, -⟩
    refine accounted.of_carries carries rfl rfl accounted.emptied rfl ?_
    rw [outstanding]
    exact accounted.balance
  next =>
    cases acted
    exact accounted

theorem collect_accounted (accounted : session.Accounted)
    (acted : session.act? .collect = some next) : next.Accounted := by
  rcases Option.some.inj acted with rfl
  rcases Timer.collectDue_carries Job.isRetry accounted.consistent with ⟨carries, outstanding⟩
  refine accounted.of_carries carries rfl rfl accounted.emptied rfl ?_
  have balance := accounted.balance
  rw [← outstanding] at balance
  exact balance

theorem claim_accounted (accounted : session.Accounted)
    (acted : session.act? .claim = some next) : next.Accounted := by
  rw [act?] at acted
  split at acted
  next entry due dueFront unclaimed =>
    have balance := accounted.balance
    have consistent := accounted.consistent
    rw [dueFront] at consistent balance
    rw [unclaimed] at balance
    rcases Timer.expire_carries Job.isRetry consistent with ⟨carries, outstanding⟩
    rw [← dueFront] at carries
    cases expired : session.transport.timer.expire entry.id with
    | mk won timer =>
        rw [expired] at acted carries outstanding
        cases acted
        refine accounted.of_carries carries rfl rfl accounted.emptied rfl ?_
        have claimed : (if won then some entry.task else none).any Job.isRetry =
            (won && entry.task.isRetry) := by
          cases won <;> rfl
        rw [claimed, ← balance, outstanding]
        simp only [Option.any_none, Bool.toNat_false]
        omega
  next => cases acted

theorem run_accounted (accounted : session.Accounted)
    (acted : session.act? .run = some next) : next.Accounted := by
  rcases Option.map_eq_some_iff.mp acted with ⟨job, claimed, rfl⟩
  have carries := Timer.Carries.refl Job.isRetry accounted.consistent
  have balance := accounted.balance
  rw [claimed] at balance
  cases job with
  | reconnect channel =>
      cases channel with
      | span =>
          have same := Reconnector.fire_scheduled session.transport.span.reconnector
          exact accounted.of_carries carries same rfl accounted.emptied rfl balance
      | stat =>
          have same := Reconnector.fire_scheduled session.transport.stat.reconnector
          exact accounted.of_carries carries rfl same accounted.emptied rfl balance
      | metadata =>
          exact accounted.of_carries carries rfl rfl accounted.emptied rfl balance
  | retry request =>
      rcases RequestChannel.retry_handled request accounted.emptied with ⟨handled, emptied⟩
      refine accounted.of_carries carries rfl rfl emptied rfl ?_
      change (session.transport.metadata.retry request).handled +
        session.transport.timer.outstanding Job.isRetry session.due + 0 + session.lost =
          session.requests
      rw [← balance, handled]
      change _ = session.transport.metadata.handled +
        session.transport.timer.outstanding Job.isRetry session.due + 1 + session.lost
      omega
  | unrelated => exact accounted.of_carries carries rfl rfl accounted.emptied rfl balance

theorem shutdown_accounted {channel : Channel} (accounted : session.Accounted)
    (acted : session.act? (.shutdown channel) = some next) : next.Accounted := by
  cases acted
  have carries := Timer.Carries.refl Job.isRetry accounted.consistent
  cases channel <;>
    exact accounted.of_carries carries rfl rfl accounted.emptied rfl accounted.balance

theorem close_accounted (accounted : session.Accounted)
    (acted : session.act? .close = some next) : next.Accounted := by
  rcases Option.some.inj acted with rfl
  rcases Timer.stop_carries Job.isRetry accounted.consistent with ⟨carries, stopped, outstanding⟩
  have balance := accounted.balance
  rw [Transport.close]
  split
  next closed =>
    -- The wheel has been empty since the transport was closed first, so nothing more is lost.
    have none := accounted.consistent.emptied (accounted.stopped closed)
    have carries := Timer.Carries.refl Job.isRetry accounted.consistent
    refine accounted.of_carries carries rfl rfl accounted.emptied rfl ?_
    change _ + (session.lost + session.transport.timer.outstanding Job.isRetry []) = _
    rw [Timer.outstanding_of_emptied none]
    exact balance
  next =>
    -- What waited on the wheel is lost; what had come due before can still be claimed.
    refine ⟨carries.consistent, fun id member => carries.exempt id (accounted.span id member),
      fun id member => carries.exempt id (accounted.stat id member), accounted.emptied,
      fun _ => stopped, ?_⟩
    change session.transport.metadata.handled +
      session.transport.timer.stop.2.outstanding Job.isRetry session.due +
      (session.claimed.any Job.isRetry).toNat +
      (session.lost + session.transport.timer.outstanding Job.isRetry []) = session.requests
    omega

theorem act?_accounted {act : Act} (accounted : session.Accounted)
    (acted : session.act? act = some next) : next.Accounted := by
  induction act generalizing session next with
  | sendFrame frame => exact sendFrame_accounted frame accounted acted
  | span now event => exact span_accounted accounted acted
  | stat now event => exact stat_accounted accounted acted
  | metadata event => exact metadata_accounted accounted acted
  | occupy delay => exact occupy_accounted accounted acted
  | collect => exact collect_accounted accounted acted
  | claim => exact claim_accounted accounted acted
  | run => exact run_accounted accounted acted
  | shutdown channel => exact shutdown_accounted accounted acted
  | close => exact close_accounted accounted acted
  | unaware act induction =>
      rcases Option.map_eq_some_iff.mp acted with ⟨after, done, rfl⟩
      -- The accounts mention no flag, so they hold with the flags taken away and put back.
      have seen : Accounted { session with transport := session.transport.unflagged } :=
        ⟨accounted.consistent, accounted.span, accounted.stat, accounted.emptied,
          accounted.stopped, accounted.balance⟩
      have kept := induction seen done
      exact ⟨kept.consistent, kept.span, kept.stat, kept.emptied, kept.stopped, kept.balance⟩

theorem run?_accounted {acts : List Act} (accounted : session.Accounted)
    (ran : session.run? acts = some next) : next.Accounted := by
  induction acts generalizing session with
  | nil =>
      cases ran
      exact accounted
  | cons act acts induction =>
      rcases Option.bind_eq_some_iff.mp ran with ⟨middle, acted, ran⟩
      exact induction (act?_accounted accounted acted) ran

/-- After the transport is closed, each of its requests has been flushed or dropped exactly once,
but for those that waited on the wheel for their next attempt when the timer was stopped: nothing
counts them any more. -/
theorem requests_accounted {config : Config} {acts : List Act} {session : Session}
    (ran : (start config).run? acts = some session)
    (closed : session.transport.closed = true)
    (ended : session.transport.metadata.phase = .finished)
    (nothingDue : session.due = [] ∧ session.claimed = none) :
    session.transport.metadata.flushed + session.transport.metadata.dropped + session.lost =
        session.requests ∧
      (session.transport.metadata.flushed + session.transport.metadata.dropped =
          session.requests ↔ session.lost = 0) := by
  have accounted := run?_accounted (start_accounted config) ran
  -- No request is left on the wheel, due, claimed, queued or in flight.
  have offWheel := accounted.consistent.emptied (accounted.stopped closed)
  have balance := accounted.balance
  rw [nothingDue.1, nothingDue.2, Timer.outstanding_of_emptied offWheel,
    RequestChannel.handled, accounted.emptied ended, ended] at balance
  simp only [List.length_nil, RequestPhase.inFlight, Option.any_none, Bool.toNat_false] at balance
  omega

/-- One request is acknowledged and one rejected; a third one is still queued when the transport is
closed. -/
def threeRequests : List Act :=
  [.sendFrame ⟨.sqlMetadata, [1]⟩, .metadata .take, .metadata .acknowledged,
   .sendFrame ⟨.apiMetadata, [2]⟩, .metadata .take, .metadata .failed,
   .sendFrame ⟨.stringMetadata, [3]⟩, .close, .collect, .metadata .noticeShutdown]

theorem requests_accounted_threeRequests :
    ∃ session, (start { timerWheelSize := 64 }).run? threeRequests = some session ∧
      session.transport.closed = true ∧ session.transport.metadata.phase = .finished ∧
      (session.due = [] ∧ session.claimed = none) ∧
      session.transport.metadata.flushed + session.transport.metadata.dropped + session.lost =
        session.requests ∧
      (session.transport.metadata.flushed + session.transport.metadata.dropped =
          session.requests ↔ session.lost = 0) := by
  have ends : ((start { timerWheelSize := 64 }).run? threeRequests).map (fun session =>
      (session.transport.closed, session.transport.metadata.phase, session.due,
        session.claimed)) = some (true, .finished, [], none) := by decide +kernel
  rcases Option.map_eq_some_iff.mp ends with ⟨session, ran, ended⟩
  simp only [Prod.mk.injEq] at ended
  rcases ended with ⟨closed, finished, nothingDue⟩
  exact ⟨session, ran, closed, finished, nothingDue,
    requests_accounted ran closed finished nothingDue⟩

/-- A request that was rejected once and waits for its next attempt when the transport is closed. -/
def retryAtClose : List Act :=
  [.sendFrame ⟨.sqlMetadata, [1, 1]⟩, .metadata .take, .metadata .failed, .close,
   .metadata .noticeShutdown]

theorem close_loses_waiting_retry :
    ¬ ∀ (config : Config) (acts : List Act) (session : Session),
      (start config).run? acts = some session → session.transport.closed = true →
      session.transport.metadata.phase = .finished →
      session.due = [] ∧ session.claimed = none →
      session.transport.metadata.flushed + session.transport.metadata.dropped =
        session.requests := by
  intro claim
  have ends : ((start { timerWheelSize := 64 }).run? retryAtClose).map (fun session =>
      (session.transport.closed, session.transport.metadata.phase, session.due,
        session.claimed)) = some (true, .finished, [], none) := by decide +kernel
  have counts : ((start { timerWheelSize := 64 }).run? retryAtClose).map (fun session =>
      (session.transport.metadata.flushed + session.transport.metadata.dropped,
        session.requests)) = some (0, 1) := by decide +kernel
  rcases Option.map_eq_some_iff.mp ends with ⟨session, ran, ended⟩
  rw [ran, Option.map_some, Option.some_inj] at counts
  simp only [Prod.mk.injEq] at ended counts
  rcases ended with ⟨closed, finished, nothingDue⟩
  have claimed := claim { timerWheelSize := 64 } retryAtClose session ran closed finished nothingDue
  rw [counts.1, counts.2] at claimed
  cases claimed

/-! ### Ticks of the timer -/

theorem run?_singleton {session next : Session} {act : Act}
    (acted : session.act? act = some next) : session.run? [act] = some next := by
  rw [run?, acted]
  rfl

theorem run?_append (session : Session) (acts more : List Act) :
    session.run? (acts ++ more) = (session.run? acts).bind fun next => next.run? more := by
  induction acts generalizing session with
  | nil => rfl
  | cons act acts induction =>
      rw [List.cons_append, run?, run?, Option.bind_assoc]
      exact Option.bind_congr fun next _ => induction next

/-- Running what has come due is claiming one timeout after the other, and running what could be
claimed. -/
theorem exists_run?_runDue (session : Session) (due : List (Entry Job)) (transport : Transport) :
    ∃ acts, run? { session with transport, due, claimed := none } acts =
      some { session with transport := transport.runDue due, due := [], claimed := none } := by
  induction due generalizing transport with
  | nil => exact ⟨[], rfl⟩
  | cons entry due induction =>
      rcases expired : transport.timer.expire entry.id with ⟨won, timer⟩
      have claimed : act? { session with transport, due := entry :: due, claimed := none } .claim =
          some { session with
            transport := { transport with timer }
            due := due
            claimed := if won then some entry.task else none } := by
        simp only [act?, expired]
      rw [Transport.runDue, expired]
      cases won with
      | false =>
          rcases induction { transport with timer } with ⟨acts, ran⟩
          exact ⟨.claim :: acts, by rw [run?, claimed]; exact ran⟩
      | true =>
          rcases induction (Transport.run entry.task { transport with timer }) with ⟨acts, ran⟩
          exact ⟨.claim :: .run :: acts, by rw [run?, claimed]; exact ran⟩

/-- An advance of the timer is a tick, and what then comes due is run. -/
theorem exists_run?_advance (session : Session) (transport : Transport) :
    ∃ acts, run? { session with transport, due := [], claimed := none } acts =
      some { session with transport := transport.advance, due := [], claimed := none } := by
  rcases collected : transport.timer.collectDue with ⟨due, timer⟩
  rcases exists_run?_runDue session due { transport with timer } with ⟨acts, ran⟩
  have ticked : act? { session with transport, due := [], claimed := none } .collect =
      some { session with transport := { transport with timer }, due, claimed := none } := by
    simp only [act?, collected, List.nil_append]
  refine ⟨.collect :: acts, ?_⟩
  rw [run?, ticked, Transport.advance, collected]
  exact ran

end Session

/-! ### Flushed frames -/

namespace Transport

/-- Handing a frame over flushes none. -/
theorem sendFrame_flushed (frame : Frame) (transport : Transport) (channel : Channel) :
    ((transport.sendFrame frame).2.counters channel).flushed =
      (transport.counters channel).flushed := by
  have stream (stream : Stream) : (stream.send frame).2.flushed = stream.flushed := by
    rw [Stream.send]
    split <;> rfl
  rw [sendFrame]
  split
  next receiving kind =>
    cases receiving with
    | span =>
        cases channel with
        | span => exact stream transport.span
        | stat | metadata => rfl
    | stat =>
        cases channel with
        | stat => exact stream transport.stat
        | span | metadata => rfl
    | metadata =>
        cases channel with
        | metadata => exact transport.metadata.send_flushed frame
        | span | stat => rfl
  next => rfl

/-- No task of the timer flushes a frame. -/
theorem run_flushed (job : Job) (transport : Transport) (channel : Channel) :
    ((transport.run job).counters channel).flushed = (transport.counters channel).flushed := by
  cases job with
  | reconnect woken => cases woken <;> cases channel <;> rfl
  | retry request =>
      cases channel with
      | span | stat => rfl
      | metadata => exact transport.metadata.retry_flushed request
  | unrelated => rfl

theorem runDue_flushed (due : List (Entry Job)) (transport : Transport) (channel : Channel) :
    ((transport.runDue due).counters channel).flushed =
      (transport.counters channel).flushed := by
  induction due generalizing transport with
  | nil => rfl
  | cons entry due induction =>
      rw [runDue, induction]
      split
      next => exact run_flushed entry.task _ channel
      next => rfl

end Transport

end Telemetry.Delivery
