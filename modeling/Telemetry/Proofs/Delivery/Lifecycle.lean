import Mathlib.Data.List.Chain
import Telemetry.Proofs.Delivery.History

namespace Telemetry.Delivery

/-! The life of a streaming channel, from one value of its state to the next. The channel begins
disconnected, connects, streams and waits for its next attempt, in turns, and it can be closed at
any time. Every attempt that is waited for is one more loss of the connection, and the losses since
the last success tell how long the wait is. -/

/-! ### The values of the state -/

/-- Which value of the state may come next. -/
inductive ChannelState.Follows : ChannelState → ChannelState → Prop
  | begins : Follows .disconnected .connecting
  | connects : Follows .connecting .streaming
  | fails : Follows .connecting .reconnectScheduled
  | breaks : Follows .streaming .reconnectScheduled
  | retries : Follows .reconnectScheduled .connecting
  | closes {state : ChannelState} (unclosed : state ≠ .closed) : Follows state .closed

/-- The value that the state goes over to with an event, before it may be closed. -/
def StreamEvent.target? : StreamEvent → Option ChannelState
  | .begin => some .connecting
  | .connected => some .streaming
  | .refused | .writeFailed | .peerClosed => some .reconnectScheduled
  | _ => none

/-- How often the connection was lost, or not made, since it was made last. -/
def losses (values : List ChannelState) : Nat :=
  values.foldl (fun count value =>
    match value with
    | .streaming => 0
    | .reconnectScheduled => count + 1
    | _ => count) 0

/-- What a channel shows while its dispatcher is in a phase. -/
def Phase.Shows : Phase → ChannelState → Prop
  | .ready, state => state = .disconnected ∨ state = .reconnectScheduled
  | .connecting, state => state = .connecting
  | .idle, state | .writing _, state | .completing, state => state = .streaming
  | .waiting, state | .sleeping _, state => state = .reconnectScheduled
  | .finished, state => state = .closed

namespace ChannelState

variable {before after state : ChannelState}

theorem Follows.unclosed (follows : before.Follows after) : before ≠ .closed := by
  cases follows with
  | closes unclosed => exact unclosed
  | begins | connects | fails | breaks | retries => decide

theorem moveTo_of_follows (follows : before.Follows after) : before.moveTo after = after := by
  rw [moveTo, if_neg follows.unclosed]

end ChannelState

theorem Phase.Shows.follows_connecting {state : ChannelState} (shows : Phase.ready.Shows state) :
    state.Follows .connecting := by
  rcases shows with rfl | rfl
  · exact .begins
  · exact .retries

theorem Phase.Shows.unclosed {phase : Phase} {state : ChannelState} (shows : phase.Shows state)
    (running : phase ≠ .finished) : state ≠ .closed := by
  cases phase with
  | finished => exact absurd rfl running
  | ready => exact (follows_connecting shows).unclosed
  | connecting | idle | writing | completing | waiting | sleeping =>
      rw [shows]
      nofun

theorem losses_append (values : List ChannelState) (value : ChannelState) :
    losses (values ++ [value]) =
      match value with
      | .streaming => 0
      | .reconnectScheduled => losses values + 1
      | _ => losses values := by
  rw [losses, List.foldl_append]
  rfl

/-! ### Asking for the next attempt -/

theorem Timer.schedule_eq_stopped {τ : Type} {timer : Timer τ} {delay : Nanos} {task : τ} :
    timer.schedule delay task = .error .stopped ↔ timer.stopped = true := by
  rw [schedule]
  split
  next stopped => exact ⟨fun _ => stopped, fun _ => rfl⟩
  next running =>
    refine ⟨fun answer => ?_, fun stopped => absurd stopped running⟩
    split at answer <;> cases answer

/-- The delay that the channel asks the timer for when its connection is lost. -/
def Reconnector.nextDelay (now : Nanos) (reconnector : Reconnector) : Nanos :=
  reconnector.backoff.delay ((reconnector.failures.recordFailure now).consecutive - 1)

/-- The reconnectors differ in how the channel is woken up only. -/
def Reconnector.Alike (before after : Reconnector) : Prop :=
  ∃ shutdown listener permit scheduled,
    after = { before with shutdown, listener, permit, scheduled }

namespace Reconnector

theorem Alike.failures {before after : Reconnector} (alike : before.Alike after) :
    after.failures = before.failures := by
  rcases alike with ⟨shutdown, listener, permit, scheduled, rfl⟩
  rfl

theorem alike_refl (reconnector : Reconnector) : reconnector.Alike reconnector :=
  ⟨_, _, _, _, rfl⟩

theorem alike_listen (reconnector : Reconnector) : reconnector.Alike reconnector.listen := by
  rw [listen]
  split <;> exact ⟨_, _, _, _, rfl⟩

theorem alike_fire (reconnector : Reconnector) : reconnector.Alike reconnector.fire := by
  rw [fire]
  split
  next => exact reconnector.alike_refl
  next => split <;> exact ⟨_, _, _, _, rfl⟩

theorem alike_resume {reconnector resumed : Reconnector}
    (resumes : reconnector.resume? = some resumed) : reconnector.Alike resumed := by
  rcases Option.ite_none_right_eq_some.mp resumes with ⟨-, equal⟩
  cases equal
  exact ⟨_, _, _, _, rfl⟩

theorem alike_close {τ : Type} (reconnector : Reconnector) (timer : Timer τ)
    (fallback : reconnector.fallback = none) :
    reconnector.Alike (reconnector.close timer).1 := by
  rw [close]
  split <;> exact ⟨_, _, _, _, by rw [fallback]; rfl⟩

end Reconnector

namespace Stream

variable {τ : Type}

/-- The ways in which a channel asks for its next attempt. -/
inductive Retries (now : Nanos) (task : τ) (delay : Nanos) (stream : Stream) (timer : Timer τ) :
    Stream × Timer τ → Prop
  | waits {id : Nat} {after : Timer τ} (accepted : timer.schedule delay task = .ok (id, after)) :
      Retries now task delay stream timer
        ({ stream with
            state := stream.state.moveTo .reconnectScheduled
            reconnector := Reconnector.listen { stream.reconnector with
              failures := stream.reconnector.failures.recordFailure now
              scheduled := some id
              fallback := none
              reconnects := stream.reconnector.reconnects + 1 }
            phase := .waiting }, after)
  | sleeps {pending limit : Nat}
      (full : timer.schedule delay task = .error (.tooManyPending pending limit)) :
      Retries now task delay stream timer
        ({ stream with
            state := stream.state.moveTo .reconnectScheduled
            reconnector := { stream.reconnector with
              failures := stream.reconnector.failures.recordFailure now
              fallback := none
              reconnects := stream.reconnector.reconnects + 1 }
            phase := .sleeping (now + delay) }, timer)
  | ends (stopped : timer.schedule delay task = .error .stopped) :
      Retries now task delay stream timer
        (finish { stream with
          state := stream.state.moveTo .reconnectScheduled
          reconnector := { stream.reconnector with
            failures := stream.reconnector.failures.recordFailure now }
          cancelled := true } timer)

theorem scheduleReconnect_retries (now : Nanos) (task : τ) (stream : Stream) (timer : Timer τ)
    (fallback : stream.reconnector.fallback = none) :
    stream.Retries now task (stream.reconnector.nextDelay now) timer
      (stream.scheduleReconnect now task timer) := by
  rw [scheduleReconnect, Reconnector.schedule]
  dsimp only
  rw [← Reconnector.nextDelay]
  cases answer : timer.schedule (stream.reconnector.nextDelay now) task with
  | error cause =>
      cases cause with
      | stopped => exact .ends answer
      | tooManyPending pending limit => exact .sleeps answer
  | ok accepted =>
      dsimp only
      rw [fallback]
      exact .waits answer

/-- The timer was asked for a task after this delay, and the channel does what the answer asks
for. -/
inductive Asks (now : Nanos) (task : τ) (delay : Nanos) (timer : Timer τ) (after : Stream)
    (timerAfter : Timer τ) : Prop
  | waits {id : Nat} (accepted : timer.schedule delay task = .ok (id, timerAfter))
      (scheduled : after.reconnector.scheduled = some id) (phase : after.phase = .waiting)
  | sleeps {pending limit : Nat}
      (full : timer.schedule delay task = .error (.tooManyPending pending limit))
      (untouched : timerAfter = timer) (phase : after.phase = .sleeping (now + delay))
  | ends (stopped : timer.schedule delay task = .error .stopped)
      (phase : after.phase = .finished)

theorem Retries.asks {now : Nanos} {task : τ} {delay : Nanos} {stream : Stream}
    {timer : Timer τ} {result : Stream × Timer τ}
    (retries : stream.Retries now task delay timer result) (cancelled : Bool) :
    Asks now task delay timer { result.1 with cancelled } result.2 := by
  cases retries with
  | @waits id timerAfter accepted =>
      refine .waits accepted ?_ rfl
      dsimp only
      rw [Reconnector.listen]
      split <;> rfl
  | sleeps full => exact .sleeps full rfl rfl
  | ends stopped => exact .ends stopped rfl

theorem Retries.finished {now : Nanos} {task : τ} {delay : Nanos} {stream : Stream}
    {timer : Timer τ} {result : Stream × Timer τ}
    (retries : stream.Retries now task delay timer result) (stopped : timer.stopped = true) :
    result.1.phase = .finished := by
  have answer : timer.schedule delay task = .error .stopped :=
    Timer.schedule_eq_stopped.mpr stopped
  cases retries with
  | waits accepted =>
      rw [accepted] at answer
      cases answer
  | sleeps full =>
      rw [full] at answer
      cases answer
  | ends => rfl

theorem Retries.failures {now : Nanos} {task : τ} {delay : Nanos} {stream : Stream}
    {timer : Timer τ} {result : Stream × Timer τ}
    (retries : stream.Retries now task delay timer result)
    (fallback : stream.reconnector.fallback = none) :
    result.1.reconnector.failures = stream.reconnector.failures.recordFailure now := by
  cases retries with
  | waits accepted => exact (Reconnector.alike_listen _).failures
  | sleeps full => rfl
  | ends stopped =>
      exact (Reconnector.alike_close { stream.reconnector with
        failures := stream.reconnector.failures.recordFailure now } timer fallback).failures

/-- A channel that loses its connection asks for its next attempt. -/
theorem reacts_retries {now : Nanos} {task : τ} {stream : Stream} {timer : Timer τ}
    {event : StreamEvent} {result : Stream × Timer τ}
    (reacts : Reacts now task stream timer event result)
    (fallback : stream.reconnector.fallback = none)
    (loses : event.target? = some .reconnectScheduled) :
    ∃ held, Retries now task (stream.reconnector.nextDelay now) { stream with held } timer
      result := by
  cases reacts with
  | refused | peerClosed =>
      exact ⟨stream.held, scheduleReconnect_retries now task stream timer fallback⟩
  | @writeFailed frame =>
      exact ⟨some frame,
        scheduleReconnect_retries now task { stream with held := some frame } timer fallback⟩
  | begin | beginCancelled | connected | take | written | notified | slept | abandoned
  | disconnecting | interrupted | completed => cases loses

/-! ### The course of a channel -/

/-- The values that the state goes through in a reaction. -/
def passes (event : StreamEvent) (before after : Stream) : List ChannelState :=
  (event.target?.map before.state.moveTo).toList ++
    if after.phase = .finished then [.closed] else []

/-- Whether a stopped timer is asked for the next attempt. -/
def asksStopped (event : StreamEvent) (timer : Timer τ) : Bool :=
  event.target? = some .reconnectScheduled && timer.stopped

/-- The values that the state has had, and what the channel has counted meanwhile. -/
structure Course (backoff : Backoff) (values : List ChannelState) (refusals : Nat)
    (stream : Stream) : Prop where
  starts : values.head? = some .disconnected
  chain : values.IsChain ChannelState.Follows
  last : values.getLast? = some stream.state
  backoff : stream.reconnector.backoff = backoff
  fallback : stream.reconnector.fallback = none
  failures : stream.reconnector.failures.consecutive = min (losses values) Failures.maxConsecutive
  counted : stream.reconnector.reconnects + refusals = values.count .reconnectScheduled

theorem finished_of_asksStopped {now : Nanos} {task : τ} {stream : Stream} {timer : Timer τ}
    {event : StreamEvent} {result : Stream × Timer τ}
    (reacts : Reacts now task stream timer event result)
    (fallback : stream.reconnector.fallback = none) (asks : asksStopped event timer = true) :
    result.1.phase = .finished := by
  rcases Bool.and_eq_true_iff.mp asks with ⟨loses, stopped⟩
  rcases reacts_retries reacts fallback (of_decide_eq_true loses) with ⟨held, retries⟩
  exact retries.finished stopped

namespace Course

variable {backoff : Backoff} {values : List ChannelState} {refusals refusalsAfter : Nat}
  {stream after : Stream} {target : ChannelState} {event : StreamEvent} {task : τ}
  {timer : Timer τ}

theorem start (channel : Channel) (capacity : Nat) (backoff : Backoff) :
    Course backoff [.disconnected] 0 (.start channel capacity backoff) :=
  ⟨rfl, .singleton _, rfl, rfl, rfl, rfl, rfl⟩

theorem of_alike (course : Course backoff values refusals stream)
    (state : after.state = stream.state)
    (alike : stream.reconnector.Alike after.reconnector) :
    Course backoff values refusals after := by
  rcases course with ⟨starts, chain, last, same, fallback, failures, counted⟩
  rcases alike with ⟨shutdown, listener, permit, scheduled, equal⟩
  rw [← state] at last
  refine ⟨starts, chain, last, ?_, ?_, ?_, ?_⟩ <;> rw [equal] <;> assumption

/-- The next value of the state. -/
theorem extend (course : Course backoff values refusals stream)
    (follows : stream.state.Follows target) (state : after.state = target)
    (same : after.reconnector.backoff = stream.reconnector.backoff)
    (fallback : after.reconnector.fallback = none)
    (failures : after.reconnector.failures.consecutive =
      min (losses (values ++ [target])) Failures.maxConsecutive)
    (counted : after.reconnector.reconnects + refusalsAfter =
      stream.reconnector.reconnects + refusals + [target].count .reconnectScheduled) :
    Course backoff (values ++ [target]) refusalsAfter after where
  starts := by rw [List.head?_append, course.starts, Option.some_or]
  chain := by
    refine List.isChain_append.mpr ⟨course.chain, .singleton _, fun value last next first => ?_⟩
    rw [course.last] at last
    cases last
    cases first
    exact follows
  last := by rw [List.getLast?_concat, state]
  backoff := same.trans course.backoff
  fallback := fallback
  failures := failures
  counted := by rw [counted, course.counted, List.count_append]

theorem connect (course : Course backoff values refusals stream)
    (follows : stream.state.Follows .connecting)
    (state : after.state = stream.state.moveTo .connecting)
    (reconnector : after.reconnector = stream.reconnector) :
    Course backoff (values ++ [stream.state.moveTo .connecting]) refusals after := by
  rw [ChannelState.moveTo_of_follows follows] at state ⊢
  refine course.extend follows state ?_ ?_ ?_ ?_
  · rw [reconnector]
  · rw [reconnector, course.fallback]
  · rw [reconnector, losses_append]
    exact course.failures
  · rw [reconnector]
    rfl

/-- The state is closed and the dispatcher ends. -/
theorem finish (course : Course backoff values refusals stream)
    (unclosed : stream.state ≠ .closed) (timer : Timer τ) :
    Course backoff (values ++ [.closed]) refusals (stream.finish timer).1 := by
  have closed : Course backoff (values ++ [.closed]) refusals { stream with state := .closed } := by
    refine course.extend (.closes unclosed) rfl rfl course.fallback ?_ rfl
    rw [losses_append]
    exact course.failures
  exact closed.of_alike rfl (Reconnector.alike_close _ timer course.fallback)

/-- The connection is lost. -/
theorem lose (course : Course backoff values refusals stream) {now : Nanos}
    (follows : stream.state.Follows .reconnectScheduled)
    (state : after.state = stream.state.moveTo .reconnectScheduled)
    (same : after.reconnector.backoff = stream.reconnector.backoff)
    (fallback : after.reconnector.fallback = none)
    (failures : after.reconnector.failures = stream.reconnector.failures.recordFailure now)
    (counted : after.reconnector.reconnects + refusalsAfter =
      stream.reconnector.reconnects + refusals + 1) :
    Course backoff (values ++ [.reconnectScheduled]) refusalsAfter after := by
  rw [ChannelState.moveTo_of_follows follows] at state
  refine course.extend follows state same fallback ?_ counted
  rw [failures, losses_append, Failures.recordFailure, course.failures]
  dsimp only
  omega

theorem retry {now : Nanos} {delay : Nanos} {result : Stream × Timer τ}
    (course : Course backoff values refusals stream)
    (loses : event.target? = some .reconnectScheduled)
    (follows : stream.state.Follows .reconnectScheduled)
    (retries : stream.Retries now task delay timer result) :
    Course backoff (values ++ passes event stream result.1)
        (refusals + (asksStopped event timer).toNat) result.1 ∧
      result.1.phase.Shows result.1.state := by
  have state := ChannelState.moveTo_of_follows follows
  have running {answer : Except TimerError (Nat × Timer τ)}
      (answered : timer.schedule delay task = answer) (other : answer ≠ .error .stopped) :
      timer.stopped = false := by
    rw [← Bool.not_eq_true, ← Timer.schedule_eq_stopped, answered]
    exact other
  rw [passes, asksStopped, loses, Option.map_some, state, Option.toList_some, ← List.append_assoc]
  simp only [decide_true, Bool.true_and]
  cases retries with
  | @waits id timerAfter accepted =>
      have lost : Course backoff (values ++ [.reconnectScheduled]) refusals { stream with
          state := stream.state.moveTo .reconnectScheduled
          reconnector := { stream.reconnector with
            failures := stream.reconnector.failures.recordFailure now
            scheduled := some id
            fallback := none
            reconnects := stream.reconnector.reconnects + 1 } } :=
        course.lose follows rfl rfl rfl rfl (Nat.add_right_comm _ _ _)
      rw [running accepted nofun, if_neg nofun, List.append_nil]
      exact ⟨lost.of_alike rfl (Reconnector.alike_listen _), state⟩
  | sleeps full =>
      rw [running full nofun, if_neg nofun, List.append_nil]
      exact ⟨course.lose follows rfl rfl rfl rfl (Nat.add_right_comm _ _ _), state⟩
  | ends stopped =>
      have lost : Course backoff (values ++ [.reconnectScheduled]) (refusals + 1) { stream with
          state := stream.state.moveTo .reconnectScheduled
          reconnector := { stream.reconnector with
            failures := stream.reconnector.failures.recordFailure now }
          cancelled := true } :=
        course.lose follows rfl rfl course.fallback rfl rfl
      rw [Timer.schedule_eq_stopped.mp stopped]
      exact ⟨lost.finish (by rw [state]; nofun) timer, rfl⟩

/-- A reaction that leaves the state as it is. -/
theorem stay (course : Course backoff values refusals stream) (timer : Timer τ)
    (keeps : event.target? = none) (running : after.phase ≠ .finished)
    (state : after.state = stream.state)
    (alike : stream.reconnector.Alike after.reconnector) :
    Course backoff (values ++ passes event stream after)
      (refusals + (asksStopped event timer).toNat) after := by
  rw [passes, asksStopped, keeps, if_neg running]
  simp only [Option.map_none, Option.toList_none, List.append_nil, reduceCtorEq, decide_false,
    Bool.false_and, Bool.toNat_false, Nat.add_zero]
  exact course.of_alike state alike

/-- What a reaction adds to the course of the channel. -/
theorem react {now : Nanos} {result : Stream × Timer τ}
    (course : Course backoff values refusals stream) (shows : stream.phase.Shows stream.state)
    (reacts : Reacts now task stream timer event result) :
    Course backoff (values ++ passes event stream result.1)
        (refusals + (asksStopped event timer).toNat) result.1 ∧
      result.1.phase.Shows result.1.state := by
  have same := stream.reconnector.alike_refl
  cases reacts with
  | begin phase running =>
      rw [phase] at shows
      have follows := Phase.Shows.follows_connecting shows
      rw [passes, if_neg nofun, List.append_nil]
      exact ⟨course.connect follows rfl rfl, ChannelState.moveTo_of_follows follows⟩
  | beginCancelled phase cancelled =>
      rw [phase] at shows
      have follows := Phase.Shows.follows_connecting shows
      have connects : Course backoff (values ++ [stream.state.moveTo .connecting]) refusals
          { stream with state := stream.state.moveTo .connecting } := course.connect follows rfl rfl
      have state := ChannelState.moveTo_of_follows follows
      rw [passes, ← List.append_assoc]
      exact ⟨connects.finish (by rw [state]; nofun) timer, rfl⟩
  | connected phase running =>
      rw [phase] at shows
      have follows : stream.state.Follows .streaming := shows ▸ .connects
      have state := ChannelState.moveTo_of_follows follows
      rw [passes, if_neg nofun, List.append_nil, StreamEvent.target?, Option.map_some, state]
      refine ⟨course.extend follows rfl rfl rfl ?_ rfl, rfl⟩
      rw [losses_append]
      rfl
  | refused phase running =>
      rw [phase] at shows
      exact course.retry rfl (shows ▸ .fails)
        (scheduleReconnect_retries now task _ timer course.fallback)
  | @writeFailed frame phase running =>
      rw [phase] at shows
      have held : Course backoff values refusals { stream with held := some frame } :=
        course.of_alike rfl same
      exact held.retry rfl (shows ▸ .breaks)
        (scheduleReconnect_retries now task _ timer course.fallback)
  | peerClosed phase running delivered =>
      rw [phase] at shows
      exact course.retry rfl (shows ▸ .breaks)
        (scheduleReconnect_retries now task _ timer course.fallback)
  | take phase running available =>
      rw [phase] at shows
      rcases next?_eq_some available with ⟨queue, rfl, -, -⟩
      exact ⟨course.stay timer rfl nofun rfl same, shows⟩
  | notified phase running woken =>
      rw [phase] at shows
      exact ⟨course.stay timer rfl nofun rfl (Reconnector.alike_resume woken), .inr shows⟩
  | slept phase running due =>
      rw [phase] at shows
      exact ⟨course.stay timer rfl nofun rfl same, .inr shows⟩
  | written phase running | disconnecting phase cancelled | interrupted phase cancelled =>
      rw [phase] at shows
      exact ⟨course.stay timer rfl nofun rfl same, shows⟩
  | abandoned cancelled phase =>
      refine ⟨course.finish (shows.unclosed fun finished => ?_) timer, rfl⟩
      simp [finished] at phase
  | completed phase =>
      refine ⟨course.finish (shows.unclosed fun finished => ?_) timer, rfl⟩
      rw [finished] at phase
      cases phase

end Course

end Stream

/-! ### Runs -/

variable {τ : Type}

/-- What a move has the channel react to, and what the timer is to run then. -/
def Move.reaction? : Move τ → Option (Nanos × τ × StreamEvent)
  | .react now task event => some (now, task, event)
  | .unaware move => move.reaction?
  | _ => none

namespace History

variable {history next : History τ} {move : Move τ}

theorem move?_reacts {now : Nanos} {task : τ} {event : StreamEvent}
    (moved : history.move? move = some next)
    (reaction : move.reaction? = some (now, task, event)) :
    ∃ cancelled after asked,
      Stream.Reacts now task { history.stream with cancelled } history.timer event
        (after, next.timer) ∧
      next.stream = { after with cancelled := asked } := by
  induction move generalizing history next with
  | react =>
      cases reaction
      rcases Option.map_eq_some_iff.mp moved with ⟨⟨after, timer⟩, stepped, rfl⟩
      exact ⟨_, after, _, Stream.reacts_of_step? stepped, rfl⟩
  | unaware move induction =>
      rcases Option.map_eq_some_iff.mp moved with ⟨seen, done, rfl⟩
      rcases induction done reaction with ⟨cancelled, after, asked, reacts, same⟩
      exact ⟨cancelled, after, _, reacts, by rw [same]⟩
  | send | wake | shutdown | timer => cases reaction

/-- Between its reactions a channel goes on as it was. -/
theorem move?_rests (moved : history.move? move = some next) (none : move.reaction? = none) :
    next.stream.phase = history.stream.phase ∧ next.stream.state = history.stream.state ∧
      history.stream.reconnector.Alike next.stream.reconnector := by
  induction move generalizing history next with
  | react => cases none
  | send frame =>
      cases moved
      refine ⟨Stream.send_phase frame _, Stream.send_state frame _, ?_⟩
      change history.stream.reconnector.Alike (history.stream.send frame).2.reconnector
      rw [Stream.send_reconnector]
      exact history.stream.reconnector.alike_refl
  | wake =>
      cases moved
      exact ⟨rfl, rfl, history.stream.reconnector.alike_fire⟩
  | shutdown | timer =>
      cases moved
      exact ⟨rfl, rfl, history.stream.reconnector.alike_refl⟩
  | unaware move induction =>
      rcases Option.map_eq_some_iff.mp moved with ⟨seen, done, rfl⟩
      have rested := induction done none
      exact rested

end History

/-- A history with all the values that the state of the channel has had. -/
structure Journal (τ : Type) where
  history : History τ
  /-- The first value and all later ones, also those that were given up at once. -/
  values : List ChannelState
  /-- How often a stopped timer was asked for the next attempt. -/
  refusals : Nat

namespace Journal

def start (channel : Channel) (queueSize : Nat) (backoff : Backoff) (timer : Timer τ) :
    Journal τ where
  history := .start channel queueSize backoff timer
  values := [.disconnected]
  refusals := 0

/-- The journal after a move, `none` where the move cannot happen. -/
def move? (journal : Journal τ) (move : Move τ) : Option (Journal τ) :=
  (journal.history.move? move).map fun history =>
    match move.reaction? with
    | some (_, _, event) =>
        { history
          values := journal.values ++ Stream.passes event journal.history.stream history.stream
          refusals :=
            journal.refusals + (Stream.asksStopped event journal.history.timer).toNat }
    | none => { journal with history }

def run? (journal : Journal τ) : List (Move τ) → Option (Journal τ)
  | [] => some journal
  | move :: moves => (journal.move? move).bind fun next => next.run? moves

/-- What holds of a journal in every state of a run. -/
structure Kept (journal : Journal τ) (backoff : Backoff) : Prop where
  course : Stream.Course backoff journal.values journal.refusals journal.history.stream
  shows : journal.history.stream.phase.Shows journal.history.stream.state
  refused : journal.refusals = 0 ∨
    journal.refusals = 1 ∧ journal.history.stream.phase = .finished

theorem start_kept (channel : Channel) (queueSize : Nat) (backoff : Backoff) (timer : Timer τ) :
    (start channel queueSize backoff timer).Kept backoff :=
  ⟨.start _ _ _, .inl rfl, .inl rfl⟩

variable {journal next : Journal τ} {backoff : Backoff} {move : Move τ}

theorem move?_kept (kept : journal.Kept backoff) (moved : journal.move? move = some next) :
    next.Kept backoff := by
  rcases Option.map_eq_some_iff.mp moved with ⟨history, done, rfl⟩
  rcases kept with ⟨course, shows, refused⟩
  split
  next now task event reaction =>
    rcases History.move?_reacts done reaction with ⟨cancelled, after, asked, reacts, same⟩
    have before : Stream.Course backoff journal.values journal.refusals
        { journal.history.stream with cancelled } :=
      course.of_alike rfl journal.history.stream.reconnector.alike_refl
    rcases before.react shows reacts with ⟨courseAfter, showsAfter⟩
    refine ⟨?_, ?_, ?_⟩
    · rw [same]
      exact courseAfter.of_alike rfl after.reconnector.alike_refl
    · rw [same]
      exact showsAfter
    · rcases refused with none | ⟨-, finished⟩
      · rw [none, same]
        cases asks : Stream.asksStopped event journal.history.timer with
        | false => exact .inl rfl
        | true => exact .inr ⟨rfl, Stream.finished_of_asksStopped reacts course.fallback asks⟩
      · exact absurd finished reacts.unfinished
  next none =>
    rcases History.move?_rests done none with ⟨phase, state, alike⟩
    exact ⟨course.of_alike state alike, by rwa [phase, state], by rwa [phase]⟩

theorem run?_kept {moves : List (Move τ)} (kept : journal.Kept backoff)
    (ran : journal.run? moves = some next) : next.Kept backoff := by
  induction moves generalizing journal with
  | nil =>
      cases ran
      exact kept
  | cons move moves induction =>
      rcases Option.bind_eq_some_iff.mp ran with ⟨middle, moved, ran⟩
      exact induction (move?_kept kept moved) ran

/-- A channel that loses its connection asks for a delay that grows with its losses. -/
theorem Kept.asks (kept : journal.Kept backoff) (moved : journal.move? move = some next)
    {now : Nanos} {task : τ} {event : StreamEvent}
    (reaction : move.reaction? = some (now, task, event))
    (loses : event.target? = some .reconnectScheduled) :
    Stream.Asks now task (backoff.delay (min (losses next.values) Failures.maxConsecutive - 1))
      journal.history.timer next.history.stream next.history.timer := by
  have keptNext := move?_kept kept moved
  rcases Option.map_eq_some_iff.mp moved with ⟨history, done, rfl⟩
  rcases History.move?_reacts done reaction with ⟨cancelled, after, asked, reacts, same⟩
  rcases Stream.reacts_retries reacts kept.course.fallback loses with ⟨held, retries⟩
  have failures := keptNext.course.failures
  rw [reaction] at failures ⊢
  dsimp only at failures ⊢
  have delay : backoff.delay (min (losses (journal.values ++
      Stream.passes event journal.history.stream history.stream)) Failures.maxConsecutive - 1) =
      journal.history.stream.reconnector.nextDelay now := by
    have counted := retries.failures kept.course.fallback
    rw [← failures, same, Reconnector.nextDelay, kept.course.backoff, counted]
  rw [delay, same]
  exact retries.asks asked

/-- The life of a streaming channel, whatever its peer, the timer and its owner do. The values of
its state follow one another as they should and nothing comes after the end. Frames are written
while it streams. Every loss of the connection counts as a reconnect, except for one after which a
stopped timer refuses the next attempt and the channel ends. The delay that the timer is asked for
grows with the losses since the last success. -/
theorem lifecycle {channel : Channel} {queueSize : Nat} {backoff : Backoff} {timer : Timer τ}
    {moves : List (Move τ)} {journal : Journal τ}
    (ran : (start channel queueSize backoff timer).run? moves = some journal) :
    (journal.values.head? = some .disconnected ∧
      journal.values.IsChain ChannelState.Follows ∧
      journal.values.getLast? = some journal.history.stream.state) ∧
    (∀ frame, journal.history.stream.phase = .writing frame →
      journal.history.stream.state = .streaming) ∧
    (journal.history.stream.reconnector.reconnects + journal.refusals =
      journal.values.count .reconnectScheduled ∧
      (journal.refusals = 0 ∨
        journal.refusals = 1 ∧ journal.history.stream.phase = .finished)) ∧
    (∀ move next now task event, journal.move? move = some next →
      move.reaction? = some (now, task, event) → event.target? = some .reconnectScheduled →
      Stream.Asks now task
        (backoff.delay (min (losses next.values) Failures.maxConsecutive - 1))
        journal.history.timer next.history.stream next.history.timer) := by
  have kept := run?_kept (start_kept channel queueSize backoff timer) ran
  have course := kept.course
  refine ⟨⟨course.starts, course.chain, course.last⟩, fun frame writing => ?_,
    ⟨course.counted, kept.refused⟩, fun _ _ _ _ _ moved reaction loses => ?_⟩
  · have shows := kept.shows
    rwa [writing] at shows
  · exact kept.asks moved reaction loses

/-- The peer closes the first connection, and the timer is stopped before the second is refused. -/
def stoppedTimer : List (Move Unit) :=
  [.react 0 () .begin, .react 1 () .connected, .react 2 () .peerClosed, .wake,
   .react 3 () .notified, .react 4 () .begin, .timer (Timer.start (ofMillis 10) 1 8).stop.2]

theorem lifecycle_stoppedTimer :
    ∃ journal next, (start .span 2 (.ofDelays (ofMillis 10) (ofMillis 50))
        (.start (ofMillis 10) 1 8)).run? stoppedTimer = some journal ∧
      journal.move? (.react 5 () .refused) = some next ∧
      journal.values.IsChain ChannelState.Follows ∧
      journal.history.stream.reconnector.reconnects + journal.refusals = 1 ∧
      next.values = [.disconnected, .connecting, .streaming, .reconnectScheduled, .connecting,
        .reconnectScheduled, .closed] ∧
      Stream.Asks 5 () (ofMillis 20) journal.history.timer next.history.stream
        next.history.timer := by
  have goes : ((start .span 2 (.ofDelays (ofMillis 10) (ofMillis 50))
      (.start (ofMillis 10) 1 8)).run? stoppedTimer).map (fun journal =>
        (journal.values.count .reconnectScheduled,
          (journal.move? (.react 5 () .refused)).map Journal.values)) =
      some (1, some [.disconnected, .connecting, .streaming, .reconnectScheduled, .connecting,
        .reconnectScheduled, .closed]) := by decide
  rcases Option.map_eq_some_iff.mp goes with ⟨journal, ran, ended⟩
  simp only [Prod.mk.injEq] at ended
  rcases ended with ⟨entries, continued⟩
  rcases Option.map_eq_some_iff.mp continued with ⟨next, moved, values⟩
  rcases lifecycle ran with ⟨⟨-, chain, -⟩, -, ⟨counted, -⟩, asks⟩
  have asked := asks _ next 5 () .refused moved rfl rfl
  rw [values] at asked
  exact ⟨journal, next, ran, moved, chain, counted.trans entries, values, asked⟩

end Journal

end Telemetry.Delivery
