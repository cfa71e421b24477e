import Telemetry.Proofs.Delivery.Outstanding
import Telemetry.Proofs.Delivery.Ticking

namespace Telemetry.Delivery

/-! What a stop of a timer reaches. A stop may come at any time, also between two tasks of one
advance or from within a task. It cancels what is on the wheel, for good. What the running advance
has collected is on the wheel no longer: it stays pending and is still run, unless it is cancelled
by itself. -/

namespace Timer

variable {τ : Type} {timer : Timer τ}

/-- What has left the pending state keeps its status. -/
theorem statuses_settle {id other : Nat} {status ended : TimeoutStatus}
    (held : timer.statuses[other]? = some ended) (settled : ended ≠ .pending) :
    (timer.settle id status).2.statuses[other]? = some ended := by
  rw [settle]
  split
  next waiting =>
    have different : id ≠ other := by
      rintro rfl
      rw [isPending, held] at waiting
      exact settled (by simpa using waiting)
    rw [Array.getElem?_setIfInBounds_ne different]
    exact held
  next => exact held

theorem statuses_cancelAll_of_ended {other : Nat} {ended : TimeoutStatus}
    (held : timer.statuses[other]? = some ended) (settled : ended ≠ .pending)
    (cancelled : List (Entry τ)) :
    (timer.cancelAll cancelled).2.statuses[other]? = some ended := by
  induction cancelled generalizing timer with
  | nil => exact held
  | cons entry others induction =>
      rw [cancelAll_cons]
      exact induction (statuses_settle held settled)

theorem statuses_cancel {id : Nat} (waiting : timer.isPending id = true) :
    (timer.cancel id).2.statuses[id]? = some .cancelled := by
  rw [cancel, settle, if_pos waiting]
  exact Array.getElem?_setIfInBounds_self_of_lt (lt_of_isPending waiting)

theorem statuses_cancelAll {cancelled : List (Entry τ)} {id : Nat}
    (member : id ∈ cancelled.map Entry.id) (waiting : timer.isPending id = true) :
    (timer.cancelAll cancelled).2.statuses[id]? = some .cancelled := by
  induction cancelled generalizing timer with
  | nil => cases member
  | cons entry others induction =>
      rw [cancelAll_cons]
      by_cases first : id = entry.id
      · subst first
        exact statuses_cancelAll_of_ended (statuses_cancel waiting) (by decide) others
      · have later := (List.mem_cons.mp member).resolve_left first
        have settles : Settles timer [entry.id] (timer.cancel entry.id).2 :=
          settle_settles timer entry.id (by decide)
        apply induction later
        rw [settles.isPending, waiting]
        simp [first]

/-- A stop cancels what is pending on the wheel. -/
theorem statuses_stop {id : Nat} (running : timer.stopped = false)
    (member : id ∈ timer.entries.map Entry.id) (waiting : timer.isPending id = true) :
    timer.stop.2.statuses[id]? = some .cancelled := by
  rw [stop, if_neg (Bool.eq_false_iff.mp running)]
  exact statuses_cancelAll member waiting

end Timer

namespace Ticking

variable {τ : Type}

def halt (ticking : Ticking τ) : Ticking τ :=
  { ticking with
    timer := ticking.timer.stop.2
    stoppedAt := ticking.stoppedAt.or (some ticking.timer.ticks) }

/-- The timer after a turn of any thread: a stop does not wait for the running advance. -/
def interleave? (ticking : Ticking τ) : Turn τ → Option (Ticking τ)
  | .stop => some ticking.halt
  | .newTimeout delay task => ticking.take? (.newTimeout delay task)
  | .cancel id => ticking.take? (.cancel id)
  | .advance => ticking.take? .advance
  | .runNext => ticking.take? .runNext

def interleaveAll? (ticking : Ticking τ) : List (Turn τ) → Option (Ticking τ)
  | [] => some ticking
  | turn :: turns => (ticking.interleave? turn).bind fun next => next.interleaveAll? turns

/-- What every turn preserves holds after any interleaving of turns. -/
theorem interleaveAll?_invariant {invariant : Ticking τ → Prop}
    (preserved : ∀ {ticking next turn}, invariant ticking → ticking.interleave? turn = some next →
      invariant next)
    {ticking last : Ticking τ} {turns : List (Turn τ)} (initial : invariant ticking)
    (taken : ticking.interleaveAll? turns = some last) : invariant last := by
  induction turns generalizing ticking with
  | nil =>
      cases taken
      exact initial
  | cons turn turns induction =>
      rcases Option.bind_eq_some_iff.mp taken with ⟨middle, first, rest⟩
      exact induction (preserved initial first) rest

/-- What a turn of any thread can do. -/
inductive Takes (ticking : Ticking τ) : Turn τ → Ticking τ → Prop where
  | refused {delay : Nanos} {task : τ} {error : TimerError}
      (refused : ticking.timer.schedule delay task = .error error) :
      Takes ticking (.newTimeout delay task) ticking
  | accepted {delay : Nanos} {task : τ} {id : Nat} {timer : Timer τ}
      (scheduled : ticking.timer.schedule delay task = .ok (id, timer)) :
      Takes ticking (.newTimeout delay task) { ticking with
        timer
        accepted := ticking.accepted ++ [⟨id, ticking.timer.ticks, delay, task⟩] }
  | cancel (id : Nat) :
      Takes ticking (.cancel id) { ticking with
        timer := (ticking.timer.cancel id).2
        cancelled := if (ticking.timer.cancel id).1 then ticking.cancelled ++ [id]
          else ticking.cancelled }
  | advance (idle : ticking.due = []) :
      Takes ticking .advance { ticking with
        timer := ticking.timer.collectDue.2
        due := ticking.timer.collectDue.1 }
  | runNext {entry : Entry τ} {due : List (Entry τ)} (front : ticking.due = entry :: due) :
      Takes ticking .runNext { ticking with
        timer := (ticking.timer.expire entry.id).2
        due
        ran := if (ticking.timer.expire entry.id).1 then
          ticking.ran ++ [(ticking.timer.ticks, entry)] else ticking.ran }
  | stop : Takes ticking .stop ticking.halt

theorem interleave?_takes {ticking next : Ticking τ} {turn : Turn τ}
    (taken : ticking.interleave? turn = some next) : ticking.Takes turn next := by
  cases turn with
  | newTimeout delay task =>
      rw [interleave?, take?] at taken
      split at taken
      next error refused =>
        cases taken
        exact .refused refused
      next id timer scheduled =>
        cases taken
        exact .accepted scheduled
  | cancel id =>
      cases taken
      exact .cancel id
  | advance =>
      rw [interleave?, take?] at taken
      split at taken
      next idle =>
        cases taken
        exact .advance (List.isEmpty_iff.mp idle)
      next => cases taken
  | runNext =>
      rw [interleave?, take?] at taken
      split at taken
      next => cases taken
      next entry due front =>
        cases taken
        exact .runNext front
  | stop =>
      cases taken
      exact .stop

/-- Whether a collected timeout would still be run. -/
def stillDue (ticking : Ticking τ) (entry : Entry τ) : Bool := ticking.timer.isPending entry.id

/-- What a stop promises: no task starts any more, what was pending is cancelled, and nothing is
counted as pending. -/
structure DropsAll (ticking : Ticking τ) : Prop where
  silent : ∀ turns last, ticking.halt.interleaveAll? turns = some last → last.ran = ticking.ran
  cancelled : ∀ id, ticking.timer.isPending id = true →
    ticking.halt.timer.statuses[id]? = some .cancelled
  pending : ticking.halt.timer.pending = 0

/-! ### Before a stop -/

/-- Every pending timeout has its place, on the wheel or among those that were collected. -/
structure Orderly (ticking : Ticking τ) : Prop where
  consistent : ticking.timer.Consistent ticking.due
  counted : ticking.timer.Counted
  present : ∀ id, ticking.timer.isPending id = true →
    id ∈ (ticking.timer.entries ++ ticking.due).map Entry.id

section Orderly

variable {ticking next : Ticking τ}

theorem orderly_start (tick : Nanos) (wheelSize maxPending : Nat) :
    (start tick wheelSize maxPending : Ticking τ).Orderly where
  consistent := Timer.consistent_start tick wheelSize maxPending
  counted := Timer.counted_start tick wheelSize maxPending
  present := by simp [start, Timer.start, Timer.isPending]

theorem Orderly.schedule (orderly : ticking.Orderly) {delay : Nanos} {task : τ} {id : Nat}
    {timer : Timer τ} {accepted : List (Timeout τ)}
    (scheduled : ticking.timer.schedule delay task = .ok (id, timer)) :
    Orderly { ticking with timer, accepted } where
  consistent := (Timer.schedule_carries (fun _ => true) orderly.consistent scheduled).1.consistent
  counted := (Timer.counted_schedule orderly.counted scheduled).1
  present := by
    intro other waiting
    rcases Timer.schedule_eq_ok orderly.consistent.wheel scheduled with
      ⟨new, -, -, pushed, -, deadline, places⟩
    have places := (places.append_right ticking.due).map Entry.id
    rw [places.mem_iff, List.cons_append, List.map_cons, List.mem_cons]
    rw [Timer.isPending_push other pushed, Bool.or_eq_true, decide_eq_true_iff, ← new] at waiting
    exact waiting.symm.imp_right fun old => orderly.present other old

/-- A timeout that is settled needs its place no longer. -/
theorem Orderly.settle (orderly : ticking.Orderly) (id : Nat) {status : TimeoutStatus}
    (settled : status ≠ .pending) {left : List (Entry τ)}
    (consistent : (ticking.timer.settle id status).2.Consistent left)
    (others : ∀ entry ∈ ticking.due, entry.id ≠ id → entry ∈ left)
    {cancelled : List Nat} {ran : List (Nat × Entry τ)} :
    Orderly { ticking with
      timer := (ticking.timer.settle id status).2
      due := left
      cancelled
      ran } where
  consistent := consistent
  counted := (Timer.counted_settle orderly.counted id settled).1
  present := by
    intro other waiting
    have settles := Timer.settle_settles ticking.timer id settled
    rw [settles.isPending, Bool.and_eq_true] at waiting
    rcases List.mem_map.mp (orderly.present other waiting.1) with ⟨entry, member, rfl⟩
    rw [settles.entries]
    apply List.mem_map_of_mem
    rw [List.mem_append] at member ⊢
    exact member.imp_right fun due => others entry due (by simpa using waiting.2)

theorem Orderly.collect (orderly : ticking.Orderly) (idle : ticking.due = []) :
    Orderly { ticking with
      timer := ticking.timer.collectDue.2
      due := ticking.timer.collectDue.1 } where
  consistent := by
    have consistent := orderly.consistent
    rw [idle] at consistent
    exact (Timer.collectDue_carries (fun _ => true) consistent).1.consistent
  counted := orderly.counted
  present := by
    intro id waiting
    rcases Timer.collectDue_perm orderly.consistent.wheel with ⟨ended, places, settled⟩
    have placed := orderly.present id waiting
    rw [idle, List.append_nil] at placed
    rcases List.mem_map.mp placed with ⟨entry, member, rfl⟩
    apply List.mem_map_of_mem
    rw [places.mem_iff, List.mem_append, List.mem_append] at member
    rw [List.mem_append]
    rcases member with (due | left) | gone
    · exact .inr due
    · exact .inl left
    · exact absurd waiting (Bool.eq_false_iff.mp (settled entry gone))

theorem Orderly.halt (orderly : ticking.Orderly) : ticking.halt.Orderly where
  consistent := (Timer.stop_carries (fun _ => true) orderly.consistent).1.consistent
  counted := (Timer.counted_stop orderly.counted).1
  present := by
    intro id waiting
    change ticking.timer.stop.2.isPending id = true at waiting
    change id ∈ (ticking.timer.stop.2.entries ++ ticking.due).map Entry.id
    cases stopped : ticking.timer.stopped with
    | true =>
        rw [Timer.stop_of_stopped stopped] at waiting ⊢
        exact orderly.present id waiting
    | false =>
        rw [Timer.isPending_stop stopped, Bool.and_eq_true] at waiting
        have placed := orderly.present id waiting.1
        rw [List.map_append, List.mem_append] at placed ⊢
        exact .inr (placed.resolve_left (by simpa using waiting.2))

theorem interleave?_orderly {turn : Turn τ} (orderly : ticking.Orderly)
    (taken : ticking.interleave? turn = some next) : next.Orderly := by
  cases interleave?_takes taken with
  | refused => exact orderly
  | accepted scheduled => exact orderly.schedule scheduled
  | cancel id =>
      have settles : Timer.Settles ticking.timer [id] (ticking.timer.cancel id).2 :=
        Timer.settle_settles ticking.timer id (by decide)
      have carries : Timer.Carries (fun _ => true) ticking.timer ticking.due
          (ticking.timer.cancel id).2 ticking.due := settles.carries orderly.consistent
      exact orderly.settle id (by decide) carries.consistent fun _ member _ => member
  | advance idle => exact orderly.collect idle
  | @runNext entry due front =>
      have consistent := orderly.consistent
      rw [front] at consistent
      apply orderly.settle entry.id (by decide)
        (Timer.expire_carries (fun _ => true) consistent).1.consistent
      intro other member different
      rw [front] at member
      exact (List.mem_cons.mp member).resolve_left fun same => different (same ▸ rfl)
  | stop => exact orderly.halt

/-- The pending timeouts are those on the wheel and those that were collected. -/
theorem Orderly.pending_eq (orderly : ticking.Orderly) :
    ticking.timer.pending = (ticking.timer.entries ++ ticking.due).countP ticking.stillDue := by
  let places := (ticking.timer.entries ++ ticking.due).map Entry.id
  have same : ((List.range ticking.timer.statuses.size).filter ticking.timer.isPending).Perm
      (places.filter ticking.timer.isPending) := by
    rw [List.perm_ext_iff_of_nodup (List.nodup_range.filter _)
      (orderly.consistent.unique.filter _)]
    intro id
    rw [List.mem_filter, List.mem_filter, List.mem_range]
    apply and_congr_left
    intro waiting
    exact ⟨fun _ => orderly.present id waiting, fun _ => Timer.lt_of_isPending waiting⟩
  rw [orderly.counted, List.countP_eq_length_filter, same.length_eq, ← List.countP_eq_length_filter,
    List.countP_map]
  rfl

end Orderly

/-! ### After a stop -/

/-- Since then some of the collected timeouts were run, and some are left. -/
def Continues (before : Ticking τ) (left : List (Entry τ)) (ran : List (Nat × Entry τ)) : Prop :=
  ∃ more, ran = before.ran ++ more ∧ (more.map Prod.snd ++ left).Sublist before.due ∧
    ∀ run ∈ more, before.stillDue run.2 = true

/-- What can still happen after a stop: the timeouts that were collected run one after the other,
unless they were cancelled or are cancelled now. -/
structure RunsOut (before after : Ticking τ) : Prop where
  orderly : after.Orderly
  stopped : after.timer.stopped = true
  accepted : after.accepted = before.accepted
  ran : before.Continues after.due after.ran
  pending : ∀ id, after.timer.isPending id = true → before.timer.isPending id = true
  cancelled : ∀ id : Nat, before.timer.statuses[id]? = some .cancelled →
    after.timer.statuses[id]? = some .cancelled

section RunsOut

variable {ticking before next : Ticking τ}

theorem RunsOut.refl (orderly : ticking.Orderly) (stopped : ticking.timer.stopped = true) :
    ticking.RunsOut ticking where
  orderly := orderly
  stopped := stopped
  accepted := rfl
  ran := ⟨[], by simp, by simp, nofun⟩
  pending := fun _ waiting => waiting
  cancelled := fun _ held => held

theorem RunsOut.settle (runsOut : before.RunsOut ticking) (id : Nat) {status : TimeoutStatus}
    (settled : status ≠ .pending) {left : List (Entry τ)} {cancelled : List Nat}
    {ran : List (Nat × Entry τ)}
    (orderly : Orderly { ticking with
      timer := (ticking.timer.settle id status).2
      due := left
      cancelled
      ran })
    (continues : before.Continues left ran) :
    before.RunsOut { ticking with
      timer := (ticking.timer.settle id status).2
      due := left
      cancelled
      ran } where
  orderly := orderly
  stopped := (Timer.settle_settles ticking.timer id settled).stopped.trans runsOut.stopped
  accepted := runsOut.accepted
  ran := continues
  pending := by
    intro other waiting
    rw [(Timer.settle_settles ticking.timer id settled).isPending, Bool.and_eq_true] at waiting
    exact runsOut.pending other waiting.1
  cancelled := fun other held => Timer.statuses_settle (runsOut.cancelled other held) (by decide)

/-- A wheel that was emptied has nothing to collect. -/
theorem RunsOut.collect (runsOut : before.RunsOut ticking) (idle : ticking.due = []) :
    before.RunsOut { ticking with
      timer := ticking.timer.collectDue.2
      due := ticking.timer.collectDue.1 } where
  orderly := runsOut.orderly.collect idle
  stopped := runsOut.stopped
  accepted := runsOut.accepted
  ran := by
    have none := runsOut.orderly.consistent.emptied runsOut.stopped
    rcases Timer.collectDue_perm runsOut.orderly.consistent.wheel with ⟨ended, places, -⟩
    rw [none] at places
    have parts := (List.append_eq_nil_iff.mp places.symm.eq_nil).1
    have continues := runsOut.ran
    rw [idle] at continues
    rw [(List.append_eq_nil_iff.mp parts).1]
    exact continues
  pending := runsOut.pending
  cancelled := runsOut.cancelled

theorem RunsOut.halt (runsOut : before.RunsOut ticking) : before.RunsOut ticking.halt := by
  have same : ticking.halt.timer = ticking.timer := Timer.stop_of_stopped runsOut.stopped
  refine ⟨runsOut.orderly.halt, ?_, runsOut.accepted, runsOut.ran, ?_, ?_⟩
  · rw [same]
    exact runsOut.stopped
  · rw [same]
    exact runsOut.pending
  · rw [same]
    exact runsOut.cancelled

/-- A collected timeout that comes to its turn is run if it is still pending. -/
theorem RunsOut.continues (runsOut : before.RunsOut ticking) {entry : Entry τ}
    {rest : List (Entry τ)} (front : ticking.due = entry :: rest) :
    before.Continues rest (if (ticking.timer.expire entry.id).1 then
      ticking.ran ++ [(ticking.timer.ticks, entry)] else ticking.ran) := by
  rcases runsOut.ran with ⟨more, ran, left, due⟩
  rw [front] at left
  have won : (ticking.timer.expire entry.id).1 = ticking.timer.isPending entry.id :=
    Timer.fst_settle _ _ _
  rw [won]
  split
  next waiting =>
    refine ⟨more ++ [(ticking.timer.ticks, entry)], by rw [ran, List.append_assoc], ?_, ?_⟩
    · simpa using left
    · intro run member
      rcases List.mem_append.mp member with earlier | now
      · exact due run earlier
      · rw [List.mem_singleton.mp now]
        exact runsOut.pending entry.id waiting
  next => exact ⟨more, ran, .trans ((List.sublist_cons_self entry rest).append_left _) left, due⟩

theorem interleave?_runsOut {turn : Turn τ} (runsOut : before.RunsOut ticking)
    (taken : ticking.interleave? turn = some next) : before.RunsOut next := by
  have orderly := interleave?_orderly runsOut.orderly taken
  cases interleave?_takes taken with
  | refused => exact runsOut
  | accepted scheduled =>
      rw [Timer.schedule, if_pos runsOut.stopped] at scheduled
      cases scheduled
  | cancel id => exact runsOut.settle id (by decide) orderly runsOut.ran
  | advance idle => exact runsOut.collect idle
  | runNext front => exact runsOut.settle _ (by decide) orderly (runsOut.continues front)
  | stop => exact runsOut.halt

end RunsOut

/-! ### Stops -/

section Stops

variable {ticking last : Ticking τ}

/-- After a stop the timer has no wheel to turn. -/
theorem Orderly.halt_runsOut (orderly : ticking.Orderly) : ticking.halt.RunsOut ticking.halt :=
  .refl orderly.halt (Timer.stop_carries (fun _ => true) orderly.consistent).2.1

/-- What was collected is pending after a stop if it was before, and nothing else is. -/
theorem Orderly.stillDue_halt (orderly : ticking.Orderly) {entry : Entry τ}
    (member : entry ∈ ticking.due) : ticking.halt.stillDue entry = ticking.stillDue entry := by
  cases stopped : ticking.timer.stopped with
  | true =>
      change ticking.timer.stop.2.isPending entry.id = _
      rw [Timer.stop_of_stopped stopped]
      rfl
  | false =>
      have unique := orderly.consistent.unique
      rw [List.map_append, List.nodup_append] at unique
      have away : entry.id ∉ ticking.timer.entries.map Entry.id := fun onWheel =>
        unique.2.2 _ onWheel _ (List.mem_map_of_mem member) rfl
      change ticking.timer.stop.2.isPending entry.id = _
      rw [Timer.isPending_stop stopped, stillDue]
      simp [away]

theorem Orderly.pending_halt (orderly : ticking.Orderly) :
    ticking.halt.timer.pending = ticking.due.countP ticking.stillDue := by
  have runsOut := orderly.halt_runsOut
  have none := orderly.halt.consistent.emptied runsOut.stopped
  rw [orderly.halt.pending_eq, none, List.nil_append]
  apply List.countP_congr
  intro entry member
  rw [orderly.stillDue_halt member]

theorem Orderly.cancelled_halt (orderly : ticking.Orderly) {id : Nat}
    (waiting : ticking.timer.isPending id = true) (away : id ∉ ticking.due.map Entry.id) :
    ticking.halt.timer.statuses[id]? = some .cancelled := by
  have placed := orderly.present id waiting
  rw [List.map_append, List.mem_append] at placed
  have onWheel := placed.resolve_right away
  apply Timer.statuses_stop _ onWheel waiting
  rw [Bool.eq_false_iff]
  intro stopped
  rw [orderly.consistent.emptied stopped] at onWheel
  cases onWheel

/-- The tasks that start after a stop are collected ones that were pending, each once and in
order. -/
theorem Orderly.ran_after (orderly : ticking.Orderly) {turns : List (Turn τ)}
    (taken : ticking.halt.interleaveAll? turns = some last) :
    ∃ more, last.ran = ticking.ran ++ more ∧
      (more.map Prod.snd).Sublist (ticking.due.filter ticking.stillDue) := by
  have runsOut := interleaveAll?_invariant interleave?_runsOut orderly.halt_runsOut taken
  rcases runsOut.ran with ⟨more, ran, left, due⟩
  have collected : (more.map Prod.snd).Sublist ticking.due :=
    (List.sublist_append_left _ _).trans left
  refine ⟨more, ran, ?_⟩
  have pending : (more.map Prod.snd).filter ticking.stillDue = more.map Prod.snd := by
    rw [List.filter_eq_self]
    intro entry member
    rw [← orderly.stillDue_halt (collected.subset member)]
    rcases List.mem_map.mp member with ⟨run, ran, rfl⟩
    exact due run ran
  rw [← pending]
  exact collected.filter _

theorem Orderly.dropsAll_iff (orderly : ticking.Orderly) :
    ticking.DropsAll ↔ ∀ entry ∈ ticking.due, ticking.stillDue entry = false := by
  constructor
  · intro drops entry member
    have none := orderly.pending_halt.symm.trans drops.pending
    simpa using List.countP_eq_zero.mp none entry member
  · intro ended
    have none : ticking.due.filter ticking.stillDue = [] := by
      rw [List.filter_eq_nil_iff]
      intro entry member
      simp [ended entry member]
    refine ⟨fun turns last taken => ?_, fun id waiting => ?_, ?_⟩
    · rcases orderly.ran_after taken with ⟨more, ran, collected⟩
      rw [none, List.sublist_nil, List.map_eq_nil_iff] at collected
      rw [ran, collected, List.append_nil]
    · apply orderly.cancelled_halt waiting
      intro member
      rcases List.mem_map.mp member with ⟨entry, due, rfl⟩
      exact absurd waiting (Bool.eq_false_iff.mp (ended entry due))
    · rw [orderly.pending_halt, List.countP_eq_length_filter, none]
      rfl

/-- However turns of threads are interleaved before and after a stop, it cancels everything that is
pending on the wheel and refuses what comes later, but spares what the running advance has
collected: these timeouts stay pending, and they are the only ones whose tasks still start. A stop
drops everything exactly if nothing collected is pending. -/
theorem stop_spares_collected {tick : Nanos} {wheelSize maxPending : Nat} {turns : List (Turn τ)}
    (taken : (start tick wheelSize maxPending).interleaveAll? turns = some ticking) :
    (ticking.DropsAll ↔ ∀ entry ∈ ticking.due, ticking.stillDue entry = false) ∧
      ticking.halt.timer.pending = ticking.due.countP ticking.stillDue ∧
      (∀ id, ticking.timer.isPending id = true → id ∉ ticking.due.map Entry.id →
        ticking.halt.timer.statuses[id]? = some .cancelled) ∧
      ∀ later last, ticking.halt.interleaveAll? later = some last →
        last.accepted = ticking.accepted ∧
        (∀ id : Nat, ticking.halt.timer.statuses[id]? = some .cancelled →
          last.timer.statuses[id]? = some .cancelled) ∧
        ∃ more, last.ran = ticking.ran ++ more ∧
          (more.map Prod.snd).Sublist (ticking.due.filter ticking.stillDue) := by
  have orderly := interleaveAll?_invariant interleave?_orderly
    (orderly_start tick wheelSize maxPending) taken
  refine ⟨orderly.dropsAll_iff, orderly.pending_halt,
    fun id waiting away => orderly.cancelled_halt waiting away, fun later last reached => ?_⟩
  have runsOut := interleaveAll?_invariant interleave?_runsOut orderly.halt_runsOut reached
  exact ⟨runsOut.accepted, runsOut.cancelled, orderly.ran_after reached⟩

/-- Two tasks are due at one tick, and the first one has run. -/
def halfAdvanced : List (Turn String) :=
  [.newTimeout 1 "first", .newTimeout 1 "second", .newTimeout 2000000 "third", .advance, .runNext]

theorem stop_spares_collected_halfAdvanced :
    ∃ ticking, (start 0 8 16).interleaveAll? halfAdvanced = some ticking ∧
      ticking.halt.timer.pending = 1 ∧ ticking.halt.timer.statuses[2]? = some .cancelled := by
  have reached : ((start 0 8 16).interleaveAll? halfAdvanced).map (fun ticking =>
      (ticking.due.countP ticking.stillDue, ticking.timer.isPending 2,
        ticking.due.map Entry.id)) = some (1, true, [1]) := rfl
  rcases Option.map_eq_some_iff.mp reached with ⟨ticking, taken, parts⟩
  rw [Prod.mk.injEq, Prod.mk.injEq] at parts
  rcases stop_spares_collected taken with ⟨-, pending, cancelled, -⟩
  exact ⟨ticking, taken, pending.trans parts.1,
    cancelled 2 parts.2.1 (by rw [parts.2.2]; decide)⟩

/-- A task that stops the timer does not keep the next task of the same tick from starting. -/
theorem second_task_starts :
    ¬ ∀ (turns : List (Turn String)) (ticking : Ticking String),
      (start 0 8 16).interleaveAll? turns = some ticking → ticking.DropsAll := by
  intro claim
  have reached : ((start 0 8 16).interleaveAll? halfAdvanced).map (fun ticking =>
      (ticking.ran.length, (ticking.halt.interleaveAll? [.runNext]).map fun last =>
        last.ran.length)) = some (1, some 2) := rfl
  rcases Option.map_eq_some_iff.mp reached with ⟨ticking, taken, parts⟩
  rw [Prod.mk.injEq] at parts
  rcases Option.map_eq_some_iff.mp parts.2 with ⟨last, later, ran⟩
  have silent := congrArg List.length ((claim halfAdvanced ticking taken).silent _ last later)
  rw [parts.1, ran] at silent
  exact absurd silent (by decide)

end Stops

end Ticking

end Telemetry.Delivery
