import Telemetry.Proofs.Delivery.Ticking

namespace Telemetry.Delivery.Ticking

/-! A task runs in the advance to its own tick or not at all, and the number of pending timeouts is
right throughout. -/

variable {τ : Type}

/-! ### History

The status of a timeout agrees with what has happened to it. -/

structure Told (width : Nanos) (ticking : Ticking τ) : Prop where
  pending : ∀ id, ticking.timer.isPending id = true ↔
    id < ticking.timer.statuses.size ∧ ticking.waiting id = true
  unknown : ∀ id, ticking.timer.statuses.size ≤ id →
    ticking.runs id = [] ∧ id ∉ ticking.cancelled
  ran : ∀ timeout ∈ ticking.accepted, ticking.runs timeout.id = [] ∨
    ∃ tick, ticking.runs timeout.id = [(tick, timeout.task)] ∧ tick ≤ ticking.timer.ticks ∧
      (∀ last ∈ ticking.stoppedAt, tick ≤ last) ∧
      (timeout.dueAt width < 2 ^ 64 → tick = timeout.dueAt width)
  cancelled : ∀ id ∈ ticking.cancelled, ticking.runs id = []
  dropped : ∀ timeout ∈ ticking.accepted, ∀ last ∈ ticking.stoppedAt,
    ticking.runs timeout.id = [] → timeout.id ∉ ticking.cancelled →
      timeout.dueAt width < 2 ^ 64 → last < timeout.dueAt width
  stopped : ticking.timer.stopped = ticking.stoppedAt.isSome
  ended : ticking.stoppedAt.isSome → ticking.timer.entries = [] ∧ ticking.due = []

section History

variable {width : Nanos} {ticking next : Ticking τ}

theorem waiting_iff {id : Nat} : ticking.waiting id = true ↔
    ticking.runs id = [] ∧ id ∉ ticking.cancelled ∧ ticking.stoppedAt = none := by
  simp [waiting, and_assoc]

theorem told_start (tick : Nanos) (wheelSize maxPending : Nat) :
    Told width (start tick wheelSize maxPending : Ticking τ) where
  pending := by simp [start, Timer.start, Timer.isPending]
  unknown := fun _ _ => ⟨rfl, nofun⟩
  ran := nofun
  cancelled := nofun
  dropped := nofun
  stopped := rfl
  ended := nofun

/-- As long as the timer runs nothing was dropped. -/
theorem Told.of_running (running : ticking.stoppedAt = none)
    (pending : ∀ id, ticking.timer.isPending id = true ↔
      id < ticking.timer.statuses.size ∧ ticking.waiting id = true)
    (unknown : ∀ id, ticking.timer.statuses.size ≤ id →
      ticking.runs id = [] ∧ id ∉ ticking.cancelled)
    (ran : ∀ timeout ∈ ticking.accepted, ticking.runs timeout.id = [] ∨
      ∃ tick, ticking.runs timeout.id = [(tick, timeout.task)] ∧ tick ≤ ticking.timer.ticks ∧
        (timeout.dueAt width < 2 ^ 64 → tick = timeout.dueAt width))
    (cancelled : ∀ id ∈ ticking.cancelled, ticking.runs id = [])
    (stopped : ticking.timer.stopped = false) : Told width ticking where
  pending := pending
  unknown := unknown
  ran := by
    intro timeout member
    rcases ran timeout member with notRun | ⟨tick, ran, reached, onTime⟩
    · exact .inl notRun
    · exact .inr ⟨tick, ran, reached, by simp [running], onTime⟩
  cancelled := cancelled
  dropped := by simp [running]
  stopped := by simp [running, stopped]
  ended := by simp [running]

theorem Told.running (told : Told width ticking) :
    ticking.timer.stopped = false ↔ ticking.stoppedAt = none := by
  simp [told.stopped]

/-- A task has not run, or it has run once and at its own tick. -/
theorem Told.ran_once (told : Told width ticking) {timeout : Timeout τ}
    (member : timeout ∈ ticking.accepted) : ticking.runs timeout.id = [] ∨
      ∃ tick, ticking.runs timeout.id = [(tick, timeout.task)] ∧ tick ≤ ticking.timer.ticks ∧
        (timeout.dueAt width < 2 ^ 64 → tick = timeout.dueAt width) := by
  rcases told.ran timeout member with notRun | ⟨tick, ran, reached, -, onTime⟩
  · exact .inl notRun
  · exact .inr ⟨tick, ran, reached, onTime⟩

theorem schedule_told {delay : Nanos} {task : τ} {id : Nat} {timer : Timer τ}
    (told : Told width ticking)
    (scheduled : ticking.timer.schedule delay task = .ok (id, timer)) :
    Told width { ticking with
      timer
      accepted := ticking.accepted ++ [⟨id, ticking.timer.ticks, delay, task⟩] } := by
  rcases Timer.schedule_iff.mp scheduled with ⟨running, -, sameId, same⟩
  have pushed : timer.statuses = ticking.timer.statuses.push .pending := by rw [same]
  have size : timer.statuses.size = ticking.timer.statuses.size + 1 := by
    rw [pushed, Array.size_push]
  have ticks : timer.ticks = ticking.timer.ticks := by rw [same]
  have notStopped := told.running.mp running
  have new := told.unknown id (Nat.le_of_eq sameId.symm)
  have oldOrNew {timeout : Timeout τ}
      (member : timeout ∈ ticking.accepted ++ [⟨id, ticking.timer.ticks, delay, task⟩]) :
      timeout ∈ ticking.accepted ∨ timeout.id = id := by
    rcases List.mem_append.mp member with old | last
    · exact .inl old
    · exact .inr (List.mem_singleton.mp last ▸ rfl)
  refine .of_running notStopped ?_ ?_ ?_ told.cancelled ?_
  · intro other
    rw [Timer.isPending_push other pushed, Bool.or_eq_true, told.pending, decide_eq_true_iff,
      size, ← sameId]
    change _ ∨ other = id ↔ other < id + 1 ∧ ticking.waiting other = true
    by_cases last : other = id
    · have waits := waiting_iff.mpr ⟨new.1, new.2, notStopped⟩
      rw [← last] at waits
      simp [last ▸ waits, last]
    · simp only [last, or_false]
      refine and_congr_left fun _ => ?_
      omega
  · intro other unknown
    change timer.statuses.size ≤ other at unknown
    exact told.unknown other (by omega)
  · intro timeout member
    rcases oldOrNew member with old | last
    · rw [ticks]
      exact told.ran_once old
    · exact .inl (last ▸ new.1)
  · rw [same]
    exact running

theorem cancel_told (told : Told width ticking) (id : Nat) :
    Told width { ticking with
      timer := (ticking.timer.cancel id).2
      cancelled := if (ticking.timer.cancel id).1 then ticking.cancelled ++ [id]
        else ticking.cancelled } := by
  cases pending : ticking.timer.isPending id with
  | false =>
      rw [Timer.cancel, Timer.settle_of_ended pending]
      exact told
  | true =>
      have won : (ticking.timer.cancel id).1 = true := (Timer.fst_settle _ _ _).trans pending
      have settles : Timer.Settles ticking.timer [id] (ticking.timer.cancel id).2 :=
        Timer.settle_settles ticking.timer id (by decide)
      have same : (ticking.timer.cancel id).2.ticks = ticking.timer.ticks := by
        rw [Timer.cancel, Timer.settle_eq]
      rcases (told.pending id).mp pending with ⟨known, waits⟩
      rcases waiting_iff.mp waits with ⟨notRun, -, notStopped⟩
      rw [won, if_pos rfl]
      refine .of_running notStopped ?_ ?_ ?_ ?_ ?_
      · intro other
        rw [settles.isPending, settles.size, Bool.and_eq_true, told.pending, waiting_iff,
          waiting_iff]
        change _ ↔ _ ∧ ticking.runs other = [] ∧ other ∉ ticking.cancelled ++ [id] ∧ _
        simp only [List.mem_append, List.mem_singleton, Bool.not_eq_true', List.contains_eq_mem,
          decide_eq_false_iff_not]
        grind
      · intro other unknown
        rw [settles.size] at unknown
        have before := told.unknown other unknown
        refine ⟨before.1, fun member => ?_⟩
        rcases List.mem_append.mp member with old | new
        · exact before.2 old
        · have last := List.mem_singleton.mp new
          omega
      · rw [same]
        exact fun timeout member => told.ran_once member
      · intro other member
        rcases List.mem_append.mp member with old | new
        · exact told.cancelled other old
        · exact List.mem_singleton.mp new ▸ notRun
      · exact settles.stopped.trans (told.running.mpr notStopped)

/-- A timeout whose turn has come runs its task with it, unless it was cancelled. -/
theorem expire_told {entry : Entry τ} {due : List (Entry τ)} (told : Told width ticking)
    (wound : Wound width ticking.accepted ticking.timer ticking.due)
    (front : ticking.due = entry :: due) :
    Told width { ticking with
      timer := (ticking.timer.expire entry.id).2
      due
      ran := if (ticking.timer.expire entry.id).1 then
          ticking.ran ++ [(ticking.timer.ticks, entry)]
        else ticking.ran } := by
  have notStopped : ticking.stoppedAt = none := by
    rw [← Option.not_isSome_iff_eq_none]
    intro stopped
    have none := (told.ended stopped).2
    rw [front] at none
    cases none
  cases pending : ticking.timer.isPending entry.id with
  | false =>
      rw [Timer.expire, Timer.settle_of_ended pending]
      exact .of_running notStopped told.pending told.unknown
        (fun timeout member => told.ran_once member) told.cancelled
        (told.running.mpr notStopped)
  | true =>
      have won : (ticking.timer.expire entry.id).1 = true := (Timer.fst_settle _ _ _).trans pending
      have settles : Timer.Settles ticking.timer [entry.id] (ticking.timer.expire entry.id).2 :=
        Timer.settle_settles ticking.timer entry.id (by decide)
      have same : (ticking.timer.expire entry.id).2.ticks = ticking.timer.ticks := by
        rw [Timer.expire, Timer.settle_eq]
      rcases (told.pending entry.id).mp pending with ⟨known, waits⟩
      rcases waiting_iff.mp waits with ⟨notRun, notCancelled, -⟩
      rw [won, if_pos rfl]
      let next : Ticking τ := { ticking with
        timer := (ticking.timer.expire entry.id).2
        due
        ran := ticking.ran ++ [(ticking.timer.ticks, entry)] }
      have runs_next (id : Nat) : next.runs id = ticking.runs id ++
          if entry.id = id then [(ticking.timer.ticks, entry.task)] else [] := by
        by_cases here : entry.id = id <;> simp [next, runs, here]
      have stays : ∀ id, ticking.timer.statuses.size ≤ id → entry.id ≠ id :=
        fun id unknown => Nat.ne_of_lt (Nat.lt_of_lt_of_le known unknown)
      change Told width next
      refine .of_running notStopped ?_ ?_ ?_ ?_ ?_
      · intro other
        rw [settles.isPending, settles.size, Bool.and_eq_true, told.pending, waiting_iff,
          waiting_iff, runs_next]
        change _ ↔ _ ∧ _ ∧ other ∉ ticking.cancelled ∧ ticking.stoppedAt = none
        simp only [List.contains_eq_mem, List.mem_singleton, Bool.not_eq_true',
          decide_eq_false_iff_not, List.append_eq_nil_iff]
        grind
      · intro other unknown
        rw [settles.size] at unknown
        rw [runs_next, if_neg (stays other unknown), List.append_nil]
        exact told.unknown other unknown
      · intro timeout member
        rw [runs_next]
        by_cases here : entry.id = timeout.id
        · have place : entry ∈ ticking.timer.entries ++ ticking.due := by simp [front]
          have own := wound.entry_eq member place here
          rw [if_pos here, ← here, notRun, ← own]
          refine .inr ⟨ticking.timer.ticks, rfl, Nat.le_of_eq same.symm, fun exact => ?_⟩
          refine (wound.now timeout member exact ?_).symm
          rw [own, front]
          exact List.mem_cons_self
        · rw [if_neg here, List.append_nil, same]
          exact told.ran_once member
      · intro other member
        have different : entry.id ≠ other := fun here => notCancelled (here ▸ member)
        rw [runs_next, if_neg different, List.append_nil]
        exact told.cancelled other member
      · exact settles.stopped.trans (told.running.mpr notStopped)

theorem collectDue_told (told : Told width ticking)
    (wound : Wound width ticking.accepted ticking.timer []) :
    Told width { ticking with
      timer := ticking.timer.collectDue.2
      due := ticking.timer.collectDue.1 } := by
  refine ⟨told.pending, told.unknown, ?_, told.cancelled, told.dropped, told.stopped, ?_⟩
  · intro timeout member
    rcases told.ran timeout member with notRun | ⟨tick, ran, reached, rest⟩
    · exact .inl notRun
    · exact .inr ⟨tick, ran, Nat.le_succ_of_le reached, rest⟩
  · intro stopped
    rcases Timer.collectDue_perm wound.wheel with ⟨ended, places, -⟩
    rw [(told.ended stopped).1] at places
    have parts := List.append_eq_nil_iff.mp (List.append_eq_nil_iff.mp places.symm.eq_nil).1
    exact ⟨parts.2, parts.1⟩

theorem stop_told (told : Told width ticking) (idle : ticking.due = [])
    (wound : Wound width ticking.accepted ticking.timer [])
    (running : ticking.timer.stopped = false) :
    Told width { ticking with
      timer := ticking.timer.stop.2
      stoppedAt := some ticking.timer.ticks } := by
  rcases stop_wound wound running with ⟨kept, noEntries, nonePending⟩
  have size : ticking.timer.stop.2.statuses.size = ticking.timer.statuses.size := by
    simpa using congrArg List.length (kept.ids.symm.trans wound.ids)
  have same := Timer.stop_eq running
  have ticks : ticking.timer.stop.2.ticks = ticking.timer.ticks := by rw [same]
  have notStopped := told.running.mp running
  refine ⟨?_, ?_, ?_, told.cancelled, ?_, ?_, fun _ => ⟨noEntries, idle⟩⟩
  · intro id
    rw [nonePending, waiting_iff]
    simp
  · intro id unknown
    rw [size] at unknown
    exact told.unknown id unknown
  · intro timeout member
    rw [ticks]
    rcases told.ran timeout member with notRun | ⟨tick, ran, reached, -, onTime⟩
    · exact .inl notRun
    · refine .inr ⟨tick, ran, reached, ?_, onTime⟩
      rintro last ⟨⟩
      exact reached
  · rintro timeout member last ⟨⟩ notRun notCancelled exact
    -- What is dropped was pending on the wheel, where its tick had not come.
    have waits : ticking.waiting timeout.id = true :=
      waiting_iff.mpr ⟨notRun, notCancelled, notStopped⟩
    have pending := (told.pending timeout.id).mpr ⟨wound.id_lt member, waits⟩
    have place := wound.present timeout member pending
    rw [List.append_nil] at place
    exact wound.ahead timeout member exact place
  · rw [same]
    rfl

end History

/-! ### Turns -/

structure Sound (width : Nanos) (maxPending : Nat) (ticking : Ticking τ) : Prop where
  wound : Wound width ticking.accepted ticking.timer ticking.due
  told : Told width ticking
  counted : ticking.timer.Counted
  limit : ticking.timer.maxPending = maxPending
  bounded : ticking.timer.pending ≤ maxPending

section Turns

variable {width : Nanos} {maxPending : Nat} {ticking next : Ticking τ}

theorem start_sound (tick : Nanos) (wheelSize maxPending : Nat) :
    (start tick wheelSize maxPending : Ticking τ).Sound (max tick (ofMillis 1)) maxPending :=
  ⟨wound_start _ _ _, told_start _ _ _, Timer.counted_start _ _ _, rfl, Nat.zero_le _⟩

/-- Settling timeouts only ever lowers the number of pending ones. -/
theorem Sound.settle (sound : ticking.Sound width maxPending) (id : Nat) {status : TimeoutStatus}
    (settled : status ≠ .pending) :
    (ticking.timer.settle id status).2.Counted ∧
      (ticking.timer.settle id status).2.maxPending = maxPending ∧
      (ticking.timer.settle id status).2.pending ≤ maxPending := by
  have counts := Timer.counted_settle sound.counted id settled
  refine ⟨counts.1, ?_, ?_⟩
  · rw [Timer.settle_eq]
    exact sound.limit
  · have bounded := sound.bounded
    omega

theorem take?_sound {turn : Turn τ} (sound : ticking.Sound width maxPending)
    (taken : ticking.take? turn = some next) : next.Sound width maxPending := by
  cases turn with
  | newTimeout delay task =>
      rw [take?] at taken
      split at taken
      next =>
        cases taken
        exact sound
      next id timer scheduled =>
        cases taken
        have counts := Timer.counted_schedule sound.counted scheduled
        have same : timer.maxPending = ticking.timer.maxPending := by
          rcases Timer.schedule_iff.mp scheduled with ⟨-, -, -, rfl⟩
          rfl
        exact ⟨schedule_wound sound.wound scheduled, schedule_told sound.told scheduled, counts.1,
          same.trans sound.limit, sound.limit ▸ counts.2⟩
  | cancel id =>
      cases taken
      have settled : TimeoutStatus.cancelled ≠ .pending := by decide
      rcases sound.settle id settled with ⟨counted, limit, bounded⟩
      exact ⟨sound.wound.settle settled (fun _ member => member) fun _ member _ => member,
        cancel_told sound.told id, counted, limit, bounded⟩
  | advance =>
      rw [take?] at taken
      split at taken
      next idle =>
        cases taken
        have wound := sound.wound
        rw [List.isEmpty_iff.mp idle] at wound
        exact ⟨collectDue_wound wound, collectDue_told sound.told wound, sound.counted,
          sound.limit, sound.bounded⟩
      next => cases taken
  | runNext =>
      rw [take?] at taken
      split at taken
      next => cases taken
      next entry due front =>
        cases taken
        have settled : TimeoutStatus.expired ≠ .pending := by decide
        rcases sound.settle entry.id settled with ⟨counted, limit, bounded⟩
        refine ⟨sound.wound.settle settled ?_ ?_, expire_told sound.told sound.wound front, counted,
          limit, bounded⟩
        · intro other member
          exact front ▸ List.mem_cons_of_mem entry member
        · intro other member different
          rw [front] at member
          exact (List.mem_cons.mp member).resolve_left fun same => different (same ▸ rfl)
  | stop =>
      rw [take?] at taken
      split at taken
      next idle =>
        cases taken
        have idle := List.isEmpty_iff.mp idle
        have wound := sound.wound
        rw [idle] at wound
        cases stopped : ticking.timer.stopped with
        | true =>
            -- A timer that is stopped again stays as it is.
            have before : ticking.stoppedAt.isSome = true := sound.told.stopped ▸ stopped
            rw [Timer.stop_of_stopped stopped, Option.or_of_isSome before]
            exact sound
        | false =>
            have counts := Timer.counted_stop sound.counted
            have same := Timer.stop_eq stopped
            have first : ticking.stoppedAt = none := by
              simpa [stopped] using sound.told.stopped.symm
            rw [first, Option.none_or]
            have bounded := sound.bounded
            refine ⟨?_, stop_told sound.told idle wound stopped, counts.1, ?_, ?_⟩
            · change Wound width ticking.accepted ticking.timer.stop.2 ticking.due
              rw [idle]
              exact (stop_wound wound stopped).1
            · rw [same]
              exact sound.limit
            · change ticking.timer.stop.2.pending ≤ maxPending
              omega
      next => cases taken

theorem takeAll?_sound {turns : List (Turn τ)} (sound : ticking.Sound width maxPending)
    (taken : ticking.takeAll? turns = some next) : next.Sound width maxPending := by
  induction turns generalizing ticking with
  | nil =>
      cases taken
      exact sound
  | cons turn turns induction =>
      rcases Option.bind_eq_some_iff.mp taken with ⟨middle, first, rest⟩
      exact induction (take?_sound sound first) rest

/-! ### Guarantees -/

theorem Sound.onTime (sound : ticking.Sound width maxPending) (idle : ticking.due = [])
    {timeout : Timeout τ} (member : timeout ∈ ticking.accepted)
    (exact : timeout.dueAt width < 2 ^ 64) :
    ticking.runs timeout.id ≠ [] ↔ timeout.dueAt width ≤ ticking.timer.ticks ∧
      timeout.id ∉ ticking.cancelled ∧ ∀ tick ∈ ticking.stoppedAt, timeout.dueAt width ≤ tick := by
  constructor
  · intro ran
    rcases sound.told.ran timeout member with notRun | ⟨tick, -, reached, before, own⟩
    · exact absurd notRun ran
    · rw [← own exact]
      exact ⟨reached, fun gone => ran (sound.told.cancelled _ gone), before⟩
  · rintro ⟨reached, notCancelled, before⟩ notRun
    cases stopped : ticking.stoppedAt with
    | none =>
        -- The timeout would still be on the wheel, ahead of the current tick.
        have waits := waiting_iff.mpr ⟨notRun, notCancelled, stopped⟩
        have pending := (sound.told.pending timeout.id).mpr ⟨sound.wound.id_lt member, waits⟩
        have place := sound.wound.present timeout member pending
        rw [idle, List.append_nil] at place
        have ahead := sound.wound.ahead timeout member exact place
        omega
    | some last =>
        have after := sound.told.dropped timeout member last stopped notRun notCancelled exact
        have within := before last stopped
        omega

theorem Sound.pending (sound : ticking.Sound width maxPending) :
    ticking.timer.pending = ticking.accepted.countP fun timeout => ticking.waiting timeout.id := by
  rw [sound.counted, ← sound.wound.ids, List.countP_map]
  apply List.countP_congr
  intro timeout member
  rw [Function.comp_apply, sound.told.pending]
  exact and_iff_right (sound.wound.id_lt member)

theorem Sound.mem_accepted_iff (sound : ticking.Sound width maxPending) (id : Nat) :
    (∃ timeout ∈ ticking.accepted, timeout.id = id) ↔ id < ticking.timer.statuses.size := by
  rw [← List.mem_map, sound.wound.ids, List.mem_range]

theorem Sound.stop (sound : ticking.Sound width maxPending) (idle : ticking.due = []) :
    ticking.timer.stop.1 = ticking.timer.pending ∧ ticking.timer.stop.2.pending = 0 := by
  have counts := Timer.counted_stop sound.counted
  have none : ticking.timer.stop.2.pending = 0 := by
    cases stopped : ticking.timer.stopped with
    | true =>
        have before : ticking.stoppedAt.isSome = true := sound.told.stopped ▸ stopped
        rw [Timer.stop_of_stopped stopped, sound.pending, List.countP_eq_zero]
        intro timeout _ waits
        rw [(waiting_iff.mp waits).2.2] at before
        cases before
    | false =>
        have wound := sound.wound
        rw [idle] at wound
        rw [counts.1, List.countP_eq_zero]
        intro id _
        simp [(stop_wound wound stopped).2.2 id]
  omega

/-- In any sequence of turns every task runs exactly once, at its own tick, unless a cancellation
or a stop comes first, and the number of pending timeouts is right throughout. -/
theorem takeAll?_tickExact {tick : Nanos} {wheelSize maxPending : Nat} {turns : List (Turn τ)}
    {ticking : Ticking τ}
    (taken : (start tick wheelSize maxPending).takeAll? turns = some ticking) :
    ticking.TickExact (max tick (ofMillis 1)) maxPending := by
  have sound := takeAll?_sound (start_sound tick wheelSize maxPending) taken
  refine ⟨?_, ?_, fun idle timeout member exact => sound.onTime idle member exact,
    sound.told.cancelled, ?_, sound.pending, sound.bounded, sound.stop, ?_⟩
  · rw [sound.wound.ids]
    exact List.nodup_range
  · intro timeout member exact
    rcases sound.told.ran timeout member with notRun | ⟨tick, ran, -, -, own⟩
    · exact .inl notRun
    · exact .inr (own exact ▸ ran)
  · intro id
    have won : (ticking.timer.cancel id).1 = ticking.timer.isPending id := Timer.fst_settle _ _ _
    rw [won, sound.told.pending, sound.mem_accepted_iff]
  · intro stopped
    have ended : ticking.timer.stopped = true := sound.told.stopped.trans stopped
    refine ⟨by rw [Timer.stop, if_pos ended], fun delay task => ?_⟩
    rw [Timer.schedule, if_pos ended]

/-- The last task waits through more than two turns of its wheel. -/
def retryTurns : List (Turn String) :=
  [.newTimeout 3000000 "reconnect", .newTimeout 1 "retry", .newTimeout 1 "refused", .cancel 0,
   .advance, .runNext, .newTimeout 4000001 "retry again", .advance, .advance, .advance, .advance,
   .advance, .runNext, .stop]

theorem takeAll?_tickExact_retryTurns :
    ∃ ticking, (start 0 2 2).takeAll? retryTurns = some ticking ∧
      ticking.TickExact (max 0 (ofMillis 1)) 2 ∧
      [0, 1, 2].map ticking.runs = [[], [(1, "retry")], [(6, "retry again")]] := by
  have ran : ((start 0 2 2).takeAll? retryTurns).map (fun ticking => [0, 1, 2].map ticking.runs) =
      some [[], [(1, "retry")], [(6, "retry again")]] := rfl
  rcases Option.map_eq_some_iff.mp ran with ⟨ticking, taken, ran⟩
  exact ⟨ticking, taken, takeAll?_tickExact taken, ran⟩

end Turns

end Telemetry.Delivery.Ticking
