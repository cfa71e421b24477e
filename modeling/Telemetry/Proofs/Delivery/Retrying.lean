import Telemetry.Proofs.Delivery.Ledger

namespace Telemetry.Delivery

open Message

/-! How often a sender calls for its requests. Every step of a sender moves requests from one place
to another and tells what happened to them, and so the life of each request stays one that a request
can have: it is called for a bounded number of times, always after the call before has failed. -/

namespace Ledger

/-! ### Steps -/

variable {ledger next : Ledger} {maxRetries : Nat} {moving : List Placed}

theorem start_sound (capacity : Nat) (retryDelay : Nanos) (maxRetries : Nat) (tick : Nanos)
    (wheelSize maxPending : Nat) :
    (start capacity retryDelay maxRetries tick wheelSize maxPending).Sound maxRetries [] where
  entering := rfl
  unsent := nofun
  queue := rfl
  calling := rfl
  claimed := rfl
  consistent := Timer.consistent_start tick wheelSize maxPending
  limit := rfl
  flushed := rfl
  dropped := rfl
  orderly := by
    have empty : (start capacity retryDelay maxRetries tick wheelSize maxPending).placed = [] := by
      simp [start, Sender.start, placed, place, waiting, Timer.entries_start]
    rw [empty]
    exact .start maxRetries

theorem Sound.setShutdown (sound : ledger.Sound maxRetries moving) (shutdown : Bool) :
    (ledger.setShutdown shutdown).Sound maxRetries moving :=
  ⟨sound.entering, sound.unsent, sound.queue, sound.calling, sound.claimed, sound.consistent,
    sound.limit, sound.flushed, sound.dropped, sound.orderly⟩

/-- Timeouts leave the timer, and their requests are on their way. -/
theorem Sound.take_off (sound : ledger.Sound maxRetries moving) {timer : Timer Job}
    {due : List (Entry Job)} {gone : List Placed} (consistent : timer.Consistent due)
    (places : (waiting ledger.owner (ledger.sender.timer.entries ++ ledger.sender.due)).Perm
      (waiting ledger.owner (timer.entries ++ due) ++ gone)) :
    Sound maxRetries (gone ++ moving)
      { ledger with sender := { ledger.sender with timer, due } } := by
  refine ⟨sound.entering, sound.unsent, sound.queue, sound.calling, sound.claimed, consistent,
    sound.limit, sound.flushed, sound.dropped, sound.orderly.of_perm ?_⟩
  -- In which order the places are told does not matter, so the requests in them are counted.
  rw [List.perm_iff_count] at places ⊢
  intro place
  have same := places place
  simp only [placed, List.count_append] at same ⊢
  omega

/-- Requests that are on their way are forgotten. -/
theorem Sound.forget {gone : List Placed} (sound : ledger.Sound maxRetries (gone ++ moving)) :
    ledger.Sound maxRetries moving := by
  refine { sound with orderly := sound.orderly.lose (?_ : List.Perm _ (_ ++ gone)) }
  rw [List.append_assoc]
  exact List.perm_append_comm

/-- A change of the timer that adds no request to it. -/
theorem Sound.of_timer (sound : ledger.Sound maxRetries moving) {timer : Timer Job}
    {due : List (Entry Job)} {gone : List Placed} (consistent : timer.Consistent due)
    (places : (waiting ledger.owner (ledger.sender.timer.entries ++ ledger.sender.due)).Perm
      (waiting ledger.owner (timer.entries ++ due) ++ gone)) :
    Sound maxRetries moving { ledger with sender := { ledger.sender with timer, due } } :=
  (sound.take_off consistent places).forget

/-- A change of the claimed task that is about the same request. -/
theorem Sound.of_claimed (sound : ledger.Sound maxRetries moving) {claimed : Option Job}
    (same : ledger.claimed.map Prod.snd = claimed.bind Job.request?) :
    Sound maxRetries moving { ledger with sender := { ledger.sender with claimed } } :=
  ⟨sound.entering, sound.unsent, sound.queue, sound.calling, same, sound.consistent, sound.limit,
    sound.flushed, sound.dropped, sound.orderly⟩

theorem number_sound (sound : ledger.Sound maxRetries []) {frame : Frame} {sender : Sender}
    (done : ledger.sender.move? (.number frame) = some sender) :
    (ledger.moved sender (.number frame)).Sound maxRetries [] := by
  cases done
  refine ⟨?_, ?_, sound.queue, sound.calling, sound.claimed, sound.consistent, sound.limit, ?_, ?_,
    ?_⟩
  · simp [moved, sound.entering]
  · intro item member
    rcases List.mem_append.mp member with old | new
    · exact sound.unsent item old
    · exact List.mem_singleton.mp new ▸ rfl
  · simp [moved, sound.flushed]
  · simp [moved, sound.dropped]
  · refine (sound.orderly.enter ⟨ledger.sender.channel.nextId, frame, 0⟩).of_perm ?_
    rw [List.perm_iff_count]
    intro place
    simp only [moved, placed, place_append, place_cons, place_nil, List.count_append,
      List.count_cons, List.count_nil]
    omega

/-- A request on its way to the queue gets there or is dropped. -/
theorem offer_sound {item : Nat × Request} {standing : Standing}
    (sound : ledger.Sound maxRetries [⟨item.1, item.2, standing⟩])
    (queues : standing.Goes maxRetries .queued (.queued item.2.attempt))
    (drops : standing.Goes maxRetries .dropped .dropped) :
    (ledger.offer item { ledger.sender with
      channel := ledger.sender.channel.retry item.2 }).Sound maxRetries [] := by
  rcases ledger.sender.channel.retry_eq item.2 with dropped | queued
  · rw [dropped, offer, if_neg (by simp [RequestChannel.drop])]
    refine ⟨sound.entering, sound.unsent, sound.queue, sound.calling, sound.claimed,
      sound.consistent, sound.limit, ?_, ?_, ?_⟩
    · simp [RequestChannel.drop, sound.flushed]
    · simp [RequestChannel.drop, sound.dropped]
    · exact sound.orderly.drop (by simpa using drops)
  · rw [queued, offer, if_pos (by simp)]
    refine ⟨sound.entering, sound.unsent, ?_, sound.calling, sound.claimed,
      sound.consistent, sound.limit, ?_, ?_, ?_⟩
    · simp [sound.queue]
    · simp [sound.flushed]
    · simp [sound.dropped]
    · have here : Orderly maxRetries ledger.sender.assigned (ledger.log ++ [(item.1, .queued)])
          (⟨item.1, item.2, .queued item.2.attempt⟩ :: ledger.placed) :=
        sound.orderly.go [.queued] (fun life lives => lives.snoc queues) trivial rfl (by simp)
      refine here.of_perm ?_
      rw [List.perm_iff_count]
      intro place
      simp only [placed, place_append, place_cons, place_nil, List.count_append,
        List.count_cons, List.count_nil]
      omega

theorem submit_sound (sound : ledger.Sound maxRetries []) {position : Nat} {sender : Sender}
    (done : ledger.sender.move? (.submit position) = some sender) :
    (ledger.moved sender (.submit position)).Sound maxRetries [] := by
  rcases Option.map_eq_some_iff.mp done with ⟨request, found, rfl⟩
  rw [← sound.entering, List.getElem?_map] at found
  rcases Option.map_eq_some_iff.mp found with ⟨item, here, rfl⟩
  rw [moved, here]
  let middle : Ledger := { ledger with
    sender := { ledger.sender with entering := ledger.sender.entering.eraseIdx position }
    entering := ledger.entering.eraseIdx position }
  have places : (place (fun _ => .entering) ledger.entering).Perm
      (⟨item.1, item.2, .entering⟩ ::
        place (fun _ => .entering) (ledger.entering.eraseIdx position)) := by
    rcases List.getElem?_eq_some_iff.mp here with ⟨inside, rfl⟩
    exact ((List.getElem_cons_eraseIdx_perm inside).map _).symm
  have held : middle.Sound maxRetries [⟨item.1, item.2, .entering⟩] := by
    refine ⟨?_, fun item member => sound.unsent item (List.mem_of_mem_eraseIdx member),
      sound.queue, sound.calling, sound.claimed, sound.consistent, sound.limit, sound.flushed,
      sound.dropped, sound.orderly.of_perm ?_⟩
    · rw [← List.eraseIdx_map, sound.entering]
    · rw [List.perm_iff_count] at places ⊢
      intro place
      have same := places place
      simp only [middle, placed, List.count_append, List.count_cons, List.count_nil] at same ⊢
      omega
  have first := sound.unsent item (List.mem_of_getElem? here)
  exact offer_sound held (first ▸ .accepted) .refused

theorem Sound.calling_eq_none (sound : ledger.Sound maxRetries moving)
    (phase : ledger.sender.channel.phase = .idle) : ledger.calling = none := by
  have calling := sound.calling
  rw [Sender.inFlight?, phase] at calling
  exact Option.map_eq_none_iff.mp calling

theorem Sound.calling_eq_some (sound : ledger.Sound maxRetries moving) {request : Request}
    (inFlight : ledger.sender.inFlight? = some request) :
    ∃ number, ledger.calling = some (number, request) := by
  rcases Option.map_eq_some_iff.mp (sound.calling.trans inFlight) with ⟨⟨number, _⟩, here, rfl⟩
  exact ⟨number, here⟩

theorem take_sound (sound : ledger.Sound maxRetries []) {sender : Sender}
    (done : ledger.sender.move? .take = some sender) :
    (ledger.moved sender .take).Sound maxRetries [] := by
  rcases Option.map_eq_some_iff.mp done with ⟨⟨channel, timer⟩, stepped, rfl⟩
  have reacts := RequestChannel.reacts_of_step? stepped
  generalize outcome : (channel, timer) = result at reacts
  cases reacts with
  | @take request requests phase running queued =>
      cases outcome
      rcases List.map_eq_cons_iff.mp (sound.queue.trans queued) with
        ⟨item, rest, front, rfl, rfl⟩
      have idle := sound.calling_eq_none phase
      rw [moved, front]
      change Sound maxRetries [] { ledger with
        sender := _
        queue := rest
        calling := some item
        log := ledger.log ++ [(item.1, .called item.2.id item.2.frame)] }
      refine ⟨sound.entering, sound.unsent, rfl, rfl, sound.claimed, sound.consistent, sound.limit,
        ?_, ?_, ?_⟩
      · simp [sound.flushed]
      · simp [sound.dropped]
      · have before : Orderly maxRetries ledger.sender.assigned ledger.log
            (⟨item.1, item.2, .queued item.2.attempt⟩ :: { ledger with queue := rest }.placed) := by
          refine sound.orderly.of_perm ?_
          rw [List.perm_iff_count]
          intro place
          simp only [placed, front, place_cons, List.nil_append, List.count_append,
            List.count_cons]
          omega
        have after := before.go [.called item.2.id item.2.frame]
          (fun life lives => lives.snoc (.called _ _)) trivial rfl (by simp [Request.numbered])
        refine after.of_perm ?_
        rw [List.perm_iff_count]
        intro place
        simp only [placed, idle, Option.toList_none, Option.toList_some, place_cons, place_nil,
          List.nil_append, List.count_append, List.count_cons, List.count_nil]
        omega

/-- A worker that ends drops the request in flight and those in the queue. -/
theorem finish_sound (sound : ledger.Sound maxRetries []) {channel : RequestChannel}
    (finished : channel = { ledger.sender.channel with
      queue := []
      phase := .finished
      dropped := ledger.sender.channel.dropped + ledger.calling.toList.length +
        ledger.sender.channel.queue.length }) :
    (ledger.moved { ledger.sender with channel } .noticeShutdown).Sound maxRetries [] := by
  let gone := place (fun request => .calling request.attempt) ledger.calling.toList ++
    place (fun request => .queued request.attempt) ledger.queue
  have dropped : (gone.map fun place => (place.number, Happening.dropped)) =
      (ledger.calling.toList ++ ledger.queue).map fun item => (item.1, .dropped) := by
    rw [List.map_append, map_place, map_place, ← List.map_append]
  cases finished
  refine ⟨sound.entering, sound.unsent, rfl, rfl, sound.claimed, sound.consistent, sound.limit,
    ?_, ?_, ?_⟩
  · simp [moved, sound.flushed, Function.comp_def, List.map_const', List.count_replicate]
  · simp [moved, sound.dropped, ← sound.queue, Function.comp_def, List.map_const', Nat.add_assoc]
  · have before : Orderly maxRetries ledger.sender.assigned ledger.log
        (gone ++ { ledger with queue := [], calling := none }.placed) := by
      refine sound.orderly.of_perm ?_
      rw [List.perm_iff_count]
      intro place
      simp only [gone, placed, Option.toList_none, place_nil, List.nil_append,
        List.count_append, List.count_nil]
      omega
    have after := before.drop fun place member => by
      rcases List.mem_append.mp member with calling | queued
      · rcases List.mem_map.mp calling with ⟨item, -, rfl⟩
        exact .interrupted
      · rcases List.mem_map.mp queued with ⟨item, -, rfl⟩
        exact .drained
    rwa [dropped] at after

theorem noticeShutdown_sound (sound : ledger.Sound maxRetries []) {sender : Sender}
    (done : ledger.sender.move? .noticeShutdown = some sender) :
    (ledger.moved sender .noticeShutdown).Sound maxRetries [] := by
  rcases Option.map_eq_some_iff.mp done with ⟨⟨channel, timer⟩, stepped, rfl⟩
  have reacts := RequestChannel.reacts_of_step? stepped
  generalize outcome : (channel, timer) = result at reacts
  cases reacts with
  | ended phase shut =>
      cases outcome
      refine finish_sound sound ?_
      rw [sound.calling_eq_none phase]
      rfl
  | @interrupted request phase shut =>
      cases outcome
      rcases sound.calling_eq_some (Sender.inFlight?_eq_some.mpr phase) with ⟨number, calling⟩
      refine finish_sound sound ?_
      rw [calling]
      rfl

/-- A request whose timeout came due is claimed. -/
theorem claimed_sound {number timeout : Nat} {request : Request} {claimed : Option Job}
    (sound : ledger.Sound maxRetries [⟨number, request, .waiting request.attempt timeout⟩])
    (idle : ledger.claimed = none) (claims : claimed = some (.retry request)) :
    Sound maxRetries [] { ledger with
      sender := { ledger.sender with claimed }
      claimed := some (number, request)
      log := ledger.log ++ [(number, .due timeout)] } := by
  have after : Orderly maxRetries ledger.sender.assigned (ledger.log ++ [(number, .due timeout)])
      (⟨number, request, .due request.attempt⟩ :: ledger.placed) :=
    sound.orderly.go [.due timeout] (fun life lives => lives.snoc .due) trivial rfl (by simp)
  refine ⟨sound.entering, sound.unsent, sound.queue, sound.calling, ?_, sound.consistent,
    sound.limit, ?_, ?_, after.of_perm ?_⟩
  · rw [claims]
    rfl
  · simp [sound.flushed]
  · simp [sound.dropped]
  · rw [List.perm_iff_count]
    intro place
    simp only [placed, idle, Option.toList_none, Option.toList_some, place_cons, place_nil,
      List.nil_append, List.count_append, List.count_cons, List.count_nil]
    omega

theorem claim_sound (sound : ledger.Sound maxRetries []) {sender : Sender}
    (done : ledger.sender.move? .claim = some sender) :
    (ledger.moved sender .claim).Sound maxRetries [] := by
  rw [Sender.move?] at done
  split at done
  next entry due front idle =>
    rcases Option.some.inj done with rfl
    have consistent := sound.consistent
    have claimed := sound.claimed
    rw [front] at consistent
    rw [idle] at claimed
    have none : ledger.claimed = none := Option.map_eq_none_iff.mp claimed
    have after := (Timer.expire_carries (fun _ => true) consistent).1.consistent
    have places : (waiting ledger.owner (ledger.sender.timer.entries ++ ledger.sender.due)).Perm
        (waiting ledger.owner ((ledger.sender.timer.expire entry.id).2.entries ++ due) ++
          waiting ledger.owner [entry]) := by
      rw [front]
      exact waiting_expire ledger.owner ledger.sender.timer entry due
    -- A retry that was pending is on its way to the queue; what else came due is forgotten.
    rw [moved]
    split
    next first others request isFront isClaimed =>
      rw [front] at isFront
      cases isFront
      rcases Option.ite_none_right_eq_some.mp isClaimed with ⟨-, same⟩
      have own : waiting ledger.owner [entry] =
          [⟨ledger.owner entry.id, request, .waiting request.attempt entry.id⟩] := by
        simp [waiting, Option.some.inj same, Job.request?]
      rw [own] at places
      exact claimed_sound (sound.take_off after places) none isClaimed
    next other =>
      refine (sound.of_timer after places).of_claimed
        (none ▸ (Option.bind_eq_none_iff.mpr fun job claimed => ?_).symm)
      cases job with
      | retry request => exact absurd claimed (other entry due request front)
      | reconnect _ | unrelated => rfl
  next => cases done

theorem run_sound (sound : ledger.Sound maxRetries []) {sender : Sender}
    (done : ledger.sender.move? .run = some sender) :
    (ledger.moved sender .run).Sound maxRetries [] := by
  rcases Option.map_eq_some_iff.mp done with ⟨job, claimed, rfl⟩
  have kept := sound.claimed
  rw [claimed] at kept
  cases job with
  | retry request =>
      rcases Option.map_eq_some_iff.mp kept with ⟨item, here, rfl⟩
      rw [moved, here]
      let middle : Ledger := { ledger with
        sender := { ledger.sender with claimed := none }
        claimed := none }
      have held : middle.Sound maxRetries [⟨item.1, item.2, .due item.2.attempt⟩] := by
        refine ⟨sound.entering, sound.unsent, sound.queue, sound.calling, rfl, sound.consistent,
          sound.limit, sound.flushed, sound.dropped, sound.orderly.of_perm ?_⟩
        rw [List.perm_iff_count]
        intro place
        simp only [middle, placed, here, Option.toList_none, Option.toList_some, place_cons,
          place_nil, List.nil_append, List.count_append, List.count_cons, List.count_nil]
        omega
      exact offer_sound held .requeued .turnedAway
  | reconnect _ | unrelated =>
      have none : ledger.claimed = none := Option.map_eq_none_iff.mp kept
      rw [moved]
      split
      next item here => simp [none] at here
      next => exact sound.of_claimed (none ▸ rfl)

theorem move?_sound (sound : ledger.Sound maxRetries []) {move : Sender.Move} {sender : Sender}
    (done : ledger.sender.move? move = some sender) :
    (ledger.moved sender move).Sound maxRetries [] := by
  have consistent := sound.consistent
  cases move with
  | number frame => exact number_sound sound done
  | submit position => exact submit_sound sound done
  | take => exact take_sound sound done
  | noticeShutdown => exact noticeShutdown_sound sound done
  | claim => exact claim_sound sound done
  | run => exact run_sound sound done
  | shutdown =>
      rcases Option.some.inj done with rfl
      exact sound.setShutdown true
  | occupy delay =>
      rw [Sender.move?] at done
      split at done
      next id timer scheduled =>
        rcases Option.some.inj done with rfl
        have after := (Timer.schedule_carries (fun _ => true) consistent scheduled).1.consistent
        rcases Timer.schedule_eq_ok consistent.wheel scheduled with ⟨-, -, -, -, -, deadline, new⟩
        refine sound.of_timer after (?_ : List.Perm _ (_ ++ []))
        rw [List.append_nil]
        exact (waiting_perm ledger.owner (new.append_right ledger.sender.due)).symm
      next =>
        rcases Option.some.inj done with rfl
        exact sound
  | cancel id =>
      rcases Option.some.inj done with rfl
      have settles : Timer.Settles ledger.sender.timer [id] (ledger.sender.timer.cancel id).2 :=
        Timer.settle_settles _ _ (by decide)
      have after : (ledger.sender.timer.cancel id).2.Consistent ledger.sender.due :=
        (settles.carries consistent : Timer.Carries (fun _ => true) _ _ _ _).consistent
      refine sound.of_timer after (?_ : List.Perm _ (_ ++ []))
      rw [settles.entries, List.append_nil]
  | collect =>
      rcases Option.some.inj done with rfl
      have after := (Timer.collectDue_carries (fun _ => true) consistent).1.consistent
      rcases Timer.collectDue_places consistent.wheel ledger.sender.due with ⟨ended, places, -⟩
      refine sound.of_timer after (?_ : List.Perm _ (_ ++ waiting ledger.owner ended))
      rw [← waiting_append]
      exact waiting_perm ledger.owner places
  | stopTimer =>
      rcases Option.some.inj done with rfl
      have after := (Timer.stop_carries (fun _ => true) consistent).1.consistent
      rcases Timer.stop_places ledger.sender.timer ledger.sender.due with ⟨cancelled, places⟩
      refine sound.of_timer after (?_ : List.Perm _ (_ ++ waiting ledger.owner cancelled))
      rw [← waiting_append]
      exact waiting_perm ledger.owner places

/-! ### Answers -/

theorem Sound.before_answer (sound : ledger.Sound maxRetries []) {number : Nat}
    {request : Request} (calling : ledger.calling = some (number, request)) :
    Orderly maxRetries ledger.sender.assigned ledger.log
      (⟨number, request, .calling request.attempt⟩ :: { ledger with calling := none }.placed) := by
  refine sound.orderly.of_perm ?_
  rw [List.perm_iff_count]
  intro place
  simp only [placed, calling, Option.toList_none, Option.toList_some, place_cons, place_nil,
    List.nil_append, List.count_append, List.count_cons, List.count_nil]
  omega

theorem acknowledged_sound (sound : ledger.Sound maxRetries []) {answer : Option Ack}
    (success : answer.any Ack.success) {sender : Sender}
    (done : ledger.sender.event? .acknowledged = some sender) :
    (ledger.answered answer sender).Sound maxRetries [] := by
  rcases Option.map_eq_some_iff.mp done with ⟨⟨channel, timer⟩, stepped, rfl⟩
  have reacts := RequestChannel.reacts_of_step? stepped
  generalize outcome : (channel, timer) = result at reacts
  cases reacts with
  | @acknowledged request phase running =>
      cases outcome
      rcases sound.calling_eq_some (Sender.inFlight?_eq_some.mpr phase) with ⟨number, calling⟩
      rw [answered, calling]
      dsimp only
      rw [if_pos success]
      refine ⟨sound.entering, sound.unsent, sound.queue, rfl, sound.claimed, sound.consistent,
        sound.limit, ?_, ?_, ?_⟩
      · simp [sound.flushed]
      · simp [sound.dropped]
      · have after := (sound.before_answer calling).go [.acknowledged]
          (fun life lives => lives.snoc .acknowledged) trivial rfl (by simp)
        exact after.lose (List.perm_append_singleton _ _).symm

/-- A failed request is given up. -/
theorem givenUp_sound (sound : ledger.Sound maxRetries []) {number : Nat} {request : Request}
    (calling : ledger.calling = some (number, request)) :
    Sound maxRetries [] { ledger with
      sender := { ledger.sender with
        channel := RequestChannel.drop { ledger.sender.channel with phase := .idle } }
      calling := none
      log := ledger.log ++ [(number, .failed), (number, .dropped)] } := by
  have after := (sound.before_answer calling).go [.failed, .dropped]
    (fun life lives => lives.twice .failed .givenUp) trivial rfl (by simp)
  refine ⟨sound.entering, sound.unsent, sound.queue, rfl, sound.claimed, sound.consistent,
    sound.limit, ?_, ?_, after.lose (List.perm_append_singleton _ _).symm⟩
  · simp [RequestChannel.drop, sound.flushed]
  · simp [RequestChannel.drop, sound.dropped]

/-- A failed request has retries left and waits for the next one. -/
theorem scheduled_sound (sound : ledger.Sound maxRetries []) {number : Nat} {request : Request}
    (calling : ledger.calling = some (number, request)) {delay : Nanos} {id : Nat}
    {timer : Timer Job} (within : request.attempt + 1 ≤ maxRetries)
    (scheduled : ledger.sender.timer.schedule delay
      (.retry { request with attempt := request.attempt + 1 }) = .ok (id, timer)) :
    Sound maxRetries [] { ledger with
      sender := { ledger.sender with
        channel := { ledger.sender.channel with phase := .idle }, timer }
      calling := none
      owner := Function.update ledger.owner id number
      log := ledger.log ++ [(number, .failed), (number, .scheduled id)] } := by
  have consistent := sound.consistent
  have carries := (Timer.schedule_carries (fun _ => true) consistent scheduled).1.consistent
  have places := waiting_schedule ledger.owner number consistent scheduled
  have again : Request.numbered { request with attempt := request.attempt + 1 } =
      request.numbered := rfl
  have after := (sound.before_answer calling).go [.failed, .scheduled id]
    (fun life lives => lives.twice .failed (.scheduled within)) trivial again (by simp)
  refine ⟨sound.entering, sound.unsent, sound.queue, rfl, sound.claimed, carries, sound.limit,
    ?_, ?_, after.of_perm ?_⟩
  · simp [sound.flushed]
  · simp [sound.dropped]
  · rw [List.perm_iff_count] at places ⊢
    intro place
    have same := places place
    simp only [placed, Option.toList_none, place_nil, List.nil_append, List.count_append,
      List.count_cons, List.count_nil] at same ⊢
    omega

theorem failed_sound (sound : ledger.Sound maxRetries []) {answer : Option Ack}
    (rejected : ¬ answer.any Ack.success) {request : Request}
    (inFlight : ledger.sender.inFlight? = some request) {channel : RequestChannel}
    {timer : Timer Job}
    (retried : RequestChannel.retryLater .retry request
      { ledger.sender.channel with phase := .idle } ledger.sender.timer = (channel, timer)) :
    (ledger.answered answer { ledger.sender with channel, timer }).Sound maxRetries [] := by
  rcases sound.calling_eq_some inFlight with ⟨number, calling⟩
  rw [answered, calling]
  dsimp only
  rw [if_neg rejected]
  rcases RequestChannel.retryLater_eq request { ledger.sender.channel with phase := .idle }
    ledger.sender.timer with dropped | ⟨id, after, within, scheduled, same⟩
  · cases dropped.symm.trans retried
    rw [if_neg (Nat.lt_irrefl _)]
    exact givenUp_sound sound calling
  · cases same.symm.trans retried
    have wheel := sound.consistent.wheel
    rcases Timer.schedule_eq_ok wheel scheduled with ⟨rfl, -, -, pushed, -⟩
    rw [if_pos (by simp [pushed])]
    exact scheduled_sound sound calling (sound.limit ▸ within) scheduled

theorem answered?_sound (sound : ledger.Sound maxRetries []) {answer : Option Ack}
    {sender : Sender} (done : ledger.sender.answered? answer = some sender) :
    (ledger.answered answer sender).Sound maxRetries [] := by
  rw [Sender.answered?] at done
  split at done
  next success => exact acknowledged_sound sound success done
  next rejected =>
    rcases Option.map_eq_some_iff.mp done with ⟨request, inFlight, rfl⟩
    exact failed_sound sound rejected inFlight rfl

/-! ### Runs -/

theorem act?_sound {deed : Deed} (sound : ledger.Sound maxRetries [])
    (acted : ledger.act? deed = some next) : next.Sound maxRetries [] := by
  induction deed generalizing ledger next with
  | move move =>
      rcases Option.map_eq_some_iff.mp acted with ⟨sender, done, rfl⟩
      exact move?_sound sound done
  | answered answer =>
      rcases Option.map_eq_some_iff.mp acted with ⟨sender, done, rfl⟩
      exact answered?_sound sound done
  | unaware deed induction =>
      rcases Option.map_eq_some_iff.mp acted with ⟨after, done, rfl⟩
      exact (induction (sound.setShutdown false) done).setShutdown _

theorem actAll?_sound {deeds : List Deed} (sound : ledger.Sound maxRetries [])
    (acted : ledger.actAll? deeds = some next) : next.Sound maxRetries [] := by
  induction deeds generalizing ledger with
  | nil =>
      cases acted
      exact sound
  | cons deed deeds induction =>
      rcases Option.bind_eq_some_iff.mp acted with ⟨middle, done, acted⟩
      exact induction (act?_sound sound done) acted

/-! ### What a deed adds to the log -/

theorem offer_log (item : Nat × Request) (sender : Sender) (ledger : Ledger) :
    ∃ happening, (ledger.offer item sender).log = ledger.log ++ [(item.1, happening)] ∧
      happening ≠ .failed := by
  rw [offer]
  split
  next => exact ⟨.queued, rfl, nofun⟩
  next => exact ⟨.dropped, rfl, nofun⟩

theorem moved_log (sender : Sender) (ledger : Ledger) (move : Sender.Move) :
    ∃ new, (ledger.moved sender move).log = ledger.log ++ new ∧
      ∀ number, (number, .failed) ∉ new := by
  have nothing : ∃ new, ledger.log = ledger.log ++ new ∧ ∀ number, (number, .failed) ∉ new :=
    ⟨[], (List.append_nil _).symm, nofun⟩
  cases move with
  | number frame => exact ⟨_, rfl, by simp⟩
  | submit position | run =>
      rw [moved]
      split
      next item here =>
        rcases offer_log item sender _ with ⟨happening, log, other⟩
        exact ⟨_, log, by simp [other.symm]⟩
      next => exact nothing
  | take | claim =>
      rw [moved]
      split
      next => exact ⟨_, rfl, by simp⟩
      next => exact nothing
  | noticeShutdown => exact ⟨_, rfl, by simp⟩
  | shutdown | occupy | cancel | collect | stopTimer => exact nothing

/-- The log only grows, and what comes of a failure is told together with it. -/
theorem act?_log {deed : Deed} (acted : ledger.act? deed = some next) :
    ∃ new, next.log = ledger.log ++ new ∧
      ∀ number, (number, .failed) ∈ new →
        ∃ outcome, new = [(number, .failed), (number, outcome)] := by
  induction deed generalizing ledger next with
  | move move =>
      rcases Option.map_eq_some_iff.mp acted with ⟨sender, done, rfl⟩
      rcases moved_log sender ledger move with ⟨new, log, none⟩
      exact ⟨new, log, fun number member => absurd member (none number)⟩
  | answered answer =>
      rcases Option.map_eq_some_iff.mp acted with ⟨sender, done, rfl⟩
      rw [answered]
      split
      next => exact ⟨[], (List.append_nil _).symm, nofun⟩
      next number request calling =>
        dsimp only
        split
        next => exact ⟨_, rfl, by simp⟩
        next =>
          split
          next => exact ⟨_, rfl, by simp⟩
          next => exact ⟨_, rfl, by simp⟩
  | unaware deed induction =>
      rcases Option.map_eq_some_iff.mp acted with ⟨after, done, rfl⟩
      have grown := induction done
      exact grown

theorem actAll?_log {deeds : List Deed} (acted : ledger.actAll? deeds = some next) :
    ∃ new, next.log = ledger.log ++ new := by
  induction deeds generalizing ledger with
  | nil =>
      cases acted
      exact ⟨[], (List.append_nil _).symm⟩
  | cons deed deeds induction =>
      rcases Option.bind_eq_some_iff.mp acted with ⟨middle, done, acted⟩
      rcases act?_log done with ⟨first, middleLog, -⟩
      rcases induction acted with ⟨rest, log⟩
      exact ⟨first ++ rest, by rw [log, middleLog, List.append_assoc]⟩

theorem life_append {new : List (Nat × Happening)} (number : Nat)
    (log : next.log = ledger.log ++ new) :
    next.life number = ledger.life number ++ lifeOf number new := by
  rw [life, log, lifeOf, List.filter_append, List.map_append]
  rfl

theorem mem_of_mem_lifeOf {number : Nat} {happening : Happening}
    {log : List (Nat × Happening)} (member : happening ∈ lifeOf number log) :
    (number, happening) ∈ log := by
  rcases List.mem_map.mp member with ⟨entry, kept, rfl⟩
  rcases List.mem_filter.mp kept with ⟨logged, same⟩
  rwa [← of_decide_eq_true same]

/-- The success of a request and the failure of its last attempt. -/
def Finished (maxRetries number : Nat) (ledger : Ledger) : Prop :=
  .acknowledged ∈ ledger.life number ∨ (ledger.life number).count .failed = maxRetries + 1

/-- A request that is kept somewhere has something to come. -/
theorem standing_of_placed {place : Placed} (member : place ∈ ledger.placed) :
    place.standing.Settled ∧ ¬ place.standing.Ended := by
  simp only [placed, Ledger.place, waiting, List.mem_append, List.mem_map, List.mem_filterMap,
    Option.map_eq_some_iff] at member
  rcases member with (((⟨item, -, rfl⟩ | ⟨item, -, rfl⟩) | ⟨item, -, rfl⟩) |
    ⟨entry, -, request, -, rfl⟩) | ⟨item, -, rfl⟩
  all_goals exact ⟨trivial, by simp [Standing.Ended]⟩

/-- What is over leaves nothing to be done. -/
theorem Sound.finished (sound : ledger.Sound maxRetries []) {number : Nat}
    (finished : ledger.Finished maxRetries number) :
    (∃ earlier last, ledger.life number = earlier ++ [last] ∧
        (last = .acknowledged ∨ last = .dropped)) ∧
      ∀ place ∈ ledger.placed, place.number ≠ number := by
  rcases sound.orderly.settled number with ⟨standing, lives, settled⟩
  rcases finished with acknowledged | failures
  · refine ⟨?_, ?_⟩
    · rcases List.append_of_mem acknowledged with ⟨first, rest, whole⟩
      have lives : Lives maxRetries (first ++ .acknowledged :: rest) standing := whole ▸ lives
      have last := lives.last_of_final (.inl rfl)
      rw [last] at whole
      exact ⟨first, .acknowledged, whole, .inl rfl⟩
    · rintro place member rfl
      have ended := (sound.orderly.lives place member).ended acknowledged (.inl rfl)
      exact (standing_of_placed member).2 ended
  · refine ⟨?_, ?_⟩
    · rcases lives.exhausted settled failures with ⟨earlier, whole, -⟩
      exact ⟨earlier ++ [.failed], .dropped, by rw [List.append_assoc]; exact whole, .inr rfl⟩
    · rintro place member rfl
      have allows := (sound.orderly.lives place member).allows
      rw [show List.count .failed (lifeOf place.number ledger.log) = maxRetries + 1 from failures]
        at allows
      have kept := standing_of_placed member
      exact kept.2 (.inr (allows.eq_dropped kept.1))

/-- What is over stays as it is. -/
theorem Sound.finished_stays (sound : ledger.Sound maxRetries []) {number : Nat}
    (finished : ledger.Finished maxRetries number) {deeds : List Deed}
    (acted : ledger.actAll? deeds = some next) :
    next.life number = ledger.life number ∧ ∀ place ∈ next.placed, place.number ≠ number := by
  rcases actAll?_log acted with ⟨new, log⟩
  have grown := life_append number log
  have after := actAll?_sound sound acted
  rcases (sound.finished finished).1 with ⟨earlier, last, whole, final⟩
  rcases after.orderly.settled number with ⟨standing, lives, -⟩
  rw [whole, List.append_assoc, List.singleton_append] at grown
  have lives : Lives maxRetries (earlier ++ last :: lifeOf number new) standing := grown ▸ lives
  rw [lives.last_of_final final, ← whole] at grown
  refine ⟨grown, (after.finished ?_).2⟩
  rwa [Finished, grown]

/-- The failure of the last attempt counts one request as dropped. -/
theorem Sound.exhausted (sound : ledger.Sound maxRetries []) {number : Nat} {deed : Deed}
    (acted : ledger.act? deed = some next)
    (before : (ledger.life number).count .failed = maxRetries)
    (after : (next.life number).count .failed = maxRetries + 1) :
    next.sender.channel.dropped = ledger.sender.channel.dropped + 1 := by
  have soundNext := act?_sound sound acted
  rcases act?_log acted with ⟨new, log, only⟩
  have grown := life_append number log
  have one : (lifeOf number new).count .failed = 1 := by
    rw [grown, List.count_append] at after
    omega
  have failed : .failed ∈ lifeOf number new := List.count_pos_iff.mp (by omega)
  rcases only number (mem_of_mem_lifeOf failed) with ⟨outcome, rfl⟩
  rcases soundNext.orderly.settled number with ⟨standing, lives, settled⟩
  rcases lives.exhausted settled after with ⟨earlier, whole, -⟩
  have both : lifeOf number [(number, .failed), (number, outcome)] = [.failed, outcome] := by
    simp [lifeOf]
  rw [both] at grown
  have last : outcome = .dropped := by
    simpa using (List.append_inj' (grown.symm.trans whole) rfl).2
  rw [soundNext.dropped, sound.dropped, log, last]
  simp

/-- How often a request is called for, whatever its outcomes are and whoever else uses the queue
and the timer. There is one call for every retry and one more, each with the id and the frame that
were assigned when the frame was sent. A further call needs the failure of the call before and a
timeout that was scheduled then and came due. The request is at one place at a time: in the queue,
in flight, on the timer or between two of them. After a success or the failure of its last attempt,
which drops it once, nothing happens to it any more and it is kept nowhere. -/
theorem calls_bounded {capacity : Nat} {retryDelay : Nanos} {maxRetries : Nat} {tick : Nanos}
    {wheelSize maxPending : Nat} {deeds : List Deed} {ledger : Ledger}
    (acted : (start capacity retryDelay maxRetries tick wheelSize maxPending).actAll? deeds =
      some ledger) (number : Nat) :
    ((ledger.life number).countP Happening.isCall ≤ maxRetries + 1 ∧
      ∀ id frame, .called id frame ∈ ledger.life number →
        ledger.sender.assigned[number]? = some (id, frame)) ∧
    (∀ first rest id frame, ledger.life number = first ++ .called id frame :: rest →
      first = [.numbered, .queued] ∨ ∃ earlier id frame timeout, first = earlier ++
        [.called id frame, .failed, .scheduled timeout, .due timeout, .queued]) ∧
    ((ledger.placed.map Placed.number).count number ≤ 1 ∧
      ledger.queue.map Prod.snd = ledger.sender.channel.queue ∧
      ledger.calling.map Prod.snd = ledger.sender.inFlight? ∧
      ledger.claimed.map Prod.snd = ledger.sender.claimed.bind Job.request? ∧
      ledger.sender.channel.flushed = (ledger.log.map Prod.snd).count .acknowledged ∧
      ledger.sender.channel.dropped = (ledger.log.map Prod.snd).count .dropped ∧
      ∀ place ∈ ledger.placed, place.number = number →
        ledger.sender.assigned[number]? = some place.request.numbered ∧
          Lives maxRetries (ledger.life number) place.standing) ∧
    (ledger.Finished maxRetries number → ∀ more later, ledger.actAll? more = some later →
      later.life number = ledger.life number ∧
        ∀ place ∈ later.placed, place.number ≠ number) ∧
    ((ledger.life number).count .failed = maxRetries + 1 →
      ∃ earlier, ledger.life number = earlier ++ [.failed, .dropped] ∧ .dropped ∉ earlier) ∧
    (∀ deed next, ledger.act? deed = some next →
      (ledger.life number).count .failed = maxRetries →
      (next.life number).count .failed = maxRetries + 1 →
      next.sender.channel.dropped = ledger.sender.channel.dropped + 1) := by
  have sound := actAll?_sound (start_sound capacity retryDelay maxRetries tick wheelSize maxPending)
    acted
  have orderly := sound.orderly
  rcases orderly.settled number with ⟨standing, lives, settled⟩
  refine ⟨⟨lives.calls_le, orderly.calls number⟩, fun first rest id frame whole => ?_,
    ⟨List.nodup_iff_count.mp orderly.single number, sound.queue, sound.calling,
      sound.claimed, sound.flushed, sound.dropped, ?_⟩,
    fun finished _ _ => sound.finished_stays finished, lives.exhausted settled,
    fun _ _ => sound.exhausted⟩
  · have lives : Lives maxRetries (first ++ .called id frame :: rest) standing := whole ▸ lives
    exact lives.before_call
  · rintro place member rfl
    exact ⟨orderly.known place member, orderly.lives place member⟩

/-- A request is rejected and waits on the timer, while another one takes its turn, and then it is
called for again. -/
def rejectedOnce : List Deed :=
  [.move (.number ⟨.sqlMetadata, [1]⟩), .move (.number ⟨.apiMetadata, [2]⟩), .move (.submit 0),
   .move .take, .answered (some ⟨1, false⟩), .move (.submit 0), .move .take,
   .answered (some ⟨2, true⟩), .move .collect, .move .claim, .move .run, .move .take]

theorem calls_bounded_rejectedOnce :
    ∃ ledger next, (start 1 (ofMillis 10) 1 (ofMillis 10) 4 2).actAll? rejectedOnce =
        some ledger ∧
      ledger.act? (.answered none) = some next ∧
      next.life 0 = [.numbered, .queued, .called 1 ⟨.sqlMetadata, [1]⟩, .failed, .scheduled 0,
        .due 0, .queued, .called 1 ⟨.sqlMetadata, [1]⟩, .failed, .dropped] ∧
      (ledger.life 0).countP Happening.isCall ≤ 2 ∧
      (ledger.placed.map Placed.number).count 0 ≤ 1 ∧
      next.life 1 = ledger.life 1 ∧
      next.sender.channel.dropped = ledger.sender.channel.dropped + 1 := by
  have goes : ((start 1 (ofMillis 10) 1 (ofMillis 10) 4 2).actAll? rejectedOnce).map (fun ledger =>
      ((ledger.life 0).count .failed, ledger.life 1,
        (ledger.act? (.answered none)).map fun next => next.life 0)) =
      some (1, [.numbered, .queued, .called 2 ⟨.apiMetadata, [2]⟩, .acknowledged],
        some [.numbered, .queued, .called 1 ⟨.sqlMetadata, [1]⟩, .failed, .scheduled 0, .due 0,
          .queued, .called 1 ⟨.sqlMetadata, [1]⟩, .failed, .dropped]) := by decide +kernel
  rcases Option.map_eq_some_iff.mp goes with ⟨ledger, acted, ended⟩
  simp only [Prod.mk.injEq] at ended
  rcases ended with ⟨failures, other, continued⟩
  rcases Option.map_eq_some_iff.mp continued with ⟨next, answered, life⟩
  rcases calls_bounded acted 0 with ⟨⟨calls, -⟩, -, ⟨single, -⟩, -, -, drops⟩
  rcases calls_bounded acted 1 with ⟨-, -, -, final, -, -⟩
  have finished : ledger.Finished 1 1 := .inl (by rw [other]; decide)
  have stays := (final finished [.answered none] next (by rw [actAll?, answered]; rfl)).1
  refine ⟨ledger, next, acted, answered, life, calls, single, stays, ?_⟩
  exact drops (.answered none) next answered failures (by rw [life]; decide)

end Ledger

end Telemetry.Delivery
