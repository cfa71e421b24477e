import Telemetry.Proofs.Collector.Dialogue
import Telemetry.Proofs.Collector.Exchange

namespace Telemetry.Collector

open Wire Message Delivery

/-! What an acknowledgement is worth. Every answer that reports success stands for a request that
was stored before the answer was given. It is taken for the answer to the request that it names, and
no two requests have one id, so that a request that counts as flushed was stored. -/

/-- The message of the frame is among what was written. -/
def Stored (receiver : Receiver) (written : List Write) (frame : Frame) : Prop :=
  ∃ write ∈ written, receiver.requestWrites frame = .ok [write]

theorem Stored.mono {receiver : Receiver} {written after : List Write} {frame : Frame}
    (stored : Stored receiver written frame) (reached : written <+: after) :
    Stored receiver after frame := by
  rcases stored with ⟨write, member, asked⟩
  exact ⟨write, reached.subset member, asked⟩

/-- The message of the frame was entered by one of the writes, into the tables that the writes
before it had left. -/
def Entered (receiver : Receiver) (store : Store) (written : List Write) (frame : Frame) : Prop :=
  ∃ message earlier write, requestMessage? frame = some message ∧
    earlier ++ [write] <+: written ∧
    Enters receiver.serviceUid message (store.applyAll earlier)
      (store.applyAll (earlier ++ [write]))

theorem Stored.entered {receiver : Receiver} {written : List Write} {frame : Frame}
    (stored : Stored receiver written frame) (store : Store) :
    Entered receiver store written frame := by
  rcases stored with ⟨write, member, asked⟩
  rcases List.append_of_mem member with ⟨earlier, later, rfl⟩
  rcases Receiver.enters_of_requestWrites asked with ⟨message, carried, entered⟩
  have reached := (List.append_cons earlier write later).symm
  refine ⟨message, earlier, write, carried, ⟨later, reached⟩, ?_⟩
  rw [Store.applyAll_append]
  exact entered _

/-- A request is answered under its own id, and with success only if it was stored. -/
theorem Service.receiveRequest_encodeRequest {service : Service} {id : UInt64} {frame : Frame}
    {ack : Ack} (answered : (service.receiveRequest (frame.encodeRequest id)).1 = .ok ack) :
    ack.requestId = id ∧ (ack.success = true →
      Stored service.receiver (service.requestPerformed (frame.encodeRequest id)) frame) := by
  rw [receiveRequest] at answered
  rw [requestPerformed]
  cases read : Frame.decodeRequest (frame.encodeRequest id) with
  | error cause =>
      rw [read] at answered
      cases answered
  | ok result =>
      rw [read] at answered
      cases Frame.eq_of_decodeRequest_encodeRequest read
      cases answered
      refine ⟨rfl, fun success => ?_⟩
      have asked := performed_of_execute success
      rcases Receiver.requestWrites_eq_ok asked with ⟨write, performed, -⟩
      refine ⟨write, ?_, performed ▸ asked⟩
      change write ∈ service.performed (service.receiver.requestWrites frame)
      rw [performed]
      exact List.mem_singleton_self write

/-! ### What is under way -/

structure Connection.Backed (receiver : Receiver) (assigned : List (UInt64 × Frame))
    (written : List Write) (connection : Connection) : Prop where
  requests : ∀ bytes ∈ connection.requests,
    ∃ id frame, (id, frame) ∈ assigned ∧ bytes = frame.encodeRequest id
  answers : ∀ bytes ∈ connection.answers, ∃ ack, bytes = (Frame.ofAck ack).encode ∧
    (ack.success = true → ∃ frame, (ack.requestId, frame) ∈ assigned ∧
      Stored receiver written frame)

structure Flush.Backed (receiver : Receiver) (assigned : List (UInt64 × Frame))
    (written : List Write) (flush : Flush) : Prop where
  requestId : flush.ack.requestId = flush.request.id
  success : flush.ack.success = true
  known : flush.request.numbered ∈ assigned
  writes : flush.writes ≤ written.length
  stored : ∃ frame, (flush.request.id, frame) ∈ assigned ∧
    Stored receiver (written.take flush.writes) frame

section Backed

variable {receiver : Receiver} {assigned grown : List (UInt64 × Frame)} {written after : List Write}

theorem Connection.Backed.mono {connection : Connection}
    (backed : connection.Backed receiver assigned written) (subset : assigned ⊆ grown)
    (reached : written <+: after) : connection.Backed receiver grown after := by
  refine ⟨fun bytes member => ?_, fun bytes member => ?_⟩
  · rcases backed.requests bytes member with ⟨id, frame, known, rfl⟩
    exact ⟨id, frame, subset known, rfl⟩
  · rcases backed.answers bytes member with ⟨ack, rfl, stored⟩
    refine ⟨ack, rfl, fun success => ?_⟩
    rcases stored success with ⟨frame, known, stored⟩
    exact ⟨frame, subset known, stored.mono reached⟩

theorem Connection.Backed.answer {connection : Connection} {requests : List Bytes}
    {outcome : Except DecodeError Ack} (backed : connection.Backed receiver assigned written)
    (left : ∀ bytes ∈ requests, bytes ∈ connection.requests)
    (stored : ∀ ack, outcome = .ok ack → ack.success = true →
      ∃ frame, (ack.requestId, frame) ∈ assigned ∧ Stored receiver written frame) :
    (connection.answer requests outcome).Backed receiver assigned written := by
  cases outcome with
  | error cause =>
      exact ⟨fun bytes member => backed.requests bytes (left bytes member), backed.answers⟩
  | ok ack =>
      refine ⟨fun bytes member => backed.requests bytes (left bytes member),
        fun bytes member => ?_⟩
      rcases List.mem_append.mp member with old | new
      · exact backed.answers bytes old
      · exact ⟨ack, List.mem_singleton.mp new, stored ack rfl⟩

theorem Flush.Backed.mono {flush : Flush} (backed : flush.Backed receiver assigned written)
    (subset : assigned ⊆ grown) (reached : written <+: after) :
    flush.Backed receiver grown after := by
  rcases backed.stored with ⟨frame, known, stored⟩
  rcases reached with ⟨more, rfl⟩
  refine ⟨backed.requestId, backed.success, subset backed.known, ?_, frame, subset known, ?_⟩
  · rw [List.length_append]
    exact Nat.le_add_right_of_le backed.writes
  · rwa [List.take_append_of_le_length backed.writes]

end Backed

namespace Dialogue

/-- Nobody in the dialogue claims more than was done. -/
structure Honest (initial : Service) (dialogue : Dialogue) : Prop where
  sender : dialogue.sender.Tracked
  receiver : dialogue.service.receiver = initial.receiver
  store : dialogue.service.store = initial.store.applyAll dialogue.written
  connections : ∀ connection ∈ dialogue.connections,
    connection.Backed initial.receiver dialogue.sender.assigned dialogue.written
  flushed : dialogue.sender.channel.flushed = dialogue.flushes.length
  flushes : ∀ flush ∈ dialogue.flushes,
    flush.Backed initial.receiver dialogue.sender.assigned dialogue.written

variable {initial service : Service} {dialogue next : Dialogue} {sender : Sender}
  {request : Request} {place : Nat} {connection : Connection}

theorem honest_start (tracked : sender.Tracked) (unused : sender.channel.flushed = 0)
    (service : Service) : Honest service (start sender service) :=
  ⟨tracked, rfl, rfl, nofun, unused, nofun⟩

/-! ### Moves -/

theorem Honest.of_sender (honest : Honest initial dialogue) (tracked : sender.Tracked)
    (grown : dialogue.sender.assigned ⊆ sender.assigned)
    (flushed : sender.channel.flushed = dialogue.sender.channel.flushed) :
    Honest initial { dialogue with sender } where
  sender := tracked
  receiver := honest.receiver
  store := honest.store
  connections := fun connection member =>
    (honest.connections connection member).mono grown List.prefix_rfl
  flushed := flushed.trans honest.flushed
  flushes := fun flush member => (honest.flushes flush member).mono grown List.prefix_rfl

theorem Honest.of_service {more : List Write} (honest : Honest initial dialogue)
    (receiver : service.receiver = dialogue.service.receiver)
    (store : service.store = dialogue.service.store.applyAll more) :
    Honest initial { dialogue with service, written := dialogue.written ++ more } where
  sender := honest.sender
  receiver := receiver.trans honest.receiver
  store := by
    change service.store = initial.store.applyAll (dialogue.written ++ more)
    rw [store, honest.store, Store.applyAll_append]
  connections := fun connection member =>
    (honest.connections connection member).mono (List.Subset.refl _) (List.prefix_append _ _)
  flushed := honest.flushed
  flushes := fun flush member =>
    (honest.flushes flush member).mono (List.Subset.refl _) (List.prefix_append _ _)

theorem Honest.set (honest : Honest initial dialogue) (place : Nat)
    (backed : connection.Backed initial.receiver dialogue.sender.assigned dialogue.written) :
    Honest initial
      { dialogue with connections := dialogue.connections.set place connection } where
  sender := honest.sender
  receiver := honest.receiver
  store := honest.store
  connections := by
    intro other member
    rcases List.mem_or_eq_of_mem_set member with old | rfl
    · exact honest.connections other old
    · exact backed
  flushed := honest.flushed
  flushes := honest.flushes

/-- A request that is acknowledged under its own id was stored. -/
theorem acknowledged_honest {ack : Ack} (honest : Honest initial dialogue)
    (known : request.numbered ∈ dialogue.sender.assigned) (own : ack.requestId = request.id)
    (success : ack.success = true)
    (stored : ∃ frame, (request.id, frame) ∈ dialogue.sender.assigned ∧
      Stored initial.receiver dialogue.written frame)
    (acknowledged : dialogue.sender.event? .acknowledged = some sender) :
    Honest initial { dialogue with
      sender
      flushes := dialogue.flushes ++ [⟨request, ack, dialogue.written.length⟩] } := by
  rcases Sender.event?_tracked honest.sender acknowledged with ⟨tracked, grown, flushed⟩
  rcases stored with ⟨frame, frameKnown, stored⟩
  have backed : Flush.Backed initial.receiver sender.assigned dialogue.written
      ⟨request, ack, dialogue.written.length⟩ := by
    refine ⟨own, success, grown known, Nat.le_refl _, frame, grown frameKnown, ?_⟩
    rwa [List.take_length]
  refine ⟨tracked, honest.receiver, honest.store, fun connection member =>
    (honest.connections connection member).mono grown List.prefix_rfl, ?_, ?_⟩
  · change sender.channel.flushed = (dialogue.flushes ++ [_]).length
    rw [flushed, honest.flushed, List.length_append]
    rfl
  · intro flush member
    rcases List.mem_append.mp member with old | new
    · exact (honest.flushes flush old).mono grown List.prefix_rfl
    · exact List.mem_singleton.mp new ▸ backed

theorem failed_honest (honest : Honest initial dialogue)
    (failed : dialogue.sender.event? .failed = some sender) :
    Honest initial { dialogue with sender } := by
  rcases Sender.event?_tracked honest.sender failed with ⟨tracked, grown, flushed⟩
  exact honest.of_sender tracked grown flushed

theorem settle?_honest {answer : Option Ack} (honest : Honest initial dialogue)
    (known : request.numbered ∈ dialogue.sender.assigned)
    (backed : ∀ ack ∈ answer, ack.requestId = request.id ∧ (ack.success = true →
      ∃ frame, (request.id, frame) ∈ dialogue.sender.assigned ∧
        Stored initial.receiver dialogue.written frame))
    (settled : dialogue.settle? request answer = some next) : Honest initial next := by
  cases answer with
  | none =>
      rcases Option.map_eq_some_iff.mp settled with ⟨sender, failed, rfl⟩
      exact { failed_honest honest failed with }
  | some ack =>
      rcases backed ack rfl with ⟨own, stored⟩
      rw [settle?] at settled
      split at settled
      next success =>
        rcases Option.map_eq_some_iff.mp settled with ⟨sender, acknowledged, rfl⟩
        have kept := acknowledged_honest honest known own success (stored success) acknowledged
        exact { kept with }
      next =>
        rcases Option.map_eq_some_iff.mp settled with ⟨sender, failed, rfl⟩
        exact { failed_honest honest failed with }

theorem connect_honest (honest : Honest initial dialogue)
    (moved : dialogue.move? .connect = some next) : Honest initial next := by
  rcases Option.bind_eq_some_iff.mp moved with ⟨request, -, moved⟩
  rcases Option.ite_none_left_eq_some.mp moved with ⟨-, moved⟩
  cases moved
  refine { honest with connections := fun connection member => ?_ }
  rcases List.mem_append.mp member with old | new
  · exact honest.connections connection old
  · cases List.mem_singleton.mp new
    exact ⟨nofun, nofun⟩

theorem transmit_honest (honest : Honest initial dialogue)
    (moved : dialogue.move? .transmit = some next) : Honest initial next := by
  rcases Option.bind_eq_some_iff.mp moved with ⟨request, inFlight, moved⟩
  rcases Option.bind_eq_some_iff.mp moved with ⟨place, -, moved⟩
  rcases Option.bind_eq_some_iff.mp moved with ⟨connection, found, moved⟩
  rcases Option.ite_none_left_eq_some.mp moved with ⟨-, moved⟩
  cases moved
  have backed := honest.connections connection (List.mem_of_getElem? found)
  have known := honest.sender.inFlight? inFlight
  have sent : Connection.Backed initial.receiver dialogue.sender.assigned dialogue.written
      { connection with
        requests := connection.requests ++ [request.frame.encodeRequest request.id] } := by
    refine ⟨fun bytes member => ?_, backed.answers⟩
    rcases List.mem_append.mp member with old | new
    · exact backed.requests bytes old
    · exact ⟨request.id, request.frame, known, List.mem_singleton.mp new⟩
  exact { honest.set place sent with }

/-- The client takes an answer for its own only if it carries the id of the request in flight. -/
theorem read_honest (honest : Honest initial dialogue)
    (moved : dialogue.move? .read = some next) : Honest initial next := by
  rcases Option.bind_eq_some_iff.mp moved with ⟨request, inFlight, moved⟩
  rcases Option.bind_eq_some_iff.mp moved with ⟨place, -, moved⟩
  rcases Option.bind_eq_some_iff.mp moved with ⟨connection, found, moved⟩
  split at moved
  next bytes answers awaiting arrived =>
    have backed := honest.connections connection (List.mem_of_getElem? found)
    have left : Connection.Backed initial.receiver dialogue.sender.assigned dialogue.written
        { connection with answers } :=
      ⟨backed.requests,
        fun other member => backed.answers other (arrived ▸ List.mem_cons_of_mem bytes member)⟩
    refine settle?_honest (honest.set place left) (honest.sender.inFlight? inFlight) ?_ moved
    rcases backed.answers bytes (arrived ▸ List.mem_cons_self) with ⟨ack, rfl, stored⟩
    rw [Frame.decodeAck_ofAck]
    intro accepted taken
    split at taken
    next own =>
      cases taken
      exact ⟨own, own ▸ stored⟩
    next => cases taken
  next => cases moved

theorem serve_honest (honest : Honest initial dialogue)
    (moved : dialogue.move? (.serve place) = some next) : Honest initial next := by
  rcases Option.bind_eq_some_iff.mp moved with ⟨connection, found, moved⟩
  split at moved
  next bytes requests arrived =>
    rcases Option.some.inj moved with rfl
    have backed := honest.connections connection (List.mem_of_getElem? found)
    rcases backed.requests bytes (arrived ▸ List.mem_cons_self) with ⟨id, frame, known, rfl⟩
    rcases dialogue.service.receiveRequest_writes (frame.encodeRequest id) with ⟨receiver, store⟩
    have kept := honest.of_service receiver store
    refine { kept.set place (Connection.Backed.answer ?_ ?_ ?_) with }
    · exact backed.mono (List.Subset.refl _) (List.prefix_append _ _)
    · exact fun other member => arrived ▸ List.mem_cons_of_mem _ member
    · intro ack answered success
      rcases Service.receiveRequest_encodeRequest answered with ⟨own, stored⟩
      refine ⟨frame, own ▸ known, ?_⟩
      rcases stored success with ⟨write, performed, asked⟩
      exact ⟨write, List.mem_append_right _ performed, honest.receiver ▸ asked⟩
  next => cases moved

theorem lose_honest {requests answers : Nat} (honest : Honest initial dialogue)
    (moved : dialogue.move? (.lose place requests answers) = some next) :
    Honest initial next := by
  rcases Option.bind_eq_some_iff.mp moved with ⟨connection, found, moved⟩
  cases moved
  have backed := honest.connections connection (List.mem_of_getElem? found)
  exact honest.set place
    ⟨fun bytes member => backed.requests bytes (List.mem_of_mem_take member),
      fun bytes member => backed.answers bytes (List.mem_of_mem_take member)⟩

theorem setShutdown_honest (honest : Honest initial dialogue) (shutdown : Bool) :
    Honest initial (dialogue.setShutdown shutdown) := by
  have tracked := honest.sender
  exact { honest with
    sender := { tracked with
      channel := ⟨tracked.channel.queued, tracked.channel.inFlight⟩ } }

theorem move?_honest {move : Move} (honest : Honest initial dialogue)
    (moved : dialogue.move? move = some next) : Honest initial next := by
  induction move generalizing dialogue next with
  | sender move =>
      rcases Option.map_eq_some_iff.mp moved with ⟨sender, sent, rfl⟩
      rcases Sender.move?_tracked honest.sender sent with ⟨tracked, grown, flushed⟩
      exact honest.of_sender tracked grown flushed
  | connect => exact connect_honest honest moved
  | transmit => exact transmit_honest honest moved
  | read => exact read_honest honest moved
  | fail =>
      rcases Option.bind_eq_some_iff.mp moved with ⟨request, inFlight, settled⟩
      exact settle?_honest honest (honest.sender.inFlight? inFlight)
        (fun ack absent => absurd absent (Option.not_mem_none ack)) settled
  | release =>
      rcases Option.ite_none_right_eq_some.mp moved with ⟨-, moved⟩
      cases moved
      exact { honest with }
  | serve place => exact serve_honest honest moved
  | lose place requests answers => exact lose_honest honest moved
  | visit arrival =>
      cases moved
      exact honest.of_service (dialogue.service.takeIn_receiver arrival).1
        (dialogue.service.store_takeIn arrival)
  | outage calls =>
      cases moved
      exact { honest with }
  | unaware move induction =>
      rcases Option.map_eq_some_iff.mp moved with ⟨after, seen, rfl⟩
      exact setShutdown_honest (induction (setShutdown_honest honest false) seen) _

theorem moveAll?_honest {moves : List Move} (honest : Honest initial dialogue)
    (moved : dialogue.moveAll? moves = some next) : Honest initial next := by
  induction moves generalizing dialogue with
  | nil =>
      cases moved
      exact honest
  | cons move moves induction =>
      rcases Option.bind_eq_some_iff.mp moved with ⟨middle, first, rest⟩
      exact induction (move?_honest honest first) rest

/-- Until ids wrap, every request that was counted as flushed got an answer of its own that reports
success, and by then the collector had written its message, which entered it into the tables. -/
theorem flushes_stored {capacity maxRetries wheelSize maxPending : Nat} {retryDelay tick : Nanos}
    {service : Service} {moves : List Move} {dialogue : Dialogue}
    (moved : moveAll? (start (.start capacity retryDelay maxRetries
      (.start tick wheelSize maxPending)) service) moves = some dialogue)
    (unwrapped : dialogue.sender.assigned.length < 2 ^ 64) :
    dialogue.sender.channel.flushed = dialogue.flushes.length ∧
      dialogue.service.store = service.store.applyAll dialogue.written ∧
      ∀ flush ∈ dialogue.flushes,
        flush.ack.requestId = flush.request.id ∧ flush.ack.success = true ∧
        flush.request.numbered ∈ dialogue.sender.assigned ∧
        Stored service.receiver (dialogue.written.take flush.writes) flush.request.frame ∧
        Entered service.receiver service.store (dialogue.written.take flush.writes)
          flush.request.frame := by
  have tracked := Sender.tracked_start capacity retryDelay maxRetries tick wheelSize maxPending
  have honest := moveAll?_honest (honest_start tracked rfl service) moved
  refine ⟨honest.flushed, honest.store, fun flush member => ?_⟩
  have backed := honest.flushes flush member
  rcases backed.stored with ⟨frame, known, stored⟩
  -- The answer carries the id alone, and no other frame has been given this id.
  rw [honest.sender.frame_eq unwrapped known backed.known] at stored
  exact ⟨backed.requestId, backed.success, backed.known, stored, stored.entered service.store⟩

def registration : Frame := ⟨.stringMetadata, [1, 2, 97, 2, 4, 2, 98]⟩

/-- The first answer comes too late, so that the request is sent again. -/
def lateAnswer : List Move :=
  [.sender (.number registration), .sender (.submit 0), .sender .take, .connect, .transmit,
   .serve 0, .fail, .sender .collect, .sender .claim, .sender .run, .sender .take, .connect,
   .transmit, .serve 1, .read]

theorem flushes_stored_lateAnswer :
    ∃ service dialogue, Service.ofConfig {} [] = .ok service ∧
      moveAll? (start (.start 8 0 3 (.start 0 4 8)) service) lateAnswer = some dialogue ∧
      dialogue.sender.assigned.length < 2 ^ 64 ∧
      dialogue.flushes = [⟨⟨1, registration, 1⟩, ⟨1, true⟩, 2⟩] ∧
      Stored service.receiver (dialogue.written.take 2) registration ∧
      Entered service.receiver service.store (dialogue.written.take 2) registration := by
  rcases Receiver.exists_ofConfig {} (by decide) (by decide) (by decide) with
    ⟨receiver, made⟩
  let service : Service := ⟨receiver, .empty, .zero, []⟩
  have ran : (moveAll? (start (.start 8 0 3 (.start 0 4 8)) service) lateAnswer).map
      (fun dialogue => (dialogue.sender.assigned.length, dialogue.flushes)) =
        some (1, [⟨⟨1, registration, 1⟩, ⟨1, true⟩, 2⟩]) := by
    cbv
  rcases Option.map_eq_some_iff.mp ran with ⟨dialogue, moved, ended⟩
  rcases Prod.mk.inj ended with ⟨assigned, flushes⟩
  have unwrapped : dialogue.sender.assigned.length < 2 ^ 64 := by
    rw [assigned]
    decide
  rcases flushes_stored moved unwrapped with ⟨-, -, stored⟩
  have own := stored ⟨⟨1, registration, 1⟩, ⟨1, true⟩, 2⟩ (by simp [flushes])
  exact ⟨service, dialogue, bind_eq_ok.mpr ⟨receiver, made, rfl⟩, moved, unwrapped, flushes,
    own.2.2.2⟩

end Dialogue

end Telemetry.Collector
