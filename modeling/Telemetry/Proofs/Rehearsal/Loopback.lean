import Telemetry.Proofs.Collector.Exchange
import Telemetry.Proofs.Collector.Isolation
import Telemetry.Proofs.Delivery.Accounting
import Telemetry.Proofs.Delivery.Conservation
import Telemetry.Proofs.Delivery.Provenance
import Telemetry.Rehearsal.Loopback

namespace Telemetry.Rehearsal

open Wire Message Delivery Collector

/-! What a transport and its collector do when they are run together. The transport's part in it is
a run of a session, so that whatever is known of sessions holds here; the collector's part is to
take in, one after the other, the frames that are sent. Every frame that counts as flushed is among
those, and all of them are frames of messages that were handed over. -/

/-! ### Frames that come in -/

/-- A frame that comes in at the collector, on one of its channels. -/
structure Landing where
  channel : Channel
  incoming : Incoming
deriving DecidableEq, Repr

/-- The collector after a frame came in. -/
def Landing.after (landing : Landing) (service : Service) : Service :=
  (service.attend landing.channel landing.incoming).2

/-- Whether a frame counts as flushed: on a stream every frame does, a request if it is handled. -/
def Landing.flushes (landing : Landing) (service : Service) : Bool :=
  landing.channel ≠ .metadata || service.handles landing.channel landing.incoming

/-- The frame comes in as it goes out on the channel: a request has its id in front. -/
def Landing.Brings (landing : Landing) (frame : Frame) : Prop :=
  match landing.channel with
  | .metadata => ∃ id, landing.incoming.bytes = frame.encodeRequest id
  | _ => landing.incoming.bytes = frame.encode

def takeIn (landings : List Landing) (service : Service) : Service :=
  landings.foldl (fun service landing => landing.after service) service

/-- How many of the frames that come in count as flushed on a channel. -/
def flushesOn (channel : Channel) : List Landing → Service → Nat
  | [], _ => 0
  | landing :: landings, service =>
      (if landing.channel = channel ∧ landing.flushes service = true then 1 else 0) +
        flushesOn channel landings (landing.after service)

theorem flushesOn_append (channel : Channel) (landings more : List Landing) (service : Service) :
    flushesOn channel (landings ++ more) service =
      flushesOn channel landings service + flushesOn channel more (takeIn landings service) := by
  induction landings generalizing service with
  | nil => exact (Nat.zero_add _).symm
  | cons landing landings induction =>
      rw [List.cons_append, flushesOn, flushesOn, induction, Nat.add_assoc]
      rfl

/-- A frame that is short enough is taken in; what comes back is the answer to it. -/
theorem serve_framed (channel : Channel) {maxLength : Nat} (now : Int64) {frame : Bytes}
    (service : Service) (short : frame.length ≤ maxLength) (narrow : frame.length < UInt32.size) :
    service.serve channel maxLength now (framed frame) =
      (((service.attend channel ⟨now, frame⟩).1.toList.filter (sendable maxLength)).flatMap
        fun ack => framed (Frame.ofAck ack).encode,
        (service.attend channel ⟨now, frame⟩).2) := by
  have frames : unwrapAll maxLength (framed frame) = ([frame], .ok ()) := by
    have whole := @unwrapAll_framed maxLength [frame] (by simp [short, narrow])
    rwa [List.flatMap_singleton] at whole
  rw [Service.serve_eq_converse, frames]
  dsimp only
  rw [List.map_singleton, Service.converse_singleton]

theorem serve_long (channel : Channel) {maxLength : Nat} (now : Int64) {frame : Bytes}
    (service : Service) (long : maxLength < frame.length) (narrow : frame.length < UInt32.size) :
    service.serve channel maxLength now (framed frame) = ([], service) := by
  rw [Service.serve_eq_converse, unwrapAll_long long narrow]
  rfl

namespace Pipeline

variable {pipeline next : Pipeline}

/-- All that a turn can be: a step of one of the channels, or a tick of the timer. -/
inductive Turns (pipeline : Pipeline) : Pipeline → Prop
  | span {span : Stream} {timer : Timer Job}
      (stepped : pipeline.transport.span.step? pipeline.elapsed (.reconnect .span)
        (pipeline.streamEvent .span pipeline.transport.span).1 pipeline.transport.timer =
          some (span, timer)) :
      Turns pipeline { (pipeline.streamEvent .span pipeline.transport.span).2 with
        transport := { pipeline.transport with span, timer } }
  | stat {stat : Stream} {timer : Timer Job}
      (stepped : pipeline.transport.stat.step? pipeline.elapsed (.reconnect .stat)
        (pipeline.streamEvent .stat pipeline.transport.stat).1 pipeline.transport.timer =
          some (stat, timer)) :
      Turns pipeline { (pipeline.streamEvent .stat pipeline.transport.stat).2 with
        transport := { pipeline.transport with stat, timer } }
  | metadata {metadata : RequestChannel} {timer : Timer Job}
      (stepped : pipeline.transport.metadata.step? .retry
        (pipeline.requestEvent pipeline.transport.metadata).1 pipeline.transport.timer =
          some (metadata, timer)) :
      Turns pipeline { (pipeline.requestEvent pipeline.transport.metadata).2 with
        transport := { pipeline.transport with metadata, timer } }
  | tick : Turns pipeline pipeline.tick

theorem turns_turn (pipeline : Pipeline) : pipeline.Turns pipeline.turn := by
  rw [turn]
  cases span : pipeline.stepSpan? with
  | some next =>
      rcases Option.map_eq_some_iff.mp span with ⟨⟨span, timer⟩, stepped, rfl⟩
      exact .span stepped
  | none =>
      cases stat : pipeline.stepStat? with
      | some next =>
          rcases Option.map_eq_some_iff.mp stat with ⟨⟨stat, timer⟩, stepped, rfl⟩
          exact .stat stepped
      | none =>
          cases metadata : pipeline.stepMetadata? with
          | some next =>
              rcases Option.map_eq_some_iff.mp metadata with ⟨⟨metadata, timer⟩, stepped, rfl⟩
              exact .metadata stepped
          | none => exact .tick

theorem send_cases (message : TelemetryMessage) (pipeline : Pipeline) :
    (∃ cause, Frame.ofMessage message = .error cause ∧ (pipeline.send message).2 = pipeline) ∨
    ∃ frame channel frames turns, Frame.ofMessage message = .ok frame ∧
      (pipeline.send message).2 =
        settle channel frames turns
          { pipeline with transport := (pipeline.transport.sendFrame frame).2 } := by
  rw [send, Transport.send]
  cases made : Frame.ofMessage message with
  | error cause => exact .inl ⟨cause, rfl, rfl⟩
  | ok frame =>
      right
      cases kind : channel? message.kind with
      | none => exact ⟨frame, .span, 0, 0, rfl, rfl⟩
      | some channel => exact ⟨frame, channel, _, _, rfl, rfl⟩

/-! ### The transport -/

/-- The transport of a pipeline at work. Nobody closes it. -/
def session (requests : Nat) (pipeline : Pipeline) : Session where
  transport := pipeline.transport
  closing := .uncalled
  due := []
  claimed := none
  requests := requests
  lost := 0

theorem Turns.exists_run? (turns : pipeline.Turns next) (requests : Nat) :
    ∃ acts, (pipeline.session requests).run? acts = some (next.session requests) := by
  cases turns with
  | span stepped =>
      exact ⟨[.span _ _], Session.run?_singleton (Option.map_eq_some_iff.mpr ⟨_, stepped, rfl⟩)⟩
  | stat stepped =>
      exact ⟨[.stat _ _], Session.run?_singleton (Option.map_eq_some_iff.mpr ⟨_, stepped, rfl⟩)⟩
  | metadata stepped =>
      exact ⟨[.metadata _], Session.run?_singleton (Option.map_eq_some_iff.mpr ⟨_, stepped, rfl⟩)⟩
  | tick => exact (pipeline.session requests).exists_run?_advance pipeline.transport

theorem exists_run?_settle (channel : Channel) (frames turns requests : Nat)
    (pipeline : Pipeline) :
    ∃ acts, (pipeline.session requests).run? acts =
      some ((pipeline.settle channel frames turns).session requests) := by
  induction turns generalizing pipeline with
  | zero => exact ⟨[], rfl⟩
  | succ turns induction =>
      rw [settle]
      split
      next => exact ⟨[], rfl⟩
      next =>
        rcases pipeline.turns_turn.exists_run? requests with ⟨acts, turned⟩
        rcases induction pipeline.turn with ⟨more, settled⟩
        refine ⟨acts ++ more, ?_⟩
        rw [Session.run?_append, turned]
        exact settled

/-- Whether a message is sent as a request. What cannot be encoded is not sent. -/
def requested (message : TelemetryMessage) : Bool :=
  (Frame.ofMessage message).toOption.any fun frame => route frame.kind = .request

theorem requested_of_made {message : TelemetryMessage} {frame : Frame}
    (made : Frame.ofMessage message = .ok frame) :
    (requested message).toNat = if route frame.kind = .request then 1 else 0 := by
  rw [requested, made]
  change (decide (route frame.kind = .request)).toNat = _
  split <;> simp [*]

theorem exists_run?_send (message : TelemetryMessage) (requests : Nat) (pipeline : Pipeline) :
    ∃ acts, (pipeline.session requests).run? acts =
      some ((pipeline.send message).2.session (requests + (requested message).toNat)) := by
  rcases pipeline.send_cases message with
    ⟨cause, failed, same⟩ | ⟨frame, channel, frames, turns, made, sent⟩
  · rw [same, requested, failed]
    exact ⟨[], rfl⟩
  · let handed := { pipeline with transport := (pipeline.transport.sendFrame frame).2 }
    rcases exists_run?_settle channel frames turns (requests + (requested message).toNat)
        handed with ⟨acts, settled⟩
    rw [sent]
    rw [requested_of_made made] at settled ⊢
    exact ⟨.sendFrame frame :: acts, settled⟩

/-- Sends messages one after the other, each when its predecessor has been waited for. -/
def sendAll (messages : List TelemetryMessage) (pipeline : Pipeline) : Pipeline :=
  messages.foldl (fun pipeline message => (pipeline.send message).2) pipeline

theorem exists_run?_sendAll (messages : List TelemetryMessage) (requests : Nat)
    (pipeline : Pipeline) :
    ∃ acts, (pipeline.session requests).run? acts =
      some ((pipeline.sendAll messages).session (requests + messages.countP requested)) := by
  induction messages generalizing pipeline requests with
  | nil => exact ⟨[], rfl⟩
  | cons message messages induction =>
      rcases pipeline.exists_run?_send message requests with ⟨acts, sent⟩
      rcases induction (requests + (requested message).toNat) (pipeline.send message).2 with
        ⟨more, rest⟩
      refine ⟨acts ++ more, ?_⟩
      have counted : requests + (requested message).toNat + messages.countP requested =
          requests + (message :: messages).countP requested := by
        rw [List.countP_cons, Nat.add_assoc, Nat.add_comm (requested message).toNat]
        cases requested message <;> rfl
      rw [Session.run?_append, sent, ← counted]
      exact rest

/-- What the pipeline's transport does is a run of a session that only sends. -/
theorem exists_run?_start (network : Network) (agent : Delivery.Config)
    (collector : Collector.Config) (clock : Int64) (service : Service)
    (messages : List TelemetryMessage) :
    ∃ acts, (Session.start agent).run? acts =
      some (((start network agent collector clock service).sendAll messages).session
        (messages.countP requested)) := by
  rcases exists_run?_sendAll messages 0 (start network agent collector clock service) with
    ⟨acts, sent⟩
  rw [Nat.zero_add] at sent
  exact ⟨acts, sent⟩

/-- Every request that was made is flushed or dropped, in the queue, in flight or waits for its next
attempt. -/
theorem requests_kept (network : Network) (agent : Delivery.Config)
    (collector : Collector.Config) (clock : Int64) (service : Service)
    (messages : List TelemetryMessage) :
    let transport := ((start network agent collector clock service).sendAll messages).transport
    transport.metadata.handled + transport.timer.outstanding Job.isRetry [] =
      messages.countP requested := by
  rcases exists_run?_start network agent collector clock service messages with ⟨acts, sent⟩
  exact (Session.run?_accounted (Session.start_accounted agent) sent).balance

/-! ### The collector -/

/-- What the agent's end lets through gets to the collector, and the answers get back. -/
structure Roomy (pipeline : Pipeline) : Prop where
  frames : pipeline.sendLimit ≤ pipeline.receiveLimit
  answers : longestAnswer ≤ pipeline.sendLimit

/-- From one pipeline to another, so far as the transport is not concerned, while frames came in at
the collector. -/
structure Meets (before : Pipeline) (landings : List Landing) (after : Pipeline) : Prop where
  network : after.network = before.network
  sendLimit : after.sendLimit = before.sendLimit
  receiveLimit : after.receiveLimit = before.receiveLimit
  service : after.service = takeIn landings before.service
  unreachable : before.network = .down → landings = []

theorem meets_nothing (pipeline : Pipeline) : pipeline.Meets [] pipeline :=
  ⟨rfl, rfl, rfl, rfl, fun _ => rfl⟩

theorem post?_eq_some {channel : Channel} {frame : Bytes} {result : Bytes × Service}
    (posted : pipeline.post? channel frame = some result) :
    pipeline.network = .up ∧ frame.length ≤ min pipeline.sendLimit (UInt32.size - 1) ∧
      pipeline.service.serve channel pipeline.receiveLimit pipeline.clock (framed frame) =
        result := by
  rcases Option.bind_eq_some_iff.mp posted with ⟨stream, sent, visited⟩
  rcases wrap_eq_ok.mp (toOption_eq_some.mp sent) with ⟨short, rfl⟩
  cases network : pipeline.network with
  | up =>
      rw [network] at visited
      exact ⟨rfl, short, Option.some.inj visited⟩
  | down =>
      rw [network] at visited
      cases visited

/-- A frame that is sent is taken in, unless it is too long for the collector. -/
theorem post?_cases {channel : Channel} {frame : Bytes} {result : Bytes × Service}
    (posted : pipeline.post? channel frame = some result) :
    let attended := pipeline.service.attend channel ⟨pipeline.clock, frame⟩
    let answers := attended.1.toList.filter (sendable pipeline.receiveLimit)
    pipeline.receiveLimit < frame.length ∧ result = ([], pipeline.service) ∨
    frame.length ≤ pipeline.receiveLimit ∧
      result = (answers.flatMap fun ack => framed (Frame.ofAck ack).encode, attended.2) := by
  rcases post?_eq_some posted with ⟨-, short, served⟩
  have positive : 0 < UInt32.size := by decide
  have narrow : frame.length < UInt32.size := by omega
  by_cases fits : frame.length ≤ pipeline.receiveLimit
  · exact .inr ⟨fits, served.symm.trans (serve_framed channel _ _ fits narrow)⟩
  · have long := Nat.lt_of_not_le fits
    exact .inl ⟨long, served.symm.trans (serve_long channel _ _ long narrow)⟩

theorem post?_meets {channel : Channel} {frame answer : Bytes} {service : Service}
    (posted : pipeline.post? channel frame = some (answer, service)) :
    ∃ landings, pipeline.Meets landings { pipeline with service } ∧
      (∀ landing ∈ landings, landing.channel = channel ∧ landing.incoming.bytes = frame) ∧
      (pipeline.Roomy → landings = [⟨channel, ⟨pipeline.clock, frame⟩⟩]) := by
  rcases post?_eq_some posted with ⟨up, short, -⟩
  have unreachable {landings : List Landing} : pipeline.network = .down → landings = [] :=
    fun down => nomatch up.symm.trans down
  rcases post?_cases posted with ⟨long, same⟩ | ⟨fits, taken⟩
  · cases same
    refine ⟨[], ⟨rfl, rfl, rfl, rfl, unreachable⟩, nofun, fun roomy => ?_⟩
    have frames := roomy.frames
    omega
  · cases taken
    refine ⟨_, ⟨rfl, rfl, rfl, rfl, unreachable⟩, fun landing member => ?_, fun _ => rfl⟩
    rw [List.mem_singleton.mp member]
    exact ⟨rfl, rfl⟩

/-- A step of a channel that counts so many frames as flushed: as many of the channel came in, with
the bytes that the channel sends. -/
def Lands (before : Pipeline) (channel : Channel) (sends : Bytes → Prop) (flushes : Nat)
    (after : Pipeline) : Prop :=
  ∃ landings, before.Meets landings after ∧
    (∀ landing ∈ landings, landing.channel = channel ∧ sends landing.incoming.bytes) ∧
    (before.Roomy → ∀ other, flushesOn other landings before.service =
      if channel = other then flushes else 0)

theorem lands_nothing (channel : Channel) (sends : Bytes → Prop) (abandoned : List Channel) :
    pipeline.Lands channel sends 0 { pipeline with abandoned } :=
  ⟨[], ⟨rfl, rfl, rfl, rfl, fun _ => rfl⟩, nofun, fun _ _ => (ite_self 0).symm⟩

theorem flushesOn_singleton (other : Channel) (landing : Landing) (service : Service) :
    flushesOn other [landing] service =
      if landing.channel = other then (landing.flushes service).toNat else 0 := by
  rw [flushesOn, flushesOn]
  split <;> simp_all

theorem write_lands {channel : Channel} (streamed : channel ≠ .metadata) (frame : Frame)
    (pipeline : Pipeline) :
    pipeline.Lands channel (fun bytes => bytes = frame.encode)
      (if (pipeline.write channel frame).1 = .written then 1 else 0)
      (pipeline.write channel frame).2 := by
  rw [write]
  split
  next => exact lands_nothing channel _ _
  next answer service posted =>
    rcases post?_meets posted with ⟨landings, meets, carries, arrives⟩
    have counted (roomy : pipeline.Roomy) (other : Channel) :
        flushesOn other landings pipeline.service = if channel = other then 1 else 0 := by
      rw [arrives roomy, flushesOn_singleton]
      simp [Landing.flushes, streamed]
    split
    next => exact ⟨landings, ⟨rfl, rfl, rfl, meets.service, meets.unreachable⟩, carries, counted⟩
    next => exact ⟨landings, meets, carries, counted⟩

theorem streamEvent_lands {channel : Channel} (streamed : channel ≠ .metadata) (stream : Stream)
    (pipeline : Pipeline) :
    pipeline.Lands channel (fun bytes => ∃ frame ∈ stream.phase.frames, bytes = frame.encode)
      (if (pipeline.streamEvent channel stream).1 = .written then 1 else 0)
      (pipeline.streamEvent channel stream).2 := by
  rw [streamEvent]
  split
  case h_4 frame writing =>
    rcases write_lands streamed frame pipeline with ⟨landings, meets, carries, counted⟩
    refine ⟨landings, meets, fun landing member => ?_, counted⟩
    rcases carries landing member with ⟨own, bytes⟩
    exact ⟨own, frame, by rw [writing]; exact List.mem_singleton_self frame, bytes⟩
  case h_2 =>
    cases pipeline.network <;> exact lands_nothing channel _ _
  case h_3 => split <;> exact lands_nothing channel _ _
  all_goals exact lands_nothing channel _ _

/-! ### Answers -/

theorem confirms_nil (maxLength : Nat) (id : UInt64) : confirms maxLength id [] = false := by
  have nothing := @unwrapAll_framed maxLength [] (by simp)
  rw [confirms, ← @List.flatMap_nil _ _ framed, nothing]

theorem confirms_framed {maxLength : Nat} {ack : Ack} (sent : sendable maxLength ack = true)
    (limit : Nat) :
    confirms limit ack.requestId (framed (Frame.ofAck ack).encode) =
      (ack.success && sendable limit ack) := by
  have length : (Frame.ofAck ack).encode.length = (Frame.ofAck ack).encodedLength :=
    Nat.add_comm _ _
  have positive : 0 < UInt32.size := by decide
  have short := Frame.fits_iff.mp sent
  have narrow : (Frame.ofAck ack).encode.length < UInt32.size := by omega
  by_cases fits : (Frame.ofAck ack).encode.length ≤ limit
  · have whole := @unwrapAll_framed limit [(Frame.ofAck ack).encode] (by simp [fits, narrow])
    rw [List.flatMap_singleton] at whole
    have sendable : sendable limit ack = true := Frame.fits_iff.mpr (by omega)
    rw [confirms, whole, sendable, Bool.and_true]
    dsimp only
    rw [Frame.decodeAck_ofAck, if_pos rfl]
    rfl
  · have unsendable : sendable limit ack = false :=
      Bool.eq_false_iff.mpr fun fits => by have := Frame.fits_iff.mp fits; omega
    rw [confirms, unwrapAll_long (Nat.lt_of_not_le fits) narrow, unsendable, Bool.and_false]

theorem reading_encodeRequest {receiver : Receiver} {now : Int64} {id : UInt64} {frame : Frame}
    {result : Option UInt64 × Except CollectorError (List Write)}
    (read : receiver.reading .metadata ⟨now, frame.encodeRequest id⟩ = .ok result) :
    result = (some id, receiver.requestWrites frame) := by
  rcases map_eq_ok.mp read with ⟨request, decoded, rfl⟩
  cases Frame.eq_of_decodeRequest_encodeRequest decoded
  rfl

/-- The message of a request that is handled is entered. -/
theorem enters_of_handles {service : Service} {now : Int64} {id : UInt64} {frame : Frame}
    (handled : service.handles .metadata ⟨now, frame.encodeRequest id⟩ = true) :
    ∃ message, requestMessage? frame = some message ∧
      Enters service.receiver.serviceUid message service.store
        (service.attend .metadata ⟨now, frame.encodeRequest id⟩).2.store := by
  cases read : service.receiver.reading .metadata ⟨now, frame.encodeRequest id⟩ with
  | error cause =>
      rw [(Service.attend_of_unreadable read).2] at handled
      cases handled
  | ok result =>
      rcases reading_encodeRequest read with rfl
      rcases Service.attend_of_reading read with ⟨attended, handles⟩
      have asked := Service.performed_of_execute (handles.symm.trans handled)
      rcases Receiver.enters_of_requestWrites asked with ⟨message, carried, entered⟩
      refine ⟨message, carried, ?_⟩
      rw [attended, Service.store_execute]
      exact entered service.store

/-- A request is acknowledged if it is handled and the answer gets back. -/
theorem confirms_attend (sendLimit receiveLimit : Nat) (id : UInt64) (frame : Frame) (now : Int64)
    (service : Service) :
    let incoming : Incoming := ⟨now, frame.encodeRequest id⟩
    let answers := (service.attend .metadata incoming).1.toList.filter (sendable receiveLimit)
    confirms sendLimit id (answers.flatMap fun ack => framed (Frame.ofAck ack).encode) =
      (service.handles .metadata incoming && sendable receiveLimit ⟨id, true⟩ &&
        sendable sendLimit ⟨id, true⟩) := by
  intro incoming answers
  cases read : service.receiver.reading .metadata incoming with
  | error cause =>
      rcases Service.attend_of_unreadable read with ⟨attended, handled⟩
      have none : answers = [] := by
        dsimp only [answers]
        rw [attended]
        rfl
      rw [none, handled]
      exact confirms_nil sendLimit id
  | ok result =>
      rcases reading_encodeRequest read with rfl
      rcases Service.attend_of_reading read with ⟨attended, handled⟩
      dsimp only [answers]
      rw [attended, handled]
      dsimp only [Option.map_some, Option.toList_some]
      generalize (service.execute (service.receiver.requestWrites frame)).1.isOk = success
      rw [List.filter_singleton]
      cases sent : sendable receiveLimit ⟨id, success⟩ with
      | false =>
          rw [Bool.cond_false]
          cases success with
          | false => exact confirms_nil sendLimit id
          | true => rw [sent]; exact confirms_nil sendLimit id
      | true =>
          rw [Bool.cond_true, List.flatMap_singleton]
          have answer := confirms_framed sent sendLimit
          cases success with
          | false => exact answer
          | true => rw [sent]; exact answer

theorem post?_confirms {request : Request} {answer : Bytes} {service : Service}
    (posted : pipeline.post? .metadata (request.frame.encodeRequest request.id) =
      some (answer, service)) :
    let incoming : Incoming := ⟨pipeline.clock, request.frame.encodeRequest request.id⟩
    (confirms pipeline.sendLimit request.id answer = true →
      service = (pipeline.service.attend .metadata incoming).2 ∧
        pipeline.service.handles .metadata incoming = true) ∧
    (pipeline.Roomy → confirms pipeline.sendLimit request.id answer =
      pipeline.service.handles .metadata incoming) := by
  rcases post?_cases posted with ⟨long, same⟩ | ⟨fits, taken⟩
  · cases same
    rw [confirms_nil]
    refine ⟨nofun, fun roomy => ?_⟩
    have short := (post?_eq_some posted).2.1
    have frames := roomy.frames
    omega
  · cases taken
    rw [confirms_attend]
    refine ⟨fun confirmed => ?_, fun roomy => ?_⟩
    · simp only [Bool.and_eq_true] at confirmed
      exact ⟨rfl, confirmed.1.1⟩
    · have answers := roomy.answers
      rw [sendable_of_wide (answers.trans roomy.frames), sendable_of_wide answers, Bool.and_true,
        Bool.and_true]

/-- A request is acknowledged only if its message is entered. -/
theorem exchange_acknowledged {request : Request}
    (acknowledged : pipeline.exchange request = (.acknowledged, next)) :
    ∃ message, requestMessage? request.frame = some message ∧
      Enters pipeline.service.receiver.serviceUid message pipeline.service.store
        next.service.store := by
  rw [exchange] at acknowledged
  split at acknowledged
  next => cases acknowledged
  next answer service posted =>
    split at acknowledged
    next confirmed =>
      cases acknowledged
      rcases (post?_confirms posted).1 confirmed with ⟨rfl, handled⟩
      exact enters_of_handles handled
    next => cases acknowledged

theorem exchange_lands (request : Request) (pipeline : Pipeline) :
    pipeline.Lands .metadata (fun bytes => bytes = request.frame.encodeRequest request.id)
      (if (pipeline.exchange request).1 = .acknowledged then 1 else 0)
      (pipeline.exchange request).2 := by
  rw [exchange]
  split
  next => exact lands_nothing .metadata _ _
  next answer service posted =>
    rcases post?_meets posted with ⟨landings, meets, carries, arrives⟩
    have counted (roomy : pipeline.Roomy) (other : Channel) :
        flushesOn other landings pipeline.service =
          if .metadata = other then (confirms pipeline.sendLimit request.id answer).toNat
          else 0 := by
      rw [arrives roomy, flushesOn_singleton, (post?_confirms posted).2 roomy]
      rfl
    split
    next confirmed =>
      rw [confirmed] at counted
      exact ⟨landings, meets, carries, counted⟩
    next unconfirmed =>
      rw [Bool.eq_false_iff.mpr unconfirmed] at counted
      exact ⟨landings, meets, carries, counted⟩

theorem requestEvent_lands (channel : RequestChannel) (pipeline : Pipeline) :
    pipeline.Lands .metadata
      (fun bytes => ∃ request, channel.phase = .requesting request ∧
        bytes = request.frame.encodeRequest request.id)
      (if (pipeline.requestEvent channel).1 = .acknowledged then 1 else 0)
      (pipeline.requestEvent channel).2 := by
  rw [requestEvent]
  split
  next => exact lands_nothing .metadata _ _
  next request requesting =>
    rcases exchange_lands request pipeline with ⟨landings, meets, carries, counted⟩
    refine ⟨landings, meets, fun landing member => ?_, counted⟩
    rcases carries landing member with ⟨own, bytes⟩
    exact ⟨own, request, requesting, bytes⟩
  next => exact lands_nothing .metadata _ _

/-! ### Runs -/

/-- From one pipeline to a later one, while frames came in at the collector. The transport at the
end has only frames that are known for their channels, and only such frames came in. -/
structure Delivers (known : Channel → Frame → Prop) (before : Pipeline) (landings : List Landing)
    (after : Pipeline) : Prop where
  has : after.transport.Has known []
  meets : before.Meets landings after
  brings : ∀ landing ∈ landings, ∃ frame, known landing.channel frame ∧ landing.Brings frame
  flushed : before.Roomy → ∀ channel, (after.transport.counters channel).flushed =
    (before.transport.counters channel).flushed + flushesOn channel landings before.service

variable {known : Channel → Frame → Prop}

theorem Meets.trans {first second third : Pipeline} {landings more : List Landing}
    (before : first.Meets landings second) (after : second.Meets more third) :
    first.Meets (landings ++ more) third where
  network := after.network.trans before.network
  sendLimit := after.sendLimit.trans before.sendLimit
  receiveLimit := after.receiveLimit.trans before.receiveLimit
  service := by
    rw [after.service, before.service]
    exact List.foldl_append.symm
  unreachable := fun down => by
    rw [before.unreachable down, after.unreachable (before.network.trans down)]
    rfl

theorem Meets.roomy {landings : List Landing} (meets : pipeline.Meets landings next)
    (roomy : pipeline.Roomy) : next.Roomy :=
  ⟨by rw [meets.sendLimit, meets.receiveLimit]; exact roomy.frames,
    by rw [meets.sendLimit]; exact roomy.answers⟩

theorem Delivers.trans {first second third : Pipeline} {landings more : List Landing}
    (before : first.Delivers known landings second) (after : second.Delivers known more third) :
    first.Delivers known (landings ++ more) third where
  has := after.has
  meets := before.meets.trans after.meets
  brings := List.forall_mem_append.mpr ⟨before.brings, after.brings⟩
  flushed := fun roomy channel => by
    rw [after.flushed (before.meets.roomy roomy) channel, before.flushed roomy channel,
      flushesOn_append, before.meets.service, Nat.add_assoc]

theorem delivers_nothing {transport : Transport} (has : transport.Has known [])
    (unflushed : ∀ channel, (transport.counters channel).flushed =
      (pipeline.transport.counters channel).flushed) :
    pipeline.Delivers known [] { pipeline with transport } :=
  ⟨has, ⟨rfl, rfl, rfl, rfl, fun _ => rfl⟩, nofun, fun _ => unflushed⟩

/-- A step of a channel that counts frames as flushed delivers them. -/
theorem Lands.delivers {channel : Channel} {sends : Bytes → Prop} {flushes : Nat}
    {transport : Transport} (lands : pipeline.Lands channel sends flushes next)
    (has : transport.Has known [])
    (brings : ∀ landing : Landing, landing.channel = channel → sends landing.incoming.bytes →
      ∃ frame, known channel frame ∧ landing.Brings frame)
    (flushed : ∀ other, (transport.counters other).flushed =
      (pipeline.transport.counters other).flushed + if channel = other then flushes else 0) :
    ∃ landings, pipeline.Delivers known landings { next with transport } := by
  rcases lands with ⟨landings, meets, carries, counted⟩
  refine ⟨landings, has, ⟨meets.network, meets.sendLimit, meets.receiveLimit, meets.service,
    meets.unreachable⟩, fun landing member => ?_, fun roomy other => ?_⟩
  · rcases carries landing member with ⟨rfl, sent⟩
    exact brings landing rfl sent
  · rw [counted roomy]
    exact flushed other

/-- What a stream writes are frames that it has. -/
theorem brings_of_writing {channel : Channel} {stream : Stream} (streamed : channel ≠ .metadata)
    (has : stream.Has (known channel)) (landing : Landing) (own : landing.channel = channel)
    (sent : ∃ frame ∈ stream.phase.frames, landing.incoming.bytes = frame.encode) :
    ∃ frame, known channel frame ∧ landing.Brings frame := by
  rcases sent with ⟨frame, writing, bytes⟩
  refine ⟨frame, has.frames frame (List.mem_append_left _ writing), ?_⟩
  rw [Landing.Brings, own]
  split
  next => exact absurd rfl streamed
  next => exact bytes

theorem Turns.delivers (has : pipeline.transport.Has known []) (turns : pipeline.Turns next) :
    ∃ landings, pipeline.Delivers known landings next := by
  cases turns with
  | span stepped =>
      have reacts := Stream.reacts_of_step? stepped
      have flushed := Stream.reacts_flushed reacts
      refine (streamEvent_lands (by decide) _ pipeline).delivers (has.reactSpan reacts)
        (brings_of_writing (by decide) has.span) fun other => ?_
      cases other with
      | span => exact flushed
      | stat | metadata => rfl
  | stat stepped =>
      have reacts := Stream.reacts_of_step? stepped
      have flushed := Stream.reacts_flushed reacts
      refine (streamEvent_lands (by decide) _ pipeline).delivers (has.reactStat reacts)
        (brings_of_writing (by decide) has.stat) fun other => ?_
      cases other with
      | stat => exact flushed
      | span | metadata => rfl
  | metadata stepped =>
      have flushed := RequestChannel.reacts_flushed (RequestChannel.reacts_of_step? stepped)
      refine (requestEvent_lands _ pipeline).delivers (has.stepMetadata stepped)
        (fun landing own sent => ?_) fun other => ?_
      · rcases sent with ⟨request, requesting, bytes⟩
        rcases has.requests with ⟨assigned, requests, holds, -⟩
        refine ⟨request.frame, requests _ (holds.inFlight request requesting), ?_⟩
        rw [Landing.Brings, own]
        exact ⟨request.id, bytes⟩
      · cases other with
        | metadata => exact flushed
        | span | stat => rfl
  | tick =>
      exact ⟨[], has.advance, ⟨rfl, rfl, rfl, rfl, fun _ => rfl⟩, nofun, fun _ =>
        Transport.runDue_flushed _ _⟩

theorem exists_delivers_settle (channel : Channel) (frames turns : Nat)
    (has : pipeline.transport.Has known []) :
    ∃ landings, pipeline.Delivers known landings (pipeline.settle channel frames turns) := by
  induction turns generalizing pipeline with
  | zero => exact ⟨[], delivers_nothing has fun _ => rfl⟩
  | succ turns induction =>
      rw [settle]
      split
      next => exact ⟨[], delivers_nothing has fun _ => rfl⟩
      next =>
        rcases pipeline.turns_turn.delivers has with ⟨landings, turned⟩
        rcases induction turned.has with ⟨more, settled⟩
        exact ⟨landings ++ more, turned.trans settled⟩

/-- The channel is handed the frame of one of the messages. -/
def Handed (messages : List TelemetryMessage) (channel : Channel) (frame : Frame) : Prop :=
  ∃ message ∈ messages, Frame.ofMessage message = .ok frame ∧ channel? frame.kind = some channel

theorem exists_delivers_send {message : TelemetryMessage} (has : pipeline.transport.Has known [])
    (handed : ∀ channel frame, Handed [message] channel frame → known channel frame) :
    ∃ landings, pipeline.Delivers known landings (pipeline.send message).2 := by
  rcases pipeline.send_cases message with
    ⟨-, -, same⟩ | ⟨frame, channel, frames, turns, made, sent⟩
  · rw [same]
    exact ⟨[], delivers_nothing has fun _ => rfl⟩
  · have hasFrame := has.sendFrame fun channel kind =>
      handed channel frame ⟨message, List.mem_singleton_self message, made, kind⟩
    have before := delivers_nothing hasFrame
      (Transport.sendFrame_flushed frame pipeline.transport)
    rcases exists_delivers_settle channel frames turns before.has with ⟨landings, settled⟩
    rw [sent]
    exact ⟨landings, before.trans settled⟩

theorem exists_delivers_sendAll {messages : List TelemetryMessage}
    (has : pipeline.transport.Has known [])
    (handed : ∀ channel frame, Handed messages channel frame → known channel frame) :
    ∃ landings, pipeline.Delivers known landings (pipeline.sendAll messages) := by
  induction messages generalizing pipeline with
  | nil => exact ⟨[], delivers_nothing has fun _ => rfl⟩
  | cons message messages induction =>
      have first (channel : Channel) (frame : Frame) (sent : Handed [message] channel frame) :
          known channel frame := by
        rcases sent with ⟨other, member, made⟩
        cases List.mem_singleton.mp member
        exact handed channel frame ⟨message, List.mem_cons_self, made⟩
      have others (channel : Channel) (frame : Frame) (sent : Handed messages channel frame) :
          known channel frame := by
        rcases sent with ⟨other, member, made⟩
        exact handed channel frame ⟨other, List.mem_cons_of_mem message member, made⟩
      rcases exists_delivers_send has first with ⟨landings, sent⟩
      rcases induction sent.has others with ⟨more, rest⟩
      exact ⟨landings ++ more, sent.trans rest⟩

/-- The collector ends as the frames that came in make it. Nothing comes in over a network that is
down, and over the other one only frames of the messages, each on its own channel. If the limits let
every frame and every answer through, then as many frames count as flushed on a channel as came in
on it, of requests only those that were handled. -/
theorem flushes_arrive (network : Network) (agent : Delivery.Config)
    (collector : Collector.Config) (clock : Int64) (service : Service)
    (messages : List TelemetryMessage) :
    let sent := (start network agent collector clock service).sendAll messages
    ∃ landings, sent.service = takeIn landings service ∧
      (network = .down → landings = []) ∧
      (∀ landing ∈ landings, ∃ frame,
        Handed messages landing.channel frame ∧ landing.Brings frame) ∧
      (agent.maxFrameLength ≤ collector.maxFrameLength → longestAnswer ≤ agent.maxFrameLength →
        ∀ channel, (sent.transport.counters channel).flushed =
          flushesOn channel landings service) := by
  intro sent
  have has : (start network agent collector clock service).transport.Has (Handed messages) [] :=
    Transport.has_ofConfig agent
  rcases exists_delivers_sendAll has fun _ _ => id with
    ⟨landings, -, ⟨-, -, -, taken, unreachable⟩, brings, flushed⟩
  refine ⟨landings, taken, unreachable, brings, fun frames answers channel => ?_⟩
  rw [flushed ⟨frames, answers⟩ channel]
  cases channel <;> exact Nat.zero_add _

/-- A request is flushed and entered, or dropped after its last retry. -/
example :
    [Network.up, .down].map (fun network => (Service.ofConfig {} []).toOption.map fun service =>
      let agent : Delivery.Config := { timerWheelSize := 1, metadataRetryMaxCount := 1 }
      let sent := ((start network agent {} 0 service).send (.sqlMetadata ⟨"a", 0, 1, ""⟩)).2
      (sent.transport.metadata.flushed, sent.transport.metadata.dropped,
        sent.service.store.sqlMetadata)) =
      [some (1, 0, [⟨"a", 0, 1, ""⟩]), some (0, 1, [])] := by
  decide +kernel

end Pipeline

end Telemetry.Rehearsal
