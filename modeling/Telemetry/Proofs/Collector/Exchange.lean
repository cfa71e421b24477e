import Telemetry.Proofs.Collector.Registrations
import Telemetry.Proofs.Delivery.Frame

namespace Telemetry.Collector

open Wire Message RowKey Delivery

/-! A request and its answer. A metadata message that an agent can encode arrives with the id of its
request and is entered as the agent had it, unless it is a registration that there is no key for.
The answer says which of the two happened, and it is taken for the answer to that request only. -/

/-! ### What is entered -/

/-- A table with the given value under the given key, whatever was there before. -/
def Table.Sets {α : Type} (table later : Table α) (key : Bytes) (value : α) : Prop :=
  ∀ other, later.get? other = if other = key then some value else table.get? other

theorem Table.sets_insert {α : Type} (table : Table α) (key : Bytes) (value : α) :
    table.Sets (table.insert key value) key value :=
  fun other => table.get?_update key other _

/-- A registration that there is no key for: a text is longer than its field, or the start is before
the epoch. -/
def Refused : TelemetryMessage → Prop
  | .agentInfo info =>
      applicationNameWidth < (Text.utf8 info.applicationName).length ∨
        agentIdWidth < (Text.utf8 info.agentId).length ∨ info.agentStartTime < 0
  | .apiMetadata _ => False
  | .sqlMetadata _ => False
  | .stringMetadata _ => False
  | .record _ => False
  | .statBatch _ => False

/-- The message with all its fields is added to its table, or set under its key, and nothing else
changes. -/
def Enters (serviceUid : Int32) (message : TelemetryMessage) (store later : Store) : Prop :=
  match message with
  | .apiMetadata metadata => later = { store with apiMetadata := store.apiMetadata ++ [metadata] }
  | .sqlMetadata metadata => later = { store with sqlMetadata := store.sqlMetadata ++ [metadata] }
  | .stringMetadata metadata =>
      later = { store with stringMetadata := store.stringMetadata ++ [metadata] }
  | .agentInfo info =>
      store.agents.Sets later.agents (startKey serviceUid info) info ∧
        later = { store with agents := later.agents }
  | .record _ => False
  | .statBatch _ => False

theorem not_refused_iff (info : AgentInfo) : ¬ Refused (.agentInfo info) ↔ Listable info := by
  simp only [Refused, not_or, Nat.not_lt, Int64.not_lt, Int64.le_iff_toInt_le, Int64.toInt_zero]
  exact ⟨fun ⟨name, agent, start⟩ => ⟨name, agent, start⟩,
    fun listable => ⟨listable.name, listable.agent, listable.start⟩⟩

/-! ### What is decided -/

/-- The message in the frame of a request, if it can be read. -/
def requestMessage? (frame : Frame) : Option TelemetryMessage :=
  match frame.kind with
  | .apiMetadata => (ApiMetadata.decode frame.payload).toOption.map .apiMetadata
  | .sqlMetadata => (SqlMetadata.decode frame.payload).toOption.map .sqlMetadata
  | .stringMetadata => (StringMetadata.decode frame.payload).toOption.map .stringMetadata
  | .agentInfo => (AgentInfo.decode frame.payload).toOption.map .agentInfo
  | _ => none

theorem requestMessage?_ofMessage {message : TelemetryMessage} {frame : Frame}
    (request : message.kind.isRequest = true) (made : Frame.ofMessage message = .ok frame) :
    requestMessage? frame = some message := by
  rcases bind_eq_ok.mp made with ⟨payload, encoded, made⟩
  cases made
  cases message with
  | apiMetadata metadata =>
      have read := (ApiMetadata.readsBack metadata payload encoded).complete_eq
      exact congrArg (Option.map _) (toOption_eq_some.mpr read)
  | sqlMetadata metadata =>
      have read := (SqlMetadata.readsBack metadata payload encoded).complete_eq
      exact congrArg (Option.map _) (toOption_eq_some.mpr read)
  | stringMetadata metadata =>
      have read := (StringMetadata.readsBack metadata payload encoded).complete_eq
      exact congrArg (Option.map _) (toOption_eq_some.mpr read)
  | agentInfo info =>
      have read := (AgentInfo.readsBack info payload encoded).complete_eq
      exact congrArg (Option.map _) (toOption_eq_some.mpr read)
  | record record => cases record <;> cases request
  | statBatch batch => cases request

namespace Receiver

variable {receiver : Receiver} {frame : Frame}

/-- The collector finds a registration its place, or has no key for it. -/
theorem requestWrites_agentInfo {info : AgentInfo} (kind : frame.kind = .agentInfo)
    (read : AgentInfo.decode frame.payload = .ok info) :
    (¬ Refused (.agentInfo info) ∧ ∃ writes, receiver.requestWrites frame = .ok writes ∧
      ∀ store : Store, Enters receiver.serviceUid (.agentInfo info) store
        (store.applyAll writes)) ∨
    (Refused (.agentInfo info) ∧
      ∃ cause, receiver.requestWrites frame = .error (.rowKey cause)) := by
  have asked : receiver.requestWrites frame =
      keyed (AgentKey.ofAgentInfo receiver.serviceUid info).encode >>= fun key =>
        pure [.agent key info] := by
    rw [requestWrites, kind]
    dsimp only
    rw [read]
    rfl
  cases keyWritten : (AgentKey.ofAgentInfo receiver.serviceUid info).encode with
  | ok key =>
      rcases encode_ofAgentInfo.mp keyWritten with ⟨listable, rfl⟩
      rw [keyWritten] at asked
      exact .inl ⟨(not_refused_iff info).mpr listable, _, asked,
        fun store => ⟨store.agents.sets_insert _ info, rfl⟩⟩
  | error cause =>
      rw [keyWritten] at asked
      refine .inr ⟨?_, cause, asked⟩
      by_contra listed
      have listable := (not_refused_iff info).mp listed
      have found := (@encode_ofAgentInfo receiver.serviceUid info _).mpr ⟨listable, rfl⟩
      rw [keyWritten] at found
      cases found

/-- The collector finds the message of a request its place, or refuses it. -/
theorem requestWrites_of_message {message : TelemetryMessage}
    (carried : requestMessage? frame = some message) :
    (¬ Refused message ∧ ∃ writes, receiver.requestWrites frame = .ok writes ∧
      ∀ store : Store, Enters receiver.serviceUid message store (store.applyAll writes)) ∨
    (Refused message ∧ ∃ cause, receiver.requestWrites frame = .error (.rowKey cause)) := by
  rw [requestMessage?] at carried
  split at carried
  case h_1 kind | h_2 kind | h_3 kind =>
      rcases Option.map_eq_some_iff.mp carried with ⟨metadata, read, rfl⟩
      have found := decoded_eq_ok.mpr (toOption_eq_some.mp read)
      rw [requestWrites, kind]
      exact .inl ⟨id, _, bind_eq_ok.mpr ⟨metadata, found, rfl⟩, fun _ => rfl⟩
  case h_4 kind =>
      rcases Option.map_eq_some_iff.mp carried with ⟨info, read, rfl⟩
      exact requestWrites_agentInfo kind (toOption_eq_some.mp read)
  next => cases carried

/-- What is written for a request enters its message. -/
theorem enters_of_requestWrites {writes : List Write}
    (allowed : receiver.requestWrites frame = .ok writes) :
    ∃ message, requestMessage? frame = some message ∧
      ∀ store : Store, Enters receiver.serviceUid message store (store.applyAll writes) := by
  cases carried : requestMessage? frame with
  | some message =>
      refine ⟨message, rfl, ?_⟩
      rcases requestWrites_of_message carried with ⟨-, found, asked, entered⟩ | ⟨-, cause, refused⟩
      · rw [allowed] at asked
        cases asked
        exact entered
      · rw [allowed] at refused
        cases refused
  | none =>
      rw [requestMessage?] at carried
      rw [requestWrites] at allowed
      split at allowed
      case h_1 kind | h_2 kind | h_3 kind | h_4 kind =>
          rcases bind_eq_ok.mp allowed with ⟨found, read, -⟩
          rw [kind, decoded_eq_ok.mp read] at carried
          cases carried
      next => cases allowed

end Receiver

/-! ### What is answered -/

namespace Service

variable {service : Service} {message : TelemetryMessage} {frame : Frame}

theorem handleRequest_of_writes {writes : List Write} (inService : service.outages = [])
    (allowed : service.receiver.requestWrites frame = .ok writes) (id : UInt64) :
    (service.handleRequest id frame).1 = ⟨id, true⟩ ∧
      (service.handleRequest id frame).2.store = service.store.applyAll writes := by
  rw [handleRequest, allowed, execute_ok inService]
  exact ⟨rfl, rfl⟩

theorem handleRequest_of_error {error : CollectorError}
    (refused : service.receiver.requestWrites frame = .error error) (id : UInt64) :
    (service.handleRequest id frame).1 = ⟨id, false⟩ ∧
      (service.handleRequest id frame).2.store = service.store := by
  rw [handleRequest, refused, execute_error]
  exact ⟨rfl, rfl⟩

/-- A request with a metadata message is read as it was sent and answered under its id: with success
if the message is entered, and without it if the message is refused and nothing changes. The answer
is accepted for this id and for no other. -/
theorem request_answered (inService : service.outages = [])
    (request : message.kind.isRequest = true) (made : Frame.ofMessage message = .ok frame)
    (id : UInt64) :
    Frame.decodeRequest (frame.encodeRequest id) = .ok (id, frame) ∧
    ∃ success, (service.handleRequest id frame).1 = ⟨id, success⟩ ∧
      (¬ Refused message ∧ success = true ∧
          Enters service.receiver.serviceUid message service.store
            (service.handleRequest id frame).2.store ∨
        Refused message ∧ success = false ∧
          (service.handleRequest id frame).2.store = service.store) ∧
      ∀ asked, Frame.decodeAck (Frame.ofAck ⟨id, success⟩).encode asked =
        if id = asked then .ok ⟨id, success⟩ else .error (.otherRequest id asked) := by
  have kind : frame.kind.isRequest = true := by
    rcases bind_eq_ok.mp made with ⟨payload, -, made⟩
    cases made
    exact request
  refine ⟨by rw [Frame.decodeRequest_encodeRequest, if_pos kind], ?_⟩
  have carried := requestMessage?_ofMessage request made
  rcases Receiver.requestWrites_of_message carried with
    ⟨listed, writes, allowed, entered⟩ | ⟨refused, cause, forbidden⟩
  · rcases handleRequest_of_writes inService allowed id with ⟨answer, store⟩
    rw [store]
    exact ⟨true, answer, .inl ⟨listed, rfl, entered service.store⟩, Frame.decodeAck_ofAck _⟩
  · rcases handleRequest_of_error forbidden id with ⟨answer, store⟩
    exact ⟨false, answer, .inr ⟨refused, rfl, store⟩, Frame.decodeAck_ofAck _⟩

/-- The start of an agent at the epoch, at the bounds of the other numbers, whose application has a
NUL for a name. -/
def startAtEpoch : AgentInfo := ⟨"a", 0, "\u0000", -32768, "", "", 2147483647, ""⟩

def startAtEpochFrame : Frame :=
  ⟨.agentInfo, [1, 2, 97, 0, 2, 0, 255, 255, 3, 0, 0, 254, 255, 255, 255, 15, 0]⟩

theorem request_answered_startAtEpoch :
    ∃ service, ofConfig {} [] = .ok service ∧ service.outages = [] ∧
      (TelemetryMessage.agentInfo startAtEpoch).kind.isRequest = true ∧
      Frame.ofMessage (.agentInfo startAtEpoch) = .ok startAtEpochFrame ∧
      Frame.decodeRequest (startAtEpochFrame.encodeRequest 18446744073709551615) =
        .ok (18446744073709551615, startAtEpochFrame) ∧
      (service.handleRequest 18446744073709551615 startAtEpochFrame).1 =
        ⟨18446744073709551615, true⟩ ∧
      Enters service.receiver.serviceUid (.agentInfo startAtEpoch) service.store
        (service.handleRequest 18446744073709551615 startAtEpochFrame).2.store ∧
      Frame.decodeAck (Frame.ofAck ⟨18446744073709551615, true⟩).encode 0 =
        .error (.otherRequest 18446744073709551615 0) := by
  rcases Receiver.exists_ofConfig {} (by decide) (by decide) (by decide) with ⟨receiver, made⟩
  have encoded : Frame.ofMessage (.agentInfo startAtEpoch) = .ok startAtEpochFrame := by cbv
  have listable : Listable startAtEpoch := ⟨by decide, by decide, by decide⟩
  let service : Service := ⟨receiver, .empty, .zero, []⟩
  refine ⟨service, bind_eq_ok.mpr ⟨receiver, made, rfl⟩, rfl, rfl, encoded, ?_⟩
  rcases @request_answered service _ _ rfl rfl encoded 18446744073709551615 with
    ⟨read, success, answer, ⟨-, rfl, entered⟩ | ⟨refused, -⟩, acknowledged⟩
  · exact ⟨read, answer, entered, acknowledged 0⟩
  · exact absurd refused ((not_refused_iff startAtEpoch).mpr listable)

end Service

end Telemetry.Collector
