import Telemetry.Proofs.Collector.RecentTraces
import Telemetry.Proofs.RowKey.Identity

namespace Telemetry.Collector

open Wire Trace Message RowKey Delivery

/-! How the agent index comes about. A key tells the application, the service type, the agent and
the start of a registration, names as the fields that they fill. Over any sequence of arrivals the
index holds, under every such key, the last registration that was acknowledged with success. -/

/-- The field that the id of an agent fills in a key. -/
def agentField (agentId : String) : Bytes :=
  Text.utf8 agentId ++ List.replicate (agentIdWidth - (Text.utf8 agentId).length) 0

/-- Whether two registrations are of the same start of the same agent. -/
def SameStart (info other : AgentInfo) : Prop :=
  nameField info.applicationName = nameField other.applicationName ∧
    info.serviceTypeCode = other.serviceTypeCode ∧
    agentField info.agentId = agentField other.agentId ∧
    info.agentStartTime = other.agentStartTime

/-- The registration that a request makes. -/
def registration? (frame : Frame) : Option AgentInfo :=
  if frame.kind = .agentInfo then (AgentInfo.decode frame.payload).toOption else none

namespace Service

/-- The registration that is acknowledged with success. -/
def acceptedRegistration? (service : Service) : Arrival → Option AgentInfo
  | .streamed _ _ => none
  | .request id frame =>
      if (service.handleRequest id frame).1.success then registration? frame else none

/-- The registrations that are acknowledged with success, in the order of their arrival. -/
def registrations : List Arrival → Service → List AgentInfo
  | [], _ => []
  | arrival :: arrivals, service =>
      (service.acceptedRegistration? arrival).toList ++
        registrations arrivals (service.takeIn arrival)

end Service

/-! ### Keys -/

/-- The texts fit into their fields, and the start is not before the epoch. -/
structure Listable (info : AgentInfo) : Prop where
  name : (Text.utf8 info.applicationName).length ≤ applicationNameWidth
  agent : (Text.utf8 info.agentId).length ≤ agentIdWidth
  start : 0 ≤ info.agentStartTime.toInt

/-- The key of a registration, put together from its fields. -/
def startKey (serviceUid : Int32) (info : AgentInfo) : Bytes :=
  putInt32 serviceUid ++ (nameField info.applicationName ++
    (putInt32 info.serviceTypeCode.toInt32 ++ (agentField info.agentId ++
      putInt64 (maxTimestamp - info.agentStartTime))))

section Keys

variable {serviceUid : Int32} {info other : AgentInfo} {key : Bytes} {agentId : String}

theorem putPadded_agentField (fits : (Text.utf8 agentId).length ≤ agentIdWidth) :
    putPadded agentIdWidth agentId = .ok (agentField agentId) :=
  putPadded_eq_ok.mpr ⟨fits, rfl⟩

theorem encode_ofAgentInfo : (AgentKey.ofAgentInfo serviceUid info).encode = .ok key ↔
    Listable info ∧ key = startKey serviceUid info := by
  rw [AgentKey.encode_eq_ok]
  constructor
  · rintro ⟨application, agentId, nameWritten, agentWritten, notNegative, rfl⟩
    rcases putPadded_eq_ok.mp nameWritten with ⟨nameFits, rfl⟩
    rcases putPadded_eq_ok.mp agentWritten with ⟨agentFits, rfl⟩
    exact ⟨⟨nameFits, agentFits, notNegative⟩, rfl⟩
  · rintro ⟨listable, rfl⟩
    exact ⟨_, _, putPadded_nameField listable.name, putPadded_agentField listable.agent,
      listable.start, rfl⟩

theorem Listable.length_nameField (listable : Listable info) :
    (nameField info.applicationName).length = applicationNameWidth :=
  length_putPadded (putPadded_nameField listable.name)

theorem Listable.length_agentField (listable : Listable info) :
    (agentField info.agentId).length = agentIdWidth :=
  length_putPadded (putPadded_agentField listable.agent)

theorem toInt32_inj {code otherCode : Int16} :
    code.toInt32 = otherCode.toInt32 ↔ code = otherCode := by
  rw [← Int32.toInt_inj, Int16.toInt_toInt32, Int16.toInt_toInt32, Int16.toInt_inj]

/-- Two registrations have one key exactly if they are of one start. -/
theorem startKey_inj (listable : Listable info) (otherListable : Listable other) :
    startKey serviceUid info = startKey serviceUid other ↔ SameStart info other := by
  have nameWidth := listable.length_nameField.trans otherListable.length_nameField.symm
  have agentWidth := listable.length_agentField.trans otherListable.length_agentField.symm
  have number : (putInt32 info.serviceTypeCode.toInt32).length =
      (putInt32 other.serviceTypeCode.toInt32).length :=
    (length_putInt32 _).trans (length_putInt32 _).symm
  rw [startKey, startKey, List.append_right_inj,
    List.append_eq_append_iff_of_size_eq_left nameWidth,
    List.append_eq_append_iff_of_size_eq_left number,
    List.append_eq_append_iff_of_size_eq_left agentWidth, putInt32_inj, toInt32_inj,
    putInt64_inverted_inj listable.start otherListable.start, SameStart]

end Keys

/-! ### The index -/

/-- The last registration of its start. -/
def IsLatest (registrations : List AgentInfo) (info : AgentInfo) : Prop :=
  ∃ earlier later, registrations = earlier ++ info :: later ∧
    ∀ other ∈ later, ¬ SameStart other info

theorem IsLatest.mem {registrations : List AgentInfo} {info : AgentInfo}
    (latest : IsLatest registrations info) : info ∈ registrations := by
  rcases latest with ⟨earlier, later, rfl, -⟩
  simp

/-- The table holds the last registration under every key. -/
structure Registers (serviceUid : Int32) (table : Table AgentInfo)
    (registrations : List AgentInfo) : Prop where
  listable : ∀ info ∈ registrations, Listable info
  held : ∀ key, table.get? key =
    registrations.reverse.find? fun info => startKey serviceUid info = key

theorem registers_empty (serviceUid : Int32) : Registers serviceUid .empty [] where
  listable := by simp
  held := fun _ => rfl

namespace Registers

variable {serviceUid : Int32} {table : Table AgentInfo} {registrations : List AgentInfo}
  {info : AgentInfo}

theorem insert (registers : Registers serviceUid table registrations) (listable : Listable info) :
    Registers serviceUid (table.insert (startKey serviceUid info) info)
      (registrations ++ [info]) where
  listable := by
    intro present member
    rcases List.mem_append.mp member with old | new
    · exact registers.listable present old
    · exact List.mem_singleton.mp new ▸ listable
  held := by
    intro key
    rw [Table.insert, Table.get?_update, registers.held, List.reverse_append,
      List.reverse_singleton, List.singleton_append, List.find?_cons]
    by_cases same : key = startKey serviceUid info
    · simp [same]
    · simp [same, Ne.symm same]

/-- What the table holds is the last registration of its start. -/
theorem get?_eq_some (registers : Registers serviceUid table registrations) {key : Bytes} :
    table.get? key = some info ↔
      IsLatest registrations info ∧ startKey serviceUid info = key := by
  rw [registers.held, List.find?_eq_some_iff_append]
  constructor
  · rintro ⟨same, later, earlier, parts, different⟩
    have same := of_decide_eq_true same
    have whole : registrations = earlier.reverse ++ info :: later.reverse := by
      rw [← List.reverse_reverse registrations, parts]
      simp
    refine ⟨⟨earlier.reverse, later.reverse, whole, ?_⟩, same⟩
    intro other member sameStart
    have listable := registers.listable other (by simp [whole, List.mem_reverse.mp member])
    have infoListable := registers.listable info (by simp [whole])
    have keys : startKey serviceUid other = startKey serviceUid info :=
      (startKey_inj listable infoListable).mpr sameStart
    have other := different other (List.mem_reverse.mp member)
    simp [keys, same] at other
  · rintro ⟨⟨earlier, later, rfl, different⟩, rfl⟩
    refine ⟨by simp, later.reverse, earlier.reverse, by simp, ?_⟩
    intro other member
    have member := List.mem_reverse.mp member
    have listable := registers.listable other (by simp [member])
    have infoListable := registers.listable info (by simp)
    simpa [startKey_inj listable infoListable] using different other member

/-- Every start that was registered has a last registration. -/
theorem exists_latest (registers : Registers serviceUid table registrations)
    (member : info ∈ registrations) :
    ∃ latest, IsLatest registrations latest ∧ SameStart latest info := by
  cases held : table.get? (startKey serviceUid info) with
  | none =>
      rw [registers.held, List.find?_eq_none] at held
      have other := held info (List.mem_reverse.mpr member)
      simp at other
  | some latest =>
      rcases registers.get?_eq_some.mp held with ⟨isLatest, same⟩
      exact ⟨latest, isLatest, (startKey_inj (registers.listable latest isLatest.mem)
        (registers.listable info member)).mp same⟩

end Registers

/-! ### Arrivals -/

namespace Service

variable {service : Service}

/-- A streamed frame leaves the agent index alone. -/
theorem handle_agents (inService : service.outages = []) (now : Int64) (frame : Frame) :
    (service.handle now frame).2.store.agents = service.store.agents := by
  rw [handle]
  cases allowed : service.receiver.streamWrites now frame with
  | error cause => rfl
  | ok writes =>
      rw [execute_ok inService]
      rcases Receiver.streamWrites_eq_ok allowed with
        ⟨write, rfl, other⟩ | ⟨key, indexKey, span, -, rfl⟩
      · cases write <;> first | rfl | exact absurd rfl other
      · rfl

/-- A request that is allowed registers a start under its key, or does not touch the agent
index. -/
theorem applyAll_requestWrites {frame : Frame} {writes : List Write}
    (allowed : service.receiver.requestWrites frame = .ok writes) :
    match registration? frame with
    | none => (service.store.applyAll writes).agents = service.store.agents
    | some info => Listable info ∧ (service.store.applyAll writes).agents =
        service.store.agents.insert (startKey service.receiver.serviceUid info) info := by
  rw [Receiver.requestWrites] at allowed
  split at allowed
  case h_1 kind | h_2 kind | h_3 kind =>
    rcases bind_eq_ok.mp allowed with ⟨metadata, -, written⟩
    cases written
    simp [registration?, kind, Store.applyAll, Store.apply]
  next kind =>
    rcases bind_eq_ok.mp allowed with ⟨info, read, written⟩
    rcases bind_eq_ok.mp written with ⟨key, keyWritten, written⟩
    cases written
    rcases encode_ofAgentInfo.mp (keyed_eq_ok.mp keyWritten) with ⟨listable, rfl⟩
    rw [registration?, if_pos kind, decoded_eq_ok.mp read]
    exact ⟨listable, rfl⟩
  next => cases allowed

/-- A request that registers a start is entered into the agent index under its key, and other
requests leave it alone. -/
theorem handleRequest_agents (inService : service.outages = []) (id : UInt64) (frame : Frame) :
    match service.acceptedRegistration? (.request id frame) with
    | none => (service.handleRequest id frame).2.store.agents = service.store.agents
    | some info => Listable info ∧ (service.handleRequest id frame).2.store.agents =
        service.store.agents.insert (startKey service.receiver.serviceUid info) info := by
  rw [acceptedRegistration?, handleRequest]
  cases allowed : service.receiver.requestWrites frame with
  | error cause => rfl
  | ok writes =>
      rw [execute_ok inService]
      exact applyAll_requestWrites allowed

theorem takeIn_registers {registrations : List AgentInfo} (inService : service.outages = [])
    (registers : Registers service.receiver.serviceUid service.store.agents registrations)
    (arrival : Arrival) :
    Registers service.receiver.serviceUid (service.takeIn arrival).store.agents
      (registrations ++ (service.acceptedRegistration? arrival).toList) := by
  cases arrival with
  | streamed now frame =>
      rw [takeIn, handle_agents inService]
      simpa [acceptedRegistration?] using registers
  | request id frame =>
      have changed := handleRequest_agents inService id frame
      cases registered : service.acceptedRegistration? (.request id frame) with
      | none =>
          rw [registered] at changed
          rw [takeIn, changed]
          simpa using registers
      | some info =>
          rw [registered] at changed
          rw [takeIn, changed.2]
          exact registers.insert changed.1

/-- After any sequence of arrivals the agent index holds the last registration of every start. -/
theorem takeInAll_registers {registered : List AgentInfo} (inService : service.outages = [])
    (registers : Registers service.receiver.serviceUid service.store.agents registered)
    (arrivals : List Arrival) :
    (service.takeInAll arrivals).receiver = service.receiver ∧
      (service.takeInAll arrivals).outages = [] ∧
      Registers service.receiver.serviceUid (service.takeInAll arrivals).store.agents
        (registered ++ service.registrations arrivals) :=
  takeInAll_entered
    (fun receiver store registered => Registers receiver.serviceUid store.agents registered)
    acceptedRegistration? registrations (fun _ => rfl) (fun _ _ _ => rfl)
    (fun _ _ arrival inService registers => takeIn_registers inService registers arrival)
    inService registers arrivals

end Service

end Telemetry.Collector
