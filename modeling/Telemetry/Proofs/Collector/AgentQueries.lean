import Telemetry.Proofs.Collector.Registrations

namespace Telemetry.Collector

open Wire Trace Message RowKey Delivery

/-! Queries over the agent index. What a query asks for is the beginning of the keys of exactly the
registrations that it is about, so a scan finds the last registrations of their starts, each once,
and the order of the keys is the order of the answer. -/

/-- The order of answers: by the bits of the service type, then by the agent, the newest start
first. -/
def ListedBefore (first later : AgentInfo) : Prop :=
  first.serviceTypeCode.toUInt16 < later.serviceTypeCode.toUInt16 ∨
    first.serviceTypeCode = later.serviceTypeCode ∧
      (agentField first.agentId < agentField later.agentId ∨
        agentField first.agentId = agentField later.agentId ∧
          later.agentStartTime < first.agentStartTime)

def OfApplication (name : String) (info : AgentInfo) : Prop :=
  nameField info.applicationName = nameField name

def OfServiceType (name : String) (code : Int16) (info : AgentInfo) : Prop :=
  OfApplication name info ∧ info.serviceTypeCode = code

def OfAgent (name : String) (code : Int16) (agentId : String) (info : AgentInfo) : Prop :=
  OfServiceType name code info ∧ agentField info.agentId = agentField agentId

/-- An answer: the last registrations of the starts that are asked for, in order. -/
structure Listing (registrations : List AgentInfo) (asked : AgentInfo → Prop)
    (infos : List AgentInfo) : Prop where
  ordered : infos.Pairwise ListedBefore
  mem_iff : ∀ info, info ∈ infos ↔ IsLatest registrations info ∧ asked info

/-! ### The order of keys -/

/-- A negative code keeps its bits behind the ones that it is widened with. -/
theorem toNat_toUInt32 (code : Int16) : code.toInt32.toUInt32.toNat =
    if code.toUInt16.toNat < 2 ^ 15 then code.toUInt16.toNat
    else code.toUInt16.toNat + (2 ^ 32 - 2 ^ 16) := by
  have wide := code.toInt32.toBitVec.toInt_eq_toNat_cond
  have narrow := code.toBitVec.toInt_eq_toNat_cond
  rw [Int32.toInt_toBitVec, Int32.toNat_toBitVec, Int16.toInt_toInt32] at wide
  rw [Int16.toInt_toBitVec, Int16.toNat_toBitVec] at narrow
  have wideFits := code.toInt32.toUInt32.toNat_lt
  have narrowFits := code.toUInt16.toNat_lt
  split at wide <;> split at narrow <;> split <;> omega

theorem putInt32_lt_iff (code other : Int16) :
    putInt32 code.toInt32 < putInt32 other.toInt32 ↔ code.toUInt16 < other.toUInt16 := by
  have width (value : Int32) : value.toUInt32.toNat % 256 ^ 4 = value.toUInt32.toNat :=
    Nat.mod_eq_of_lt value.toUInt32.toNat_lt
  have fits := code.toUInt16.toNat_lt
  have otherFits := other.toUInt16.toNat_lt
  rw [putInt32, putInt32, bigEndian_lt_bigEndian_iff, width, width, toNat_toUInt32,
    toNat_toUInt32, UInt16.lt_iff_toNat_lt]
  split <;> split <;> omega

section Keys

variable {serviceUid : Int32} {info other : AgentInfo} {name agentId : String} {code : Int16}

/-- Keys of one application are in the order of answers. -/
theorem startKey_lt_iff (listable : Listable info) (otherListable : Listable other)
    (same : nameField info.applicationName = nameField other.applicationName) :
    startKey serviceUid info < startKey serviceUid other ↔ ListedBefore info other := by
  have number : (putInt32 info.serviceTypeCode.toInt32).length =
      (putInt32 other.serviceTypeCode.toInt32).length :=
    (length_putInt32 _).trans (length_putInt32 _).symm
  have agentWidth := listable.length_agentField.trans otherListable.length_agentField.symm
  rw [startKey, startKey, same, append_lt_append_iff rfl, append_lt_append_iff rfl,
    append_lt_append_iff number, append_lt_append_iff agentWidth, putInt32_lt_iff,
    putInt64_inverted_lt_iff listable.start otherListable.start, ListedBefore,
    Int64.lt_iff_toInt_lt]
  simp only [List.lt_irrefl, false_or, true_and, putInt32_inj, toInt32_inj]

/-! ### The beginnings of keys -/

theorem applicationPart_eq_ok (fits : (Text.utf8 name).length ≤ applicationNameWidth) :
    AgentKey.applicationPart serviceUid name = .ok (putInt32 serviceUid ++ nameField name) :=
  bind_eq_ok.mpr ⟨_, written_eq_ok.mpr (putPadded_nameField fits), rfl⟩

theorem serviceTypePart_eq_ok (fits : (Text.utf8 name).length ≤ applicationNameWidth) :
    AgentKey.serviceTypePart serviceUid name code.toInt32 =
      .ok (putInt32 serviceUid ++ nameField name ++ putInt32 code.toInt32) :=
  bind_eq_ok.mpr ⟨_, applicationPart_eq_ok fits, rfl⟩

theorem agentPart_eq_ok (fits : (Text.utf8 name).length ≤ applicationNameWidth)
    (agentFits : (Text.utf8 agentId).length ≤ agentIdWidth) :
    AgentKey.agentPart serviceUid name code.toInt32 agentId =
      .ok (putInt32 serviceUid ++ nameField name ++ putInt32 code.toInt32 ++
        agentField agentId) :=
  bind_eq_ok.mpr ⟨_, serviceTypePart_eq_ok fits,
    bind_eq_ok.mpr ⟨_, written_eq_ok.mpr (putPadded_agentField agentFits), rfl⟩⟩

/-- The fields of a key up to some point are its beginning under which it is found. -/
theorem applicationPart_prefix_iff (listable : Listable info)
    (fits : (Text.utf8 name).length ≤ applicationNameWidth) :
    putInt32 serviceUid ++ nameField name <+: startKey serviceUid info ↔
      OfApplication name info := by
  have width := listable.length_nameField.trans (length_putPadded (putPadded_nameField fits)).symm
  rw [startKey, List.prefix_append_right_inj, prefix_append_iff width.symm, OfApplication]

theorem serviceTypePart_prefix_iff (listable : Listable info)
    (fits : (Text.utf8 name).length ≤ applicationNameWidth) :
    putInt32 serviceUid ++ nameField name ++ putInt32 code.toInt32 <+: startKey serviceUid info ↔
      OfServiceType name code info := by
  have width := listable.length_nameField.trans (length_putPadded (putPadded_nameField fits)).symm
  have number : (putInt32 code.toInt32).length = (putInt32 info.serviceTypeCode.toInt32).length :=
    (length_putInt32 _).trans (length_putInt32 _).symm
  rw [startKey, List.append_assoc, List.prefix_append_right_inj,
    prefix_append_append_iff width.symm, prefix_append_iff number, putInt32_inj, toInt32_inj,
    OfServiceType, OfApplication]

theorem agentPart_prefix_iff (listable : Listable info)
    (fits : (Text.utf8 name).length ≤ applicationNameWidth)
    (agentFits : (Text.utf8 agentId).length ≤ agentIdWidth) :
    putInt32 serviceUid ++ nameField name ++ putInt32 code.toInt32 ++ agentField agentId <+:
        startKey serviceUid info ↔
      OfAgent name code agentId info := by
  have width := listable.length_nameField.trans (length_putPadded (putPadded_nameField fits)).symm
  have agentWidth := listable.length_agentField.trans
    (length_putPadded (putPadded_agentField agentFits)).symm
  have number : (putInt32 code.toInt32).length = (putInt32 info.serviceTypeCode.toInt32).length :=
    (length_putInt32 _).trans (length_putInt32 _).symm
  rw [startKey, List.append_assoc, List.append_assoc, List.prefix_append_right_inj,
    prefix_append_append_iff width.symm, prefix_append_append_iff number,
    prefix_append_iff agentWidth.symm, putInt32_inj, toInt32_inj, OfAgent, OfServiceType,
    OfApplication, and_assoc]

end Keys

/-! ### Scans -/

section Scans

variable {serviceUid : Int32} {table : Table AgentInfo} {registrations : List AgentInfo}
  {beginning : Bytes} {name : String} {asked : AgentInfo → Prop}

/-- Under the beginning of the keys that are asked for stand the last registrations with them. -/
theorem Registers.mem_scan_iff (registers : Registers serviceUid table registrations)
    (found : ∀ info, Listable info → (beginning <+: startKey serviceUid info ↔ asked info))
    (row : Bytes × AgentInfo) :
    row ∈ table.scan beginning ↔
      (IsLatest registrations row.2 ∧ asked row.2) ∧ startKey serviceUid row.2 = row.1 := by
  rw [table.mem_scan_iff, registers.get?_eq_some]
  constructor
  · rintro ⟨⟨latest, key⟩, begins⟩
    rw [← key, found row.2 (registers.listable row.2 latest.mem)] at begins
    exact ⟨⟨latest, begins⟩, key⟩
  · rintro ⟨⟨latest, asks⟩, key⟩
    rw [← found row.2 (registers.listable row.2 latest.mem), key] at asks
    exact ⟨⟨latest, key⟩, asks⟩

/-- A scan under the beginning of the keys that are asked for answers the query. -/
theorem Registers.listing (registers : Registers serviceUid table registrations)
    (found : ∀ info, Listable info → (beginning <+: startKey serviceUid info ↔ asked info))
    (named : ∀ info, asked info → OfApplication name info) :
    Listing registrations asked ((table.scan beginning).map Prod.snd) where
  ordered := by
    refine List.pairwise_map.mpr ((table.pairwise_scan beginning).imp_of_mem ?_)
    intro first later firstMember laterMember before
    rcases (registers.mem_scan_iff found first).mp firstMember with ⟨⟨latest, asks⟩, key⟩
    rcases (registers.mem_scan_iff found later).mp laterMember with
      ⟨⟨otherLatest, otherAsks⟩, otherKey⟩
    rw [← key, ← otherKey] at before
    exact (startKey_lt_iff (registers.listable _ latest.mem)
      (registers.listable _ otherLatest.mem)
      ((named _ asks).trans (named _ otherAsks).symm)).mp before
  mem_iff := by
    intro info
    rw [List.mem_map]
    constructor
    · rintro ⟨row, member, rfl⟩
      exact ((registers.mem_scan_iff found row).mp member).1
    · intro listed
      exact ⟨(startKey serviceUid info, info),
        (registers.mem_scan_iff found _).mpr ⟨listed, rfl⟩, rfl⟩

end Scans

/-! ### Answers -/

section Starts

variable {registrations infos : List AgentInfo} {name agentId : String} {code : Int16}

/-- The starts of one agent are in descending order. -/
theorem Listing.pairwise_starts
    (listing : Listing registrations (OfAgent name code agentId) infos) :
    (infos.map AgentInfo.agentStartTime).Pairwise (· > ·) := by
  refine List.pairwise_map.mpr (listing.ordered.imp_of_mem ?_)
  intro first later firstMember laterMember before
  rcases (listing.mem_iff first).mp firstMember with ⟨-, ⟨-, type⟩, agent⟩
  rcases (listing.mem_iff later).mp laterMember with ⟨-, ⟨-, otherType⟩, otherAgent⟩
  rcases before with types | ⟨-, agents | ⟨-, newer⟩⟩
  · rw [type, otherType] at types
    exact absurd types (UInt16.lt_irrefl _)
  · rw [agent, otherAgent] at agents
    exact absurd agents (List.lt_irrefl _)
  · exact newer

/-- The starts of an agent are those of all its registrations. -/
theorem Listing.mem_starts_iff {serviceUid : Int32} {table : Table AgentInfo}
    (registers : Registers serviceUid table registrations)
    (listing : Listing registrations (OfAgent name code agentId) infos) (start : Int64) :
    start ∈ infos.map AgentInfo.agentStartTime ↔
      ∃ info ∈ registrations, OfAgent name code agentId info ∧ info.agentStartTime = start := by
  rw [List.mem_map]
  constructor
  · rintro ⟨info, member, rfl⟩
    rcases (listing.mem_iff info).mp member with ⟨latest, asked⟩
    exact ⟨info, latest.mem, asked, rfl⟩
  · rintro ⟨info, member, ⟨⟨named, type⟩, agent⟩, rfl⟩
    rcases registers.exists_latest member with ⟨latest, isLatest, name, types, agents, start⟩
    refine ⟨latest, (listing.mem_iff latest).mpr ⟨isLatest, ⟨?_, ?_⟩, ?_⟩, start⟩
    · exact name.trans named
    · exact types.trans type
    · exact agents.trans agent

end Starts

namespace Service

variable {service : Service} {registrations : List AgentInfo} {name agentId : String}
  {code : Int16}

theorem scanAgents_eq_ok (inService : service.outages = [])
    {part : Except RowKeyError Bytes} {beginning : Bytes} (written : part = .ok beginning) :
    service.scanAgents part =
      .ok ((service.store.agents.scan beginning).map Prod.snd) := by
  rw [scanAgents, inService, written]
  rfl

section Registered

variable (inService : service.outages = [])
  (registers : Registers service.receiver.serviceUid service.store.agents registrations)
  (fits : (Text.utf8 name).length ≤ applicationNameWidth)

include inService registers fits

theorem applicationAgents_listing : ∃ infos, service.applicationAgents name = .ok infos ∧
    Listing registrations (OfApplication name) infos :=
  ⟨_, scanAgents_eq_ok inService (applicationPart_eq_ok fits),
    registers.listing (fun _ listable => applicationPart_prefix_iff listable fits)
      fun _ asked => asked⟩

theorem serviceTypeAgents_listing (code : Int16) :
    ∃ infos, service.serviceTypeAgents name code = .ok infos ∧
      Listing registrations (OfServiceType name code) infos :=
  ⟨_, scanAgents_eq_ok inService (serviceTypePart_eq_ok fits),
    registers.listing (fun _ listable => serviceTypePart_prefix_iff listable fits)
      fun _ asked => asked.1⟩

theorem agentStarts_descending (code : Int16)
    (agentFits : (Text.utf8 agentId).length ≤ agentIdWidth) :
    ∃ starts, service.agentStarts name code agentId = .ok starts ∧ starts.Pairwise (· > ·) ∧
      ∀ start, start ∈ starts ↔
        ∃ info ∈ registrations, OfAgent name code agentId info ∧ info.agentStartTime = start := by
  let beginning := putInt32 service.receiver.serviceUid ++ nameField name ++
    putInt32 code.toInt32 ++ agentField agentId
  have scanned : service.scanAgents _ =
      .ok ((service.store.agents.scan beginning).map Prod.snd) :=
    scanAgents_eq_ok inService (agentPart_eq_ok fits agentFits)
  have listing : Listing registrations (OfAgent name code agentId)
      ((service.store.agents.scan beginning).map Prod.snd) :=
    registers.listing (fun _ listable => agentPart_prefix_iff listable fits agentFits)
      fun _ asked => asked.1.1
  exact ⟨_, bind_eq_ok.mpr ⟨_, scanned, rfl⟩, listing.pairwise_starts,
    listing.mem_starts_iff registers⟩

end Registered

/-- A collector that nothing has come to. -/
def fresh (receiver : Receiver) : Service := ⟨receiver, .empty, .zero, []⟩

/-- Queries over the agent index answer with the registrations that were acknowledged with success,
whatever came to the collector: for every start of every agent that is asked for the last one, and
with the starts of an agent. -/
theorem agents_listed (receiver : Receiver) (arrivals : List Arrival) :
    let service := (fresh receiver).takeInAll arrivals
    let registrations := (fresh receiver).registrations arrivals
    ∀ name, (Text.utf8 name).length ≤ applicationNameWidth →
      (∃ infos, service.applicationAgents name = .ok infos ∧
        Listing registrations (OfApplication name) infos) ∧
      ∀ code,
        (∃ infos, service.serviceTypeAgents name code = .ok infos ∧
          Listing registrations (OfServiceType name code) infos) ∧
        ∀ agentId, (Text.utf8 agentId).length ≤ agentIdWidth →
          ∃ starts, service.agentStarts name code agentId = .ok starts ∧
            starts.Pairwise (· > ·) ∧
            ∀ start, start ∈ starts ↔ ∃ info ∈ registrations,
              OfAgent name code agentId info ∧ info.agentStartTime = start := by
  intro service registrations name fits
  have empty : Registers (fresh receiver).receiver.serviceUid (fresh receiver).store.agents [] :=
    registers_empty receiver.serviceUid
  rcases takeInAll_registers rfl empty arrivals with ⟨kept, inService, registers⟩
  rw [← kept, List.nil_append] at registers
  refine ⟨applicationAgents_listing inService registers fits, fun code => ⟨?_, ?_⟩⟩
  · exact serviceTypeAgents_listing inService registers fits code
  · intro agentId agentFits
    exact agentStarts_descending inService registers fits code agentFits

/-- An agent that is registered, registered again after a new start, and corrects its first
registration. -/
def threeRegistrations : List Arrival :=
  [.request 1 ⟨.agentInfo, [1, 2, 97, 2, 2, 99, 10, 0, 0, 0, 0]⟩,
    .request 2 ⟨.agentInfo, [1, 2, 97, 4, 2, 99, 10, 0, 0, 0, 0]⟩,
    .request 3 ⟨.agentInfo, [1, 2, 97, 2, 2, 99, 10, 0, 0, 2, 0]⟩]

def startOf (start : Int64) (pid : Int32) : AgentInfo := ⟨"a", start, "c", 5, "", "", pid, ""⟩

set_option maxRecDepth 4000 in
theorem agents_listed_threeRegistrations :
    ∃ receiver, Receiver.ofConfig {} = .ok receiver ∧
      (fresh receiver).registrations threeRegistrations =
        [startOf 1 0, startOf 2 0, startOf 1 1] ∧
      ∃ infos starts, ((fresh receiver).takeInAll threeRegistrations).applicationAgents "c" =
          .ok infos ∧
        startOf 1 1 ∈ infos ∧
        ((fresh receiver).takeInAll threeRegistrations).agentStarts "c" 5 "a" = .ok starts ∧
        1 ∈ starts ∧ 2 ∈ starts := by
  rcases Receiver.exists_ofConfig {} (by decide) (by decide) (by decide) with ⟨receiver, made⟩
  have registered : (fresh receiver).registrations threeRegistrations =
      [startOf 1 0, startOf 2 0, startOf 1 1] := by
    cases made
    cbv
  refine ⟨receiver, made, registered, ?_⟩
  rcases agents_listed receiver threeRegistrations "c" (by decide) with
    ⟨⟨infos, listed, listing⟩, others⟩
  rcases (others 5).2 "a" (by decide) with ⟨starts, started, -, found⟩
  rw [registered] at listing
  have latest : IsLatest [startOf 1 0, startOf 2 0, startOf 1 1] (startOf 1 1) :=
    ⟨[startOf 1 0, startOf 2 0], [], rfl, by simp⟩
  have ofAgent (start : Int64) (pid : Int32) : OfAgent "c" 5 "a" (startOf start pid) :=
    ⟨⟨rfl, rfl⟩, rfl⟩
  refine ⟨infos, starts, listed, (listing.mem_iff _).mpr ⟨latest, rfl⟩, started, ?_, ?_⟩
  · exact (found 1).mpr ⟨startOf 1 1, by simp [registered], ofAgent 1 1, rfl⟩
  · exact (found 2).mpr ⟨startOf 2 0, by simp [registered], ofAgent 2 0, rfl⟩

end Service

end Telemetry.Collector
