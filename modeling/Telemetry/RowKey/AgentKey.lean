import Telemetry.Message.Metadata
import Telemetry.RowKey.StatKey
import Telemetry.RowKey.TraceIndexKey

namespace Telemetry.RowKey

open Wire

/-! Keys of the agent index: service, application, service type, agent, start time newest first.
Every field has a fixed width, so the fields up to some point form the beginning under which all
agents that share them are found. -/

def agentKeyLength : Nat := 4 + applicationNameWidth + 4 + agentIdWidth + 8

structure AgentKey where
  serviceUid : Int32
  applicationName : String
  serviceTypeCode : Int32
  agentId : String
  agentStartTime : Int64
deriving DecidableEq, Repr

namespace AgentKey

def ofAgentInfo (serviceUid : Int32) (info : Message.AgentInfo) : AgentKey where
  serviceUid := serviceUid
  applicationName := info.applicationName
  serviceTypeCode := info.serviceTypeCode.toInt32
  agentId := info.agentId
  agentStartTime := info.agentStartTime

/-- The beginning shared by all agents of an application. -/
def applicationPart (serviceUid : Int32) (applicationName : String) :
    Except RowKeyError Bytes := do
  let application ← written (putPadded applicationNameWidth applicationName)
  pure (putInt32 serviceUid ++ application)

def serviceTypePart (serviceUid : Int32) (applicationName : String) (serviceTypeCode : Int32) :
    Except RowKeyError Bytes := do
  let application ← applicationPart serviceUid applicationName
  pure (application ++ putInt32 serviceTypeCode)

def agentPart (serviceUid : Int32) (applicationName : String) (serviceTypeCode : Int32)
    (agentId : String) : Except RowKeyError Bytes := do
  let serviceType ← serviceTypePart serviceUid applicationName serviceTypeCode
  let agent ← written (putPadded agentIdWidth agentId)
  pure (serviceType ++ agent)

def encode (key : AgentKey) : Except RowKeyError Bytes := do
  let agent ← agentPart key.serviceUid key.applicationName key.serviceTypeCode key.agentId
  let time ← invertedBytes key.agentStartTime
  pure (agent ++ time)

def decode (bytes : Bytes) : Except RowKeyError AgentKey :=
  if bytes.length = agentKeyLength then do
    let (serviceUid, applicationName, serviceTypeCode, agentId, inverted) ←
      readBack (Reader.front (do
        let serviceUid ← Reader.int32
        let applicationName ← Reader.padded applicationNameWidth
        let serviceTypeCode ← Reader.int32
        let agentId ← Reader.padded agentIdWidth
        let inverted ← Reader.int64
        pure (serviceUid, applicationName, serviceTypeCode, agentId, inverted)) bytes)
    let agentStartTime ← restore inverted
    pure ⟨serviceUid, applicationName, serviceTypeCode, agentId, agentStartTime⟩
  else .error (.invalidKeyLength agentKeyLength bytes.length)

end AgentKey

end Telemetry.RowKey
