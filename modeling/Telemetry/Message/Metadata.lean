import Telemetry.Wire.Prefixed
import Telemetry.Message.Kind

namespace Telemetry.Message

open Wire

/-! Metadata messages and their answer. Metadata gives the texts behind the numbers in spans;
an agent info announces one start of an agent. All of them begin with the envelope version, the
agent id and the agent's start time. -/

def envelopeVersion : UInt8 := 1

structure ApiMetadata where
  agentId : String
  agentStartTime : Int64
  apiId : Int32
  apiInfo : String
  line : Int32
  apiType : Int32
deriving DecidableEq, Repr

structure SqlMetadata where
  agentId : String
  agentStartTime : Int64
  sqlId : Int32
  sql : String
deriving DecidableEq, Repr

structure StringMetadata where
  agentId : String
  agentStartTime : Int64
  stringId : Int32
  value : String
deriving DecidableEq, Repr

/-- One start of an agent, by which the collector lists it under its application. -/
structure AgentInfo where
  agentId : String
  agentStartTime : Int64
  applicationName : String
  serviceTypeCode : Int16
  hostname : String
  ip : String
  pid : Int32
  agentVersion : String
deriving DecidableEq, Repr

structure Ack where
  requestId : UInt64
  success : Bool
deriving DecidableEq, Repr

def readVersion : Reader Unit := do
  let version ← Reader.byte
  if version ≠ envelopeVersion then throw (.unknownVersion version)

/-- The version, the agent and its start time. Metadata without an agent is refused. -/
def putOrigin (agentId : String) (agentStartTime : Int64) : Except EncodeError Bytes :=
  if agentId.isEmpty then .error (.invalidValue .agentIdRequired)
  else do
    let agent ← putText agentId
    pure (envelopeVersion :: agent ++ putSvlong agentStartTime)

def readOrigin : Reader (String × Int64) := do
  readVersion
  let agentId ← Reader.text "metadata agent id"
  let agentStartTime ← Reader.svlong
  pure (agentId, agentStartTime)

namespace ApiMetadata

def encode (metadata : ApiMetadata) : Except EncodeError Bytes := do
  let origin ← putOrigin metadata.agentId metadata.agentStartTime
  let apiInfo ← putText metadata.apiInfo
  pure (origin ++ putSvint metadata.apiId ++ apiInfo ++ putSvint metadata.line ++
    putSvint metadata.apiType)

def read : Reader ApiMetadata := do
  let (agentId, agentStartTime) ← readOrigin
  let apiId ← Reader.svint
  let apiInfo ← Reader.text "api info"
  let line ← Reader.svint
  let apiType ← Reader.svint
  pure { agentId, agentStartTime, apiId, apiInfo, line, apiType }

def decode : Bytes → Except DecodeError ApiMetadata := Reader.complete read

end ApiMetadata

namespace SqlMetadata

def encode (metadata : SqlMetadata) : Except EncodeError Bytes := do
  let origin ← putOrigin metadata.agentId metadata.agentStartTime
  let sql ← putText metadata.sql
  pure (origin ++ putSvint metadata.sqlId ++ sql)

def read : Reader SqlMetadata := do
  let (agentId, agentStartTime) ← readOrigin
  let sqlId ← Reader.svint
  let sql ← Reader.text "sql"
  pure { agentId, agentStartTime, sqlId, sql }

def decode : Bytes → Except DecodeError SqlMetadata := Reader.complete read

end SqlMetadata

namespace StringMetadata

def encode (metadata : StringMetadata) : Except EncodeError Bytes := do
  let origin ← putOrigin metadata.agentId metadata.agentStartTime
  let value ← putText metadata.value
  pure (origin ++ putSvint metadata.stringId ++ value)

def read : Reader StringMetadata := do
  let (agentId, agentStartTime) ← readOrigin
  let stringId ← Reader.svint
  let value ← Reader.text "string value"
  pure { agentId, agentStartTime, stringId, value }

def decode : Bytes → Except DecodeError StringMetadata := Reader.complete read

end StringMetadata

namespace AgentInfo

/-- A registration also needs an application to be listed under. -/
def encode (info : AgentInfo) : Except EncodeError Bytes := do
  let origin ← putOrigin info.agentId info.agentStartTime
  if info.applicationName.isEmpty then throw (.invalidValue .applicationNameRequired)
  let applicationName ← putText info.applicationName
  let hostname ← putText info.hostname
  let ip ← putText info.ip
  let agentVersion ← putText info.agentVersion
  pure (origin ++ applicationName ++ putSvint info.serviceTypeCode.toInt32 ++ hostname ++ ip ++
    putSvint info.pid ++ agentVersion)

def read : Reader AgentInfo := do
  let (agentId, agentStartTime) ← readOrigin
  let applicationName ← Reader.text "application name"
  let serviceTypeCode ← Reader.narrow16 "service type"
  let hostname ← Reader.text "hostname"
  let ip ← Reader.text "ip"
  let pid ← Reader.svint
  let agentVersion ← Reader.text "agent version"
  pure { agentId, agentStartTime, applicationName, serviceTypeCode, hostname, ip, pid,
         agentVersion }

def decode : Bytes → Except DecodeError AgentInfo := Reader.complete read

end AgentInfo

namespace Ack

def encode (ack : Ack) : Bytes :=
  envelopeVersion :: putVlong ack.requestId ++ putBool ack.success

def read : Reader Ack := do
  readVersion
  let requestId ← Reader.vlong
  let success ← Reader.bool
  pure ⟨requestId, success⟩

def decode : Bytes → Except DecodeError Ack := Reader.complete read

end Ack

end Telemetry.Message
