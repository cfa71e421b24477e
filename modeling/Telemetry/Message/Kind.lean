import Telemetry.Wire.Error

namespace Telemetry.Message

open Wire

/-! The kinds of message that travel between an agent and its collector. -/

inductive MessageKind where
  | span
  | spanChunk
  | statBatch
  | apiMetadata
  | sqlMetadata
  | stringMetadata
  | agentInfo
  | ack
deriving DecidableEq, Repr

namespace MessageKind

def code : MessageKind → UInt8
  | .span => 1
  | .spanChunk => 2
  | .statBatch => 3
  | .apiMetadata => 10
  | .sqlMetadata => 11
  | .stringMetadata => 12
  | .agentInfo => 13
  | .ack => 20

def ofCode : UInt8 → Except DecodeError MessageKind
  | 1 => .ok .span
  | 2 => .ok .spanChunk
  | 3 => .ok .statBatch
  | 10 => .ok .apiMetadata
  | 11 => .ok .sqlMetadata
  | 12 => .ok .stringMetadata
  | 13 => .ok .agentInfo
  | 20 => .ok .ack
  | code => .error (.invalidType (.messageKind code))

def name : MessageKind → String
  | .span => "span"
  | .spanChunk => "span_chunk"
  | .statBatch => "agent_stat_batch"
  | .apiMetadata => "api_meta_data"
  | .sqlMetadata => "sql_meta_data"
  | .stringMetadata => "string_meta_data"
  | .agentInfo => "agent_info"
  | .ack => "ack"

def all : List MessageKind :=
  [.span, .spanChunk, .statBatch, .apiMetadata, .sqlMetadata, .stringMetadata, .agentInfo, .ack]

/-- Metadata and agent registrations are sent as requests that the collector acknowledges; all
other kinds are streamed. -/
def isRequest : MessageKind → Bool
  | .apiMetadata => true
  | .sqlMetadata => true
  | .stringMetadata => true
  | .agentInfo => true
  | _ => false

end MessageKind

end Telemetry.Message
