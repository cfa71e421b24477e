import Telemetry.Delivery.Config
import Telemetry.RowKey.Distribution

namespace Telemetry.Collector

/-! What a collector can be told about its ports and its store. Settings that decide where rows are
stored must be right, since rows written under other ones are never found again; the others keep
their defaults when they cannot be read. -/

/-- The settings that spread rows over buckets. -/
inductive BucketSetting where
  | traces
  | traceIndex
  | agentStats
deriving DecidableEq, Repr

inductive ConfigError where
  | invalidBucketCount (setting : BucketSetting) (text : String)
  | invalidTimespan (text : String)
deriving DecidableEq, Repr

namespace BucketSetting

def name : BucketSetting → String
  | .traces => "APM_TRACE_BUCKETS"
  | .traceIndex => "APM_INDEX_BUCKETS"
  | .agentStats => "APM_STAT_BUCKETS"

def purpose : BucketSetting → String
  | .traces => "trace row key distribution"
  | .traceIndex => "trace index row key distribution"
  | .agentStats => "agent stat row key distribution"

end BucketSetting

def timespanName : String := "APM_STAT_TIMESPAN_MS"

namespace ConfigError

def message : ConfigError → String
  | .invalidBucketCount setting text =>
      s!"invalid {setting.purpose}: {setting.name} must be between 1 and 256, got {text}"
  | .invalidTimespan text =>
      s!"invalid agent stat row configuration: {timespanName} must be a positive number of " ++
        s!"millis, got {text}"

end ConfigError

structure Config where
  bindHost : String := "0.0.0.0"
  spanPort : Nat := Delivery.defaultSpanPort
  statPort : Nat := Delivery.defaultStatPort
  metadataPort : Nat := Delivery.defaultMetadataPort
  traceBuckets : Nat := 64
  indexBuckets : Nat := 16
  statBuckets : Nat := 64
  statTimespanMs : Int64 := 60000
  maxFrameLength : Nat := Delivery.defaultMaxFrameLength
  serviceUid : Int32 := 0
deriving DecidableEq, Repr

namespace Config

/-- A number of buckets, with or without blanks around it. -/
def bucketCount (setting : BucketSetting) (default : Nat) (settings : Settings) :
    Except ConfigError Nat :=
  match settings.text? setting.name with
  | none => .ok default
  | some text =>
      match Text.natural? 64 (Text.trim text.toList) with
      | some count =>
          if 1 ≤ count ∧ count ≤ RowKey.maxBuckets then .ok count
          else .error (.invalidBucketCount setting text)
      | none => .error (.invalidBucketCount setting text)

/-- A positive number of millis, with or without blanks around it. -/
def timespan (default : Int64) (settings : Settings) : Except ConfigError Int64 :=
  match settings.text? timespanName with
  | none => .ok default
  | some text =>
      match Text.signed? 64 (Text.trim text.toList) with
      | some millis =>
          if 0 < millis then .ok (Int64.ofInt millis) else .error (.invalidTimespan text)
      | none => .error (.invalidTimespan text)

/-- The configuration that settings ask for. Of several errors the timespan's comes first. -/
def ofSettings (settings : Settings) : Except ConfigError Config := do
  let standard : Config := {}
  let natural (name : String) (bits default : Nat) : Nat := settings.plainNatural default bits name
  let statTimespanMs ← timespan standard.statTimespanMs settings
  let traceBuckets ← bucketCount .traces standard.traceBuckets settings
  let indexBuckets ← bucketCount .traceIndex standard.indexBuckets settings
  let statBuckets ← bucketCount .agentStats standard.statBuckets settings
  pure
    { bindHost := (settings.text? "APM_COLLECTOR_BIND_HOST").getD standard.bindHost
      spanPort := natural "APM_COLLECTOR_SPAN_PORT" 16 standard.spanPort
      statPort := natural "APM_COLLECTOR_STAT_PORT" 16 standard.statPort
      metadataPort := natural "APM_COLLECTOR_METADATA_PORT" 16 standard.metadataPort
      traceBuckets, indexBuckets, statBuckets, statTimespanMs
      maxFrameLength := natural "APM_MAX_FRAME_LENGTH" 64 standard.maxFrameLength
      serviceUid := settings.valueOr standard.serviceUid
        (fun text => (Text.signed? 32 (Text.trim text)).map Int32.ofInt) "APM_SERVICE_UID" }

def spanAddress (config : Config) : String := address config.bindHost config.spanPort

def statAddress (config : Config) : String := address config.bindHost config.statPort

def metadataAddress (config : Config) : String := address config.bindHost config.metadataPort

end Config

end Telemetry.Collector
