import Telemetry.Delivery.Timer
import Telemetry.Settings

namespace Telemetry.Delivery

/-! What an agent can be told about its connections. A setting that cannot be read keeps its
default: an agent with a mistyped setting still reports. -/

/-- The longest frame, unless it is configured otherwise. -/
def defaultMaxFrameLength : Nat := 4 * 1024 * 1024

def defaultSpanPort : Nat := 9993

def defaultStatPort : Nat := 9992

def defaultMetadataPort : Nat := 9991

structure Config where
  collectorHost : String := "127.0.0.1"
  spanPort : Nat := defaultSpanPort
  statPort : Nat := defaultStatPort
  metadataPort : Nat := defaultMetadataPort
  spanQueueSize : Nat := 1024
  statQueueSize : Nat := 1024
  metadataQueueSize : Nat := 1024
  metadataRetryMaxCount : Nat := 3
  metadataRetryDelay : Nanos := ofMillis 1000
  metadataRequestTimeout : Nanos := ofMillis 3000
  reconnectDelay : Nanos := ofMillis 1000
  reconnectMaxDelay : Nanos := ofMillis 30000
  timerTick : Nanos := Timer.defaultTick
  timerWheelSize : Nat := Timer.defaultWheelSize
  timerMaxPendingTimeouts : Nat := Timer.defaultMaxPending
  maxFrameLength : Nat := defaultMaxFrameLength
deriving DecidableEq, Repr

namespace Config

/-- A host is taken as it is written, unless it is blank. -/
def host? (text : List Char) : Option String :=
  if (Text.trim text).isEmpty then none else some (String.ofList text)

def ofSettings (settings : Settings) : Config :=
  let standard : Config := {}
  let natural (name : String) (bits default : Nat) : Nat := settings.natural default bits name
  let millis (name : String) (default : Nanos) : Nanos :=
    ofMillis (natural name 64 (toMillis default))
  { collectorHost := settings.valueOr standard.collectorHost host? "APM_COLLECTOR_HOST"
    spanPort := natural "APM_COLLECTOR_SPAN_PORT" 16 standard.spanPort
    statPort := natural "APM_COLLECTOR_STAT_PORT" 16 standard.statPort
    metadataPort := natural "APM_COLLECTOR_METADATA_PORT" 16 standard.metadataPort
    spanQueueSize := natural "APM_SPAN_QUEUE_SIZE" 64 standard.spanQueueSize
    statQueueSize := natural "APM_STAT_QUEUE_SIZE" 64 standard.statQueueSize
    metadataQueueSize := natural "APM_METADATA_QUEUE_SIZE" 64 standard.metadataQueueSize
    metadataRetryMaxCount :=
      natural "APM_METADATA_RETRY_MAX_COUNT" 32 standard.metadataRetryMaxCount
    metadataRetryDelay := millis "APM_METADATA_RETRY_DELAY_MS" standard.metadataRetryDelay
    metadataRequestTimeout :=
      millis "APM_METADATA_REQUEST_TIMEOUT_MS" standard.metadataRequestTimeout
    reconnectDelay := millis "APM_RECONNECT_DELAY_MS" standard.reconnectDelay
    reconnectMaxDelay := millis "APM_RECONNECT_MAX_DELAY_MS" standard.reconnectMaxDelay
    maxFrameLength := natural "APM_MAX_FRAME_LENGTH" 64 standard.maxFrameLength }

def spanAddress (config : Config) : String := address config.collectorHost config.spanPort

def statAddress (config : Config) : String := address config.collectorHost config.statPort

def metadataAddress (config : Config) : String := address config.collectorHost config.metadataPort

end Config

end Telemetry.Delivery
