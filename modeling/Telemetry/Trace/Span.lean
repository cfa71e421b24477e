import Telemetry.Trace.SpanEvent
import Telemetry.Trace.TransactionId

namespace Telemetry.Trace

/-! Spans and span chunks, the two kinds of record that make up a trace. A span is one request
served by one agent; a chunk carries events that were reported apart from their span. -/

structure LocalAsyncId where
  asyncId : Int32
  sequence : Int32
deriving DecidableEq, Repr

structure Span where
  transactionId : TransactionId
  agentId : String
  applicationName : String
  agentStartTime : Int64
  spanId : Int64
  /-- Zero for a root span. -/
  parentSpanId : Int64
  startTime : Int64
  elapsed : Int32
  rpc : Option String
  serviceType : Int16
  endPoint : Option String
  remoteAddr : Option String
  apiId : Int32
  errCode : Option Int32
  exceptionInfo : Option ExceptionInfo
  flag : Int16
  acceptorHost : Option String
  loggingTransactionInfo : UInt8
  collectorAcceptTime : Int64
  /-- Known to the agent only: it is not written. -/
  parentApplicationName : Option String
  /-- Known to the agent only: it is not written. -/
  parentApplicationServiceType : Option Int16
  annotations : List Annotation
  spanEvents : List SpanEvent
deriving DecidableEq, Repr

structure SpanChunk where
  transactionId : TransactionId
  agentId : String
  applicationName : String
  agentStartTime : Int64
  spanId : Int64
  collectorAcceptTime : Int64
  localAsyncId : Option LocalAsyncId
  /-- Known to the agent only: it is not written. -/
  endPoint : Option String
  /-- Known to the agent only: it is not written. -/
  serviceType : Option Int16
  /-- Known to the agent only: it is not written. -/
  applicationServiceType : Option Int16
  spanEvents : List SpanEvent
deriving DecidableEq, Repr

/-- A record as it is stored: one cell of a trace row. -/
inductive Record where
  | span (span : Span)
  | chunk (chunk : SpanChunk)
deriving DecidableEq, Repr

namespace Span

def isRoot (span : Span) : Bool := span.parentSpanId = 0

end Span

namespace Record

def transactionId : Record → TransactionId
  | .span value => value.transactionId
  | .chunk value => value.transactionId

def acceptTime : Record → Int64
  | .span value => value.collectorAcceptTime
  | .chunk value => value.collectorAcceptTime

def acceptedAt (time : Int64) : Record → Record
  | .span value => .span { value with collectorAcceptTime := time }
  | .chunk value => .chunk { value with collectorAcceptTime := time }

end Record

end Telemetry.Trace
