import Telemetry.Trace.Span

namespace Telemetry.Trace

open Wire

/-! Storage cells of a trace row. A record is split into a qualifier, which names the cell inside
its row, and a column value. What the row key or the collector knows already (the transaction id
and the accept time) is in neither of them and comes back through a `CellContext`; the start time
of a span is written relative to its accept time. -/

/-- What is known about a cell apart from its bytes. -/
structure CellContext where
  transactionId : TransactionId
  acceptTime : Int64
deriving DecidableEq, Repr

def columnVersion : UInt8 := 0

/-! ### Qualifiers -/

inductive RecordKind where
  | span
  | chunk
deriving DecidableEq, Repr

def RecordKind.code : RecordKind → UInt8
  | .span => 1
  | .chunk => 2

structure Qualifier where
  kind : RecordKind
  applicationName : String
  agentId : String
  agentStartTime : Int64
  spanId : Int64
  /-- The sequence of the first event, -1 where there is none. -/
  firstSequence : Int32
  localAsyncId : Option LocalAsyncId
deriving DecidableEq, Repr

def firstSequence (events : List SpanEvent) : Int32 :=
  match events with
  | event :: _ => event.sequence.toInt32
  | [] => -1

namespace Qualifier

def putAsyncId : Option LocalAsyncId → Bytes
  | some id => putBool true ++ putInt32 id.asyncId ++ putVint id.sequence.toUInt32
  | none => putBool false

def put (qualifier : Qualifier) : Except EncodeError Bytes := do
  let applicationName ← putText qualifier.applicationName
  let agentId ← putText qualifier.agentId
  pure (qualifier.kind.code :: applicationName ++ agentId ++
    putVlong qualifier.agentStartTime.toUInt64 ++ putInt64 qualifier.spanId ++
    putSvint qualifier.firstSequence ++ putAsyncId qualifier.localAsyncId)

def readKind : Reader RecordKind := do
  match ← Reader.byte with
  | 1 => pure .span
  | 2 => pure .chunk
  | code => Reader.unknownCode (.spanQualifierType code)

def readAsyncId : Reader (Option LocalAsyncId) := do
  if ← Reader.bool then
    let asyncId ← Reader.int32
    let sequence ← Reader.vint
    pure (some ⟨asyncId, sequence.toInt32⟩)
  else pure none

def read : Reader Qualifier := do
  let kind ← readKind
  let applicationName ← Reader.text "application name"
  let agentId ← Reader.text "agent id"
  let agentStartTime ← Reader.vlong
  let spanId ← Reader.int64
  let firstSequence ← Reader.svint
  let localAsyncId ← readAsyncId
  pure { kind, applicationName, agentId, agentStartTime := agentStartTime.toInt64, spanId,
         firstSequence, localAsyncId }

end Qualifier

/-- Agents and applications without a name cannot be told apart, so both names are required. -/
def requireNames (agentId applicationName : String) : Except EncodeError Unit :=
  if agentId.isEmpty then .error (.invalidValue .agentIdRequired)
  else if applicationName.isEmpty then .error (.invalidValue .applicationNameRequired)
  else .ok ()

/-! ### Spans -/

structure SpanFlags where
  root : Bool
  errCode : Bool
  exception : Bool
  flag : Bool
  loggingInfo : Bool
  annotations : Bool
deriving DecidableEq, Repr

namespace SpanFlags

def width : Nat := 6

def toList (flags : SpanFlags) : List Bool :=
  [flags.root, flags.errCode, flags.exception, flags.flag, flags.loggingInfo, flags.annotations]

def ofNat (bits : Nat) : SpanFlags where
  root := bits.testBit 0
  errCode := bits.testBit 1
  exception := bits.testBit 2
  flag := bits.testBit 3
  loggingInfo := bits.testBit 4
  annotations := bits.testBit 5

end SpanFlags

namespace Span

def qualifier (span : Span) : Except EncodeError Bytes := do
  requireNames span.agentId span.applicationName
  Qualifier.put
    { kind := .span
      applicationName := span.applicationName
      agentId := span.agentId
      agentStartTime := span.agentStartTime
      spanId := span.spanId
      firstSequence := firstSequence span.spanEvents
      localAsyncId := none }

def flags (span : Span) : SpanFlags where
  root := span.isRoot
  errCode := span.errCode.isSome
  exception := span.exceptionInfo.isSome
  flag := span.flag ≠ 0
  loggingInfo := span.loggingTransactionInfo ≠ 0
  annotations := !span.annotations.isEmpty

def column (span : Span) : Except EncodeError Bytes := do
  let flags := span.flags
  let rpc ← putOptionalText span.rpc
  let endPoint ← putOptionalText span.endPoint
  let remoteAddr ← putOptionalText span.remoteAddr
  let errCode ← putIfPresent (fun code => .ok (putSvint code)) span.errCode
  let exception ← putIfPresent ExceptionInfo.put span.exceptionInfo
  let acceptorHost ← putOptionalText span.acceptorHost
  let annotations ←
    if flags.annotations then Annotation.putList span.annotations else .ok []
  let events ← SpanEvent.putList span.spanEvents
  pure (columnVersion :: putFlags flags.toList ++
    (if flags.root then [] else putInt64 span.parentSpanId) ++
    putSvlong (span.collectorAcceptTime - span.startTime) ++ putSvint span.elapsed ++ rpc ++
    putSvint span.serviceType.toInt32 ++ endPoint ++ remoteAddr ++ putSvint span.apiId ++
    errCode ++ exception ++
    (if flags.flag then putInt16 span.flag else []) ++
    (if flags.loggingInfo then [span.loggingTransactionInfo] else []) ++
    acceptorHost ++ annotations ++ events)

end Span

/-! ### Span chunks -/

namespace SpanChunk

def qualifier (chunk : SpanChunk) : Except EncodeError Bytes := do
  requireNames chunk.agentId chunk.applicationName
  Qualifier.put
    { kind := .chunk
      applicationName := chunk.applicationName
      agentId := chunk.agentId
      agentStartTime := chunk.agentStartTime
      spanId := chunk.spanId
      firstSequence := firstSequence chunk.spanEvents
      localAsyncId := chunk.localAsyncId }

/-- A chunk without events carries nothing and is refused. -/
def column (chunk : SpanChunk) : Except EncodeError Bytes :=
  if chunk.spanEvents.isEmpty then .error (.emptyBatch "span chunk events")
  else do
    let events ← SpanEvent.putList chunk.spanEvents
    pure (columnVersion :: events)

end SpanChunk

/-! ### Records -/

/-- The first event's sequence stands in the qualifier and in the column value; both must agree. -/
def checkFirstSequence (qualifier : Qualifier) (events : List SpanEvent) : Reader Unit :=
  if firstSequence events = qualifier.firstSequence then pure ()
  else Reader.malformed (.firstSequenceMismatch qualifier.firstSequence (firstSequence events))

def readSpan (qualifier : Qualifier) (context : CellContext) : Reader Span := do
  if qualifier.localAsyncId.isSome then Reader.malformed .spanWithAsyncId
  else
    let flags ← SpanFlags.ofNat <$> Reader.flags "span" SpanFlags.width
    let parentSpanId ← Reader.orElseValue (!flags.root) 0 Reader.int64
    let startOffset ← Reader.svlong
    let elapsed ← Reader.svint
    let rpc ← Reader.optionalText
    let serviceType ← Reader.narrow16 "service type"
    let endPoint ← Reader.optionalText
    let remoteAddr ← Reader.optionalText
    let apiId ← Reader.svint
    let errCode ← Reader.optional flags.errCode Reader.svint
    let exceptionInfo ← Reader.optional flags.exception ExceptionInfo.read
    let flag ← Reader.orElseValue flags.flag 0 Reader.int16
    let loggingTransactionInfo ← Reader.orElseValue flags.loggingInfo 0 Reader.byte
    let acceptorHost ← Reader.optionalText
    let annotations ← Reader.orElseValue flags.annotations [] Annotation.readList
    let spanEvents ← SpanEvent.readList
    checkFirstSequence qualifier spanEvents
    pure { transactionId := context.transactionId
           agentId := qualifier.agentId
           applicationName := qualifier.applicationName
           agentStartTime := qualifier.agentStartTime
           spanId := qualifier.spanId
           parentSpanId
           startTime := context.acceptTime - startOffset
           elapsed, rpc, serviceType, endPoint, remoteAddr, apiId, errCode, exceptionInfo, flag
           acceptorHost, loggingTransactionInfo
           collectorAcceptTime := context.acceptTime
           parentApplicationName := none
           parentApplicationServiceType := none
           annotations, spanEvents }

def readChunk (qualifier : Qualifier) (context : CellContext) : Reader SpanChunk := do
  let spanEvents ← SpanEvent.readList
  checkFirstSequence qualifier spanEvents
  pure { transactionId := context.transactionId
         agentId := qualifier.agentId
         applicationName := qualifier.applicationName
         agentStartTime := qualifier.agentStartTime
         spanId := qualifier.spanId
         collectorAcceptTime := context.acceptTime
         localAsyncId := qualifier.localAsyncId
         endPoint := none
         serviceType := none
         applicationServiceType := none
         spanEvents }

def readColumn (qualifier : Qualifier) (context : CellContext) : Reader Record := do
  let version ← Reader.byte
  if version ≠ columnVersion then throw (.unknownVersion version)
  else
    match qualifier.kind with
    | .span => .span <$> readSpan qualifier context
    | .chunk => .chunk <$> readChunk qualifier context

namespace Record

def qualifier : Record → Except EncodeError Bytes
  | .span value => value.qualifier
  | .chunk value => value.qualifier

def column : Record → Except EncodeError Bytes
  | .span value => value.column
  | .chunk value => value.column

/-- What has to be known to read the record's cell back. -/
def context (record : Record) : CellContext :=
  ⟨record.transactionId, record.acceptTime⟩

/-- Rebuilds the record of a cell. The qualifier is checked before the column value. -/
def decode (qualifier column : Bytes) (context : CellContext) : Except DecodeError Record := do
  let qualifier ← Reader.complete Qualifier.read qualifier
  Reader.complete (readColumn qualifier context) column

end Record

end Telemetry.Trace
