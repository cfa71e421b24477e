import Telemetry.Proofs.Message.SpanEnvelope
import Telemetry.Proofs.Stat.Steady
import Telemetry.Proofs.Trace.Steady

namespace Telemetry.Message

open Wire Reader Trace Stat

/-! Every payload format is self-delimiting, also for bytes that no writer put. The envelopes take
whatever stands behind their header as content, and it is the content that notices where its bytes
end. -/

theorem steady_readVersion : Steady readVersion :=
  steady_byte.bind fun _ => .ite (.throw _) (.pure ())

/-! ### Metadata -/

theorem steady_readOrigin : Steady readOrigin :=
  steady_readVersion.bind fun _ => (steady_text _).bind fun _ => steady_svlong.bind fun _ => .pure _

theorem ApiMetadata.steady_read : Steady ApiMetadata.read := by
  refine steady_readOrigin.bind fun origin => steady_svint.bind fun _ => ?_
  exact (steady_text _).bind fun _ => steady_svint.bind fun _ => steady_svint.bind fun _ => .pure _

theorem SqlMetadata.steady_read : Steady SqlMetadata.read :=
  steady_readOrigin.bind fun _ => steady_svint.bind fun _ => (steady_text _).bind fun _ => .pure _

theorem StringMetadata.steady_read : Steady StringMetadata.read :=
  steady_readOrigin.bind fun _ => steady_svint.bind fun _ => (steady_text _).bind fun _ => .pure _

theorem AgentInfo.steady_read : Steady AgentInfo.read := by
  refine steady_readOrigin.bind fun origin => (steady_text _).bind fun _ => ?_
  refine (steady_narrow16 _).bind fun _ => (steady_text _).bind fun _ => ?_
  refine (steady_text _).bind fun _ => steady_svint.bind fun _ => ?_
  exact (steady_text _).bind fun _ => .pure _

theorem Ack.steady_read : Steady Ack.read :=
  steady_readVersion.bind fun _ => steady_vlong.bind fun _ => steady_bool.bind fun _ => .pure _

/-! ### Envelopes -/

namespace SpanEnvelope

def extend (envelope : SpanEnvelope) (more : Bytes) : SpanEnvelope :=
  { envelope with columnValue := envelope.columnValue ++ more }

theorem takesRest_read : TakesRest extend read := by
  refine .bind steady_readVersion fun _ => .bind TransactionId.steady_read fun id => ?_
  refine .bind steady_svlong fun baseTime => .bind steady_optionalBytes fun qualifier => ?_
  cases qualifier with
  | none => exact .throw _
  | some qualifier => exact .takeAll fun _ _ => rfl

theorem prefixFree : PrefixFree fun payload => decode payload >>= decodeRecord :=
  takesRest_read.prefixFree fun accepted continued =>
    Record.prefixFree_column _ _ accepted continued

end SpanEnvelope

namespace StatEnvelope

def extend (envelope : StatEnvelope) (more : Bytes) : StatEnvelope :=
  { envelope with value := envelope.value ++ more }

theorem takesRest_read : TakesRest extend read := by
  refine .bind steady_readVersion fun _ => .bind steady_byte fun code => ?_
  refine .bind (steady_lift _) fun kind => .bind (steady_text _) fun agentId => ?_
  exact .bind steady_svlong fun firstTimestamp => .takeAll fun _ _ => rfl

theorem prefixFree (timespan : Int64) :
    PrefixFree fun payload => decode payload >>= fun envelope => envelope.decodeBatch timespan := by
  refine takesRest_read.prefixFree fun {envelope more result other} accepted continued => ?_
  rcases bind_eq_ok.mp accepted with ⟨context, made, accepted⟩
  rcases bind_eq_ok.mp continued with ⟨again, madeAgain, continued⟩
  -- More bytes in the content do not change the context.
  have same : context = again := Except.ok.inj (made.symm.trans madeAgain)
  subst same
  exact (StatBatch.steady_read envelope.kind context).prefixFree_complete.bind accepted continued

end StatEnvelope

/-- No payload, be it written by an encoder or not, is accepted together with one of its proper
prefixes or one of its proper extensions. -/
theorem payloads_selfDelimiting :
    (∀ qualifier context, SelfDelimiting fun column => Record.decode qualifier column context) ∧
    (∀ column context, SelfDelimiting fun qualifier => Record.decode qualifier column context) ∧
    SelfDelimiting (fun payload => SpanEnvelope.decode payload >>= SpanEnvelope.decodeRecord) ∧
    (∀ timespan, SelfDelimiting fun payload =>
      StatEnvelope.decode payload >>= fun envelope => envelope.decodeBatch timespan) ∧
    SelfDelimiting ApiMetadata.decode ∧ SelfDelimiting SqlMetadata.decode ∧
    SelfDelimiting StringMetadata.decode ∧ SelfDelimiting AgentInfo.decode ∧
    SelfDelimiting Ack.decode := by
  refine ⟨fun qualifier context => ?_, fun column context => ?_, ?_, fun timespan => ?_, ?_⟩
  · exact (Record.prefixFree_column qualifier context).selfDelimiting
  · exact (Record.prefixFree_qualifier column context).selfDelimiting
  · exact SpanEnvelope.prefixFree.selfDelimiting
  · exact (StatEnvelope.prefixFree timespan).selfDelimiting
  · exact ⟨ApiMetadata.steady_read.prefixFree_complete.selfDelimiting,
      SqlMetadata.steady_read.prefixFree_complete.selfDelimiting,
      StringMetadata.steady_read.prefixFree_complete.selfDelimiting,
      AgentInfo.steady_read.prefixFree_complete.selfDelimiting,
      Ack.steady_read.prefixFree_complete.selfDelimiting⟩

/-- A chunk of two events, the second of which repeats most of the first. -/
def pairedCallsPayload : Bytes :=
  [1, 2, 97, 0, 42, 0, 32, 2, 2, 98, 2, 97, 0, 0, 0, 0, 0, 0, 0, 0, 9, 6, 0, 0, 2, 0, 0, 6, 20, 2,
   228, 15, 6, 14, 7, 129, 6, 14, 2, 99]

theorem payloads_selfDelimiting_pairedCalls :
    ∃ record, (SpanEnvelope.decode pairedCallsPayload >>= SpanEnvelope.decodeRecord) = .ok record ∧
      (∀ front, front <+: pairedCallsPayload → front ≠ pairedCallsPayload →
        ∃ cause, (SpanEnvelope.decode front >>= SpanEnvelope.decodeRecord) = .error cause) ∧
      ∀ whole, pairedCallsPayload <+: whole → whole ≠ pairedCallsPayload →
        ∃ cause, (SpanEnvelope.decode whole >>= SpanEnvelope.decodeRecord) = .error cause := by
  have succeeds :
      (SpanEnvelope.decode pairedCallsPayload >>= SpanEnvelope.decodeRecord).isOk = true := by
    cbv
  cases read : SpanEnvelope.decode pairedCallsPayload >>= SpanEnvelope.decodeRecord with
  | error cause => simp [read, Except.isOk, Except.toBool] at succeeds
  | ok record => exact ⟨record, rfl, payloads_selfDelimiting.2.2.1 pairedCallsPayload record read⟩

end Telemetry.Message
