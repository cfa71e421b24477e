import Telemetry.Message.Metadata
import Telemetry.Proofs.Wire.Prefixed

namespace Telemetry.Message

open Wire

/-! Metadata and answers are read as they were written, for all texts and numbers in them. They
take up the whole of their payloads, so a complete read gives them back. -/

theorem reads_version : Reader.Reads readVersion [envelopeVersion] () := fun _ => rfl

theorem reads_origin {agentId : String} {agentStartTime : Int64} {origin : Bytes}
    (written : putOrigin agentId agentStartTime = .ok origin) :
    Reader.Reads readOrigin origin (agentId, agentStartTime) := by
  rw [putOrigin] at written
  split at written
  next => cases written
  next =>
    rcases bind_eq_ok.mp written with ⟨agent, agentWritten, written⟩
    cases written
    exact reads_version.bind ((Reader.readsBack_text _ agentId agent agentWritten).bind
      (Reader.reads_svlong agentStartTime).bind_pure)

theorem ApiMetadata.readsBack : ReadsBack encode read := by
  intro metadata payload written
  rcases bind_eq_ok.mp written with ⟨origin, originWritten, written⟩
  rcases bind_eq_ok.mp written with ⟨apiInfo, apiInfoWritten, written⟩
  cases written
  simp only [List.append_assoc]
  apply (reads_origin originWritten).bind
  apply (Reader.reads_svint metadata.apiId).bind
  apply (Reader.readsBack_text _ _ _ apiInfoWritten).bind
  apply (Reader.reads_svint metadata.line).bind
  exact (Reader.reads_svint metadata.apiType).bind_pure

theorem SqlMetadata.readsBack : ReadsBack encode read := by
  intro metadata payload written
  rcases bind_eq_ok.mp written with ⟨origin, originWritten, written⟩
  rcases bind_eq_ok.mp written with ⟨sql, sqlWritten, written⟩
  cases written
  rw [List.append_assoc]
  apply (reads_origin originWritten).bind
  apply (Reader.reads_svint metadata.sqlId).bind
  exact (Reader.readsBack_text _ _ _ sqlWritten).bind_pure

theorem StringMetadata.readsBack : ReadsBack encode read := by
  intro metadata payload written
  rcases bind_eq_ok.mp written with ⟨origin, originWritten, written⟩
  rcases bind_eq_ok.mp written with ⟨value, valueWritten, written⟩
  cases written
  rw [List.append_assoc]
  apply (reads_origin originWritten).bind
  apply (Reader.reads_svint metadata.stringId).bind
  exact (Reader.readsBack_text _ _ _ valueWritten).bind_pure

theorem AgentInfo.readsBack : ReadsBack encode read := by
  intro info payload written
  rcases bind_eq_ok.mp written with ⟨origin, originWritten, written⟩
  split at written
  next => cases written
  next =>
    rcases bind_eq_ok.mp written with ⟨name, nameWritten, written⟩
    rcases bind_eq_ok.mp written with ⟨hostname, hostnameWritten, written⟩
    rcases bind_eq_ok.mp written with ⟨ip, ipWritten, written⟩
    rcases bind_eq_ok.mp written with ⟨version, versionWritten, written⟩
    cases written
    simp only [List.append_assoc]
    apply (reads_origin originWritten).bind
    apply (Reader.readsBack_text _ _ _ nameWritten).bind
    apply (Reader.reads_narrow16 _ info.serviceTypeCode).bind
    apply (Reader.readsBack_text _ _ _ hostnameWritten).bind
    apply (Reader.readsBack_text _ _ _ ipWritten).bind
    apply (Reader.reads_svint info.pid).bind
    exact (Reader.readsBack_text _ _ _ versionWritten).bind_pure

theorem Ack.reads_encode (ack : Ack) : Reader.Reads read ack.encode ack :=
  reads_version.bind ((Reader.reads_vlong ack.requestId).bind
    (Reader.reads_bool ack.success).bind_pure)

end Telemetry.Message
