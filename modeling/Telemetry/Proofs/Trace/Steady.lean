import Telemetry.Proofs.Wire.Steady
import Telemetry.Trace.Cell

namespace Telemetry.Trace

open Wire Reader

/-! The readers of trace records are steady, so the cells of a record are self-delimiting. The
checks of a count against the bytes left pass in front of more bytes if they pass without. -/

theorem TransactionId.steady_read : Steady TransactionId.read :=
  (steady_text _).bind fun _ => steady_vlong.bind fun _ => steady_vlong.bind fun _ => .pure _

theorem AnnotationValue.steady_read : Steady AnnotationValue.read := by
  refine steady_byte.bind fun code => ?_
  split
  · exact .pure _
  · exact (steady_text _).map AnnotationValue.text
  · exact steady_bool.map AnnotationValue.bool
  · exact steady_svint.map AnnotationValue.int
  · exact steady_svlong.map AnnotationValue.long
  · exact steady_uint64.map AnnotationValue.double
  · refine steady_optionalBytes.bind fun bytes => ?_
    cases bytes with
    | some bytes => exact .pure _
    | none => exact steady_malformed _
  · exact steady_unknownCode _

theorem Annotation.steady_read : Steady Annotation.read :=
  steady_svint.bind fun _ => AnnotationValue.steady_read.bind fun _ => .pure _

theorem Annotation.steady_readList : Steady Annotation.readList := by
  refine steady_vint.bind fun count => ?_
  refine steady_afterRemaining (fun longer failed => ?_) (steady_many steady_read count.toNat)
  exact Nat.lt_of_le_of_lt (Nat.div_le_div_right longer) failed

theorem ExceptionInfo.steady_read : Steady ExceptionInfo.read :=
  steady_svint.bind fun _ => steady_optionalText.bind fun _ => .pure _

/-! ### Span events -/

namespace SpanEvent

/-- A value that is taken over from the previous event takes no bytes. -/
theorem steady_readSequence (previous : Option SpanEvent) (repeated : Bool) :
    Steady (readSequence previous repeated) := by
  rw [readSequence.eq_def]
  split
  · exact .pure _
  · exact steady_narrow16 _

theorem steady_readStartElapsed (previous : Option SpanEvent) (repeated : Bool) :
    Steady (readStartElapsed previous repeated) := by
  rw [readStartElapsed.eq_def]
  split
  · exact steady_svint
  · exact .pure _
  · exact steady_svint.map _

theorem steady_readDepth (previous : Option SpanEvent) (repeated : Bool) :
    Steady (readDepth previous repeated) := by
  rw [readDepth.eq_def]
  split
  · exact .pure _
  · exact steady_svint

theorem steady_readServiceType (previous : Option SpanEvent) (repeated : Bool) :
    Steady (readServiceType previous repeated) := by
  rw [readServiceType.eq_def]
  split
  · exact .pure _
  · exact steady_narrow16 _

theorem steady_read (previous : Option SpanEvent) : Steady (read previous) := by
  refine ((steady_flags _ _).map EventFlags.ofNat).bind fun flags => .ite (steady_malformed _) ?_
  refine (steady_readSequence previous _).bind fun _ => ?_
  refine (steady_readStartElapsed previous _).bind fun _ => ?_
  refine (steady_readDepth previous _).bind fun _ => ?_
  refine (steady_readServiceType previous _).bind fun _ => ?_
  refine steady_svint.bind fun _ => steady_svint.bind fun _ => ?_
  refine (steady_optional _ (steady_text _)).bind fun _ => ?_
  refine (steady_optional _ (steady_text _)).bind fun _ => ?_
  refine (steady_optional _ (steady_text _)).bind fun _ => ?_
  refine (steady_optional _ steady_int64).bind fun _ => ?_
  refine (steady_optional _ steady_svint).bind fun _ => ?_
  refine (steady_optional _ ExceptionInfo.steady_read).bind fun _ => ?_
  exact (steady_orElseValue _ _ Annotation.steady_readList).bind fun _ => .pure _

theorem steady_readAfter (previous : Option SpanEvent) (count : Nat) :
    Steady (readAfter previous count) := by
  induction count generalizing previous with
  | zero => exact .pure []
  | succ count induction =>
      exact (steady_read previous).bind fun event => (induction (some event)).bind fun _ => .pure _

theorem steady_readList : Steady readList := by
  refine steady_vint.bind fun count => ?_
  refine steady_afterRemaining (fun longer failed => ?_) (steady_readAfter none count.toNat)
  exact Nat.lt_of_le_of_lt (Nat.div_le_div_right longer) failed

end SpanEvent

/-! ### Cells -/

theorem Qualifier.steady_readKind : Steady Qualifier.readKind := by
  refine steady_byte.bind fun code => ?_
  split
  · exact .pure _
  · exact .pure _
  · exact steady_unknownCode _

theorem Qualifier.steady_readAsyncId : Steady Qualifier.readAsyncId :=
  steady_bool.bind fun _ =>
    .ite (steady_int32.bind fun _ => steady_vint.bind fun _ => .pure _) (.pure none)

theorem Qualifier.steady_read : Steady Qualifier.read := by
  refine steady_readKind.bind fun _ => ?_
  refine (steady_text _).bind fun _ => (steady_text _).bind fun _ => ?_
  refine steady_vlong.bind fun _ => steady_int64.bind fun _ => steady_svint.bind fun _ => ?_
  exact steady_readAsyncId.bind fun _ => .pure _

theorem steady_checkFirstSequence (qualifier : Qualifier) (events : List SpanEvent) :
    Steady (checkFirstSequence qualifier events) :=
  .ite (.pure ()) (steady_malformed _)

theorem steady_readSpan (qualifier : Qualifier) (context : CellContext) :
    Steady (readSpan qualifier context) := by
  refine .ite (steady_malformed _) ?_
  refine ((steady_flags _ _).map SpanFlags.ofNat).bind fun flags => ?_
  refine (steady_orElseValue _ _ steady_int64).bind fun _ => ?_
  refine steady_svlong.bind fun _ => steady_svint.bind fun _ => ?_
  refine steady_optionalText.bind fun _ => (steady_narrow16 _).bind fun _ => ?_
  refine steady_optionalText.bind fun _ => steady_optionalText.bind fun _ => ?_
  refine steady_svint.bind fun _ => (steady_optional _ steady_svint).bind fun _ => ?_
  refine (steady_optional _ ExceptionInfo.steady_read).bind fun _ => ?_
  refine (steady_orElseValue _ _ steady_int16).bind fun _ => ?_
  refine (steady_orElseValue _ _ steady_byte).bind fun _ => steady_optionalText.bind fun _ => ?_
  refine (steady_orElseValue _ _ Annotation.steady_readList).bind fun _ => ?_
  refine SpanEvent.steady_readList.bind fun events => ?_
  exact (steady_checkFirstSequence qualifier events).bind fun _ => .pure _

theorem steady_readChunk (qualifier : Qualifier) (context : CellContext) :
    Steady (readChunk qualifier context) :=
  SpanEvent.steady_readList.bind fun events =>
    (steady_checkFirstSequence qualifier events).bind fun _ => .pure _

theorem steady_readColumn (qualifier : Qualifier) (context : CellContext) :
    Steady (readColumn qualifier context) := by
  refine steady_byte.bind fun version => .ite (.throw _) ?_
  cases qualifier.kind with
  | span => exact (steady_readSpan qualifier context).map Record.span
  | chunk => exact (steady_readChunk qualifier context).map Record.chunk

namespace Record

theorem prefixFree_column (qualifier : Bytes) (context : CellContext) :
    PrefixFree fun column => decode qualifier column context := by
  intro bytes more record other accepted continued
  rcases bind_eq_ok.mp accepted with ⟨named, qualifierRead, read⟩
  rcases bind_eq_ok.mp continued with ⟨again, qualifierReadAgain, readOn⟩
  rw [qualifierRead] at qualifierReadAgain
  cases qualifierReadAgain
  exact (steady_readColumn named context).prefixFree_complete read readOn

theorem prefixFree_qualifier (column : Bytes) (context : CellContext) :
    PrefixFree fun qualifier => decode qualifier column context :=
  Qualifier.steady_read.prefixFree_complete.bind

end Record

end Telemetry.Trace
