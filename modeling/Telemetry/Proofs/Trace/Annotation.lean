import Telemetry.Proofs.Wire.Sequence
import Telemetry.Trace.Annotation

namespace Telemetry.Trace

open Wire

/-! Reading back annotations. -/

namespace AnnotationValue

theorem takesAtLeast_put : TakesAtLeast 1 put := by
  intro value bytes written
  cases value with
  | text value | bytes value =>
      rcases map_eq_ok.mp written with ⟨_, _, rfl⟩
      simp
  | null | bool value | int value | long value | double bits =>
      cases written
      simp

theorem readsBack : ReadsBack put read := by
  intro value bytes written
  cases value with
  | null =>
      cases written
      exact (Reader.reads_byte 0).bind (Reader.Reads.pure null)
  | text value =>
      rcases map_eq_ok.mp written with ⟨content, contentWritten, rfl⟩
      have reads := Reader.readsBack_text "annotation value" value content contentWritten
      exact (Reader.reads_byte 1).bind (reads.map text)
  | bool value =>
      cases written
      exact (Reader.reads_byte 2).bind ((Reader.reads_bool value).map bool)
  | int value =>
      cases written
      exact (Reader.reads_byte 3).bind ((Reader.reads_svint value).map int)
  | long value =>
      cases written
      exact (Reader.reads_byte 4).bind ((Reader.reads_svlong value).map long)
  | double bits =>
      cases written
      exact (Reader.reads_byte 5).bind ((Reader.reads_uint64 bits).map double)
  | bytes value =>
      rcases map_eq_ok.mp written with ⟨content, contentWritten, rfl⟩
      apply (Reader.reads_byte 6).bind
      intro rest
      exact (Reader.reads_presentBytes contentWritten).run_bind _ rest

end AnnotationValue

namespace Annotation

theorem takesAtLeast_put : TakesAtLeast 2 put := by
  intro entry bytes written
  rcases bind_eq_ok.mp written with ⟨value, valueWritten, written⟩
  cases written
  have key : 0 < (putSvint entry.key).length := length_varint_pos _
  have content := AnnotationValue.takesAtLeast_put entry.value value valueWritten
  rw [List.length_append]
  omega

theorem readsBack : ReadsBack put read := by
  intro entry bytes written
  rcases bind_eq_ok.mp written with ⟨value, valueWritten, written⟩
  cases written
  exact (Reader.reads_svint entry.key).bind
    (AnnotationValue.readsBack entry.value value valueWritten).bind_pure

/-- The count in front of a list never exceeds what is left, so it is not refused. -/
theorem reads_list {annotations : List Annotation} {bytes : Bytes}
    (fits : annotations.length < 2 ^ 32) (written : putList annotations = .ok bytes) :
    Reader.Reads readList bytes annotations := by
  rcases bind_eq_ok.mp written with ⟨items, itemsWritten, written⟩
  cases written
  have length := length_putEach takesAtLeast_put itemsWritten
  have reads := Reader.reads_many readsBack itemsWritten
  apply (Reader.reads_count annotations.length).bind
  rw [toNat_count fits]
  exact reads.afterRemaining fun count enough => by omega

/-- A list that is left out where it is empty. -/
theorem reads_listUnlessEmpty {annotations : List Annotation} {bytes : Bytes}
    (fits : annotations.length < 2 ^ 32)
    (written : (if !annotations.isEmpty then putList annotations else .ok []) = .ok bytes) :
    Reader.Reads (Reader.orElseValue (!annotations.isEmpty) [] readList) bytes annotations := by
  cases annotations with
  | nil =>
      cases written
      exact Reader.Reads.pure []
  | cons head tail => exact reads_list fits written

end Annotation

end Telemetry.Trace
