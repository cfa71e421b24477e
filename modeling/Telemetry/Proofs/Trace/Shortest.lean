import Mathlib
import Telemetry.Proofs.Trace.Cell
import Telemetry.Proofs.Wire.Shortest

namespace Telemetry.Trace

open Wire Reader

/-! The cell of a record is the shortest one that the record is read from, and no other one is as
short. A flag that a cell sets otherwise than the writer announces something needless, so it costs
more than the flag word, which has one width, can make up for. -/

/-! ### Annotations -/

theorem AnnotationValue.takes_read : Takes AnnotationValue.read fun value taken =>
    Tightened True value.put taken := by
  refine takes_byte.bind fun code taken single => ?_
  subst single
  split
  · exact .pure ⟨[0], rfl, .refl [0]⟩
  · refine (takes_text _).map fun value content ⟨written, form, tightens⟩ => ?_
    exact ⟨1 :: written, map_eq_ok.mpr ⟨written, form, rfl⟩, tightens.behind [1]⟩
  · exact takes_bool.map fun value content same => ⟨_, rfl, (Tightens.of_eq same.symm).behind [2]⟩
  · exact takes_svint.map fun value content tightens => ⟨_, rfl, tightens.behind [3]⟩
  · exact takes_svlong.map fun value content tightens => ⟨_, rfl, tightens.behind [4]⟩
  · exact takes_uint64.map fun bits content same =>
      ⟨_, rfl, (Tightens.of_eq same.symm).behind [5]⟩
  · refine takes_optionalBytes.bind fun value content ⟨written, form, tightens⟩ => ?_
    cases value with
    | none => exact takes_malformed _
    | some value =>
        refine .pure ⟨6 :: written, map_eq_ok.mpr ⟨written, form, rfl⟩, ?_⟩
        rw [List.append_nil]
        exact tightens.behind [6]
  · exact takes_unknownCode _

namespace Annotation

theorem takes_read : Takes read fun entry taken => Tightened True entry.put taken := by
  refine takes_svint.bind fun key taken keyTightens => ?_
  refine AnnotationValue.takes_read.bind fun value content ⟨written, form, tightens⟩ => ?_
  refine .pure ⟨_, bind_eq_ok.mpr ⟨written, form, rfl⟩, ?_⟩
  rw [List.append_nil]
  exact (keyTightens.append tightens).mono fun _ => trivial

theorem takes_readList : Takes readList fun annotations taken => annotations.length < 2 ^ 32 ∧
    0 < taken.length ∧ Tightened True (putList annotations) taken := by
  refine takes_vint.bind fun count taken countTightens => ?_
  refine .afterRemaining ((takes_many takes_read _).mono fun annotations content items => ?_)
  rcases items with ⟨length, written, form, tightens⟩
  refine ⟨length ▸ count.toNat_lt, ?_, _, bind_eq_ok.mpr ⟨written, form, rfl⟩, ?_⟩
  · have needed := countTightens.length_le
    have nonempty : 0 < (putVint count).length := length_varint_pos _
    rw [List.length_append]
    omega
  · rw [putCount, length, UInt32.ofNat_toNat]
    exact (countTightens.append tightens).mono fun _ => trivial

theorem takes_listUnlessEmpty (present : Bool) :
    Takes (orElseValue present [] readList) fun annotations taken =>
      annotations.length < 2 ^ 32 ∧
        Tightened ((!annotations.isEmpty) = present)
          (if !annotations.isEmpty then putList annotations else .ok []) taken := by
  have short : Takes (orElseValue present [] readList) fun annotations _ =>
      annotations.length < 2 ^ 32 :=
    .ite (fun _ => takes_readList.mono fun _ _ parts => parts.1) fun _ => .pure (by decide)
  refine short.both ((takes_orElseValue present []
    (takes_readList.mono fun _ _ parts => parts.2.2)
    (takes_readList.mono fun _ _ parts => parts.2.1)).mono fun annotations taken tightened => ?_)
  cases annotations with
  | nil => exact tightened
  | cons => exact tightened

end Annotation

theorem ExceptionInfo.takes_read : Takes ExceptionInfo.read fun exception taken =>
    Tightened True exception.put taken := by
  refine takes_svint.bind fun id taken idTightens => ?_
  refine takes_optionalText.bind fun message content ⟨written, form, tightens⟩ => ?_
  refine .pure ⟨_, bind_eq_ok.mpr ⟨written, form, rfl⟩, ?_⟩
  rw [List.append_nil]
  exact (idTightens.append tightens).mono fun _ => trivial

/-! ### Span events -/

namespace SpanEvent

variable {previous : Option SpanEvent} {repeated : Bool}

/-- A field that is left out where the previous event tells it: it need not be written where it is
the same, and it cannot be left out where it differs. -/
private theorem takes_repeatable {α : Type} [DecidableEq α] {item : Reader α} {form : α → Bytes}
    {readField : Option SpanEvent → Bool → Reader α} {expected : SpanEvent → α}
    (takes : Takes item fun value taken => Tightens True (form value) taken)
    (content : ∀ value, 0 < (form value).length)
    (first : readField none false = item)
    (differs : ∀ last, readField (some last) false = item)
    (repeats : ∀ last, readField (some last) true = pure (expected last))
    (known : previous = none → repeated = false) :
    Takes (readField previous repeated) fun value taken =>
      Tightens ((previous.any fun last => value = expected last) = repeated)
        (if previous.any fun last => value = expected last then [] else form value) taken := by
  cases previous with
  | none =>
      rw [known rfl, first]
      exact takes.mono fun value taken tightens => tightens.mono fun _ => rfl
  | some last =>
      cases repeated with
      | true =>
          rw [repeats]
          refine .pure ?_
          simp only [Option.any_some, decide_true, if_true]
          exact .inr ⟨rfl, trivial⟩
      | false =>
          rw [differs]
          refine takes.mono fun value taken tightens => ?_
          simp only [Option.any_some, decide_eq_true_eq]
          split
          next => exact .of_needless (Nat.lt_of_lt_of_le (content value) tightens.length_le)
          next other => exact tightens.mono fun _ => decide_eq_false other

theorem takes_readSequence (known : previous = none → repeated = false) :
    Takes (readSequence previous repeated) fun value taken =>
      Tightens ((previous.any fun last => value = last.sequence + 1) = repeated)
        (if previous.any fun last => value = last.sequence + 1 then []
          else putSvint value.toInt32) taken :=
  takes_repeatable (takes_narrow16 _) (fun _ => length_varint_pos _) rfl (fun _ => rfl)
    (fun _ => rfl) known

theorem takes_readDepth (known : previous = none → repeated = false) :
    Takes (readDepth previous repeated) fun value taken =>
      Tightens ((previous.any fun last => value = last.depth) = repeated)
        (if previous.any fun last => value = last.depth then [] else putSvint value) taken :=
  takes_repeatable takes_svint (fun _ => length_varint_pos _) rfl (fun _ => rfl) (fun _ => rfl)
    known

theorem takes_readServiceType (known : previous = none → repeated = false) :
    Takes (readServiceType previous repeated) fun value taken =>
      Tightens ((previous.any fun last => value = last.serviceType) = repeated)
        (if previous.any fun last => value = last.serviceType then []
          else putSvint value.toInt32) taken :=
  takes_repeatable (takes_narrow16 _) (fun _ => length_varint_pos _) rfl (fun _ => rfl)
    (fun _ => rfl) known

/-- The start is a difference to the previous one, which no two starts have in common. -/
theorem takes_readStartElapsed (known : previous = none → repeated = false) :
    Takes (readStartElapsed previous repeated) fun value taken =>
      ∀ event : SpanEvent, event.startElapsed = value →
        Tightens ((previous.any fun last => value = last.startElapsed) = repeated)
          (putStartElapsed previous event) taken := by
  cases previous with
  | none =>
      rw [known rfl]
      refine takes_svint.mono fun value taken tightens event same => ?_
      rw [putStartElapsed, same]
      exact tightens.mono fun _ => rfl
  | some last =>
      cases repeated with
      | true =>
          refine .pure fun event same => ?_
          rw [putStartElapsed, if_pos same]
          exact .inr ⟨rfl, by simp⟩
      | false =>
          refine takes_svint.map fun difference taken tightens event same => ?_
          have written : event.startElapsed - last.startElapsed = difference := by grind
          rw [putStartElapsed, written]
          split
          next =>
            have content : 0 < (putSvint difference).length := length_varint_pos _
            exact .of_needless (Nat.lt_of_lt_of_le content tightens.length_le)
          next other =>
            rw [same] at other
            exact tightens.mono fun _ => by simpa using other

theorem takes_flags : Takes (EventFlags.ofNat <$> Reader.flags "span event" EventFlags.width)
    fun flags taken => taken = putFlags flags.toList :=
  (Reader.takes_flags _ _).map fun _ _ same => same

theorem takes_read (previous : Option SpanEvent) : Takes (read previous) fun event taken =>
    event.annotations.length < 2 ^ 32 ∧ Tightened True (put previous event) taken := by
  refine takes_flags.bind fun flags word same => .ite (fun _ => takes_malformed _) fun alone => ?_
  subst same
  have known : previous = none → flags.comparesBack = false := by
    rintro rfl
    simpa using alone
  simp only [EventFlags.comparesBack, Bool.or_eq_false_iff] at known
  refine (takes_readSequence fun none => (known none).2).bind fun sequence _ sequenceTight => ?_
  refine (takes_readStartElapsed fun none => (known none).1.1.1).bind fun start _ startTight => ?_
  refine (takes_readDepth fun none => (known none).1.1.2).bind fun depth _ depthTight => ?_
  refine (takes_readServiceType fun none => (known none).1.2).bind fun service _ serviceTight => ?_
  refine takes_svint.bind fun endElapsed _ endTight => ?_
  refine takes_svint.bind fun apiId _ apiTight => ?_
  refine (takes_optional _ (takes_text _)).bind ?_
  rintro rpc _ ⟨_, rpcForm, rpcTight⟩
  refine (takes_optional _ (takes_text _)).bind ?_
  rintro endPoint _ ⟨_, endPointForm, endPointTight⟩
  refine (takes_optional _ (takes_text _)).bind ?_
  rintro destinationId _ ⟨_, destinationForm, destinationTight⟩
  refine (takes_optional _ takes_presentInt64).bind ?_
  rintro nextSpanId _ ⟨_, nextForm, nextTight⟩
  refine (takes_optional _ takes_presentSvint).bind ?_
  rintro asyncId _ ⟨_, asyncForm, asyncTight⟩
  refine (takes_optional _ ExceptionInfo.takes_read).bind ?_
  rintro exception _ ⟨_, exceptionForm, exceptionTight⟩
  have annotationsTaken := Annotation.takes_listUnlessEmpty flags.annotations
  refine annotationsTaken.bind ?_
  rintro annotations _ ⟨fits, _, annotationsForm, annotationsTight⟩
  refine .pure ⟨fits, ?_⟩
  refine ⟨_, bind_eq_ok.mpr ⟨_, rpcForm, bind_eq_ok.mpr ⟨_, endPointForm,
    bind_eq_ok.mpr ⟨_, destinationForm, bind_eq_ok.mpr ⟨_, nextForm, bind_eq_ok.mpr ⟨_, asyncForm,
    bind_eq_ok.mpr ⟨_, exceptionForm, ite_bind_eq_ok.mpr ⟨_, annotationsForm, rfl⟩⟩⟩⟩⟩⟩⟩, ?_⟩
  have startTight := startTight ⟨sequence, depth, start, endElapsed, service, apiId, rpc, endPoint,
    destinationId, nextSpanId, asyncId, exception, annotations⟩ rfl
  have values := sequenceTight.append <| startTight.append <| depthTight.append <|
    serviceTight.append <| endTight.append <| apiTight.append <| rpcTight.append <|
    endPointTight.append <| destinationTight.append <| nextTight.append <| asyncTight.append <|
    exceptionTight.append annotationsTight
  have whole := values.flagged flags.toList fun agrees => by
    rcases agrees with ⟨nextSequence, sameStart, sameDepth, sameService, -, -, rpc, endPoint,
      destination, nextSpan, async, exception, annotations⟩
    rw [EventFlags.toList, ← nextSequence, ← sameStart, ← sameDepth, ← sameService, ← rpc,
      ← endPoint, ← destination, ← nextSpan, ← async, ← exception, ← annotations]
  simp only [List.append_assoc, List.append_nil] at whole ⊢
  exact whole

theorem takes_readAfter (previous : Option SpanEvent) (count : Nat) :
    Takes (readAfter previous count) fun events taken =>
      events.length = count ∧ (∀ event ∈ events, event.annotations.length < 2 ^ 32) ∧
        Tightened True (putAfter previous events) taken := by
  induction count generalizing previous with
  | zero => exact .pure ⟨rfl, by simp, [], rfl, .refl []⟩
  | succ count induction =>
      refine (takes_read previous).bind fun event _ ⟨fits, written, form, tightens⟩ => ?_
      refine (induction (some event)).bind fun events _ ⟨length, fit, others⟩ => .pure ?_
      rcases others with ⟨writtenOthers, formOthers, tightensOthers⟩
      refine ⟨congrArg (· + 1) length, List.forall_mem_cons.mpr ⟨fits, fit⟩, ?_⟩
      refine ⟨_, bind_eq_ok.mpr ⟨written, form, bind_eq_ok.mpr ⟨writtenOthers, formOthers, rfl⟩⟩,
        ?_⟩
      rw [List.append_nil]
      exact (tightens.append tightensOthers).mono fun _ => trivial

theorem takes_readList : Takes readList fun events taken => events.length < 2 ^ 32 ∧
    (∀ event ∈ events, event.annotations.length < 2 ^ 32) ∧
      Tightened True (putList events) taken := by
  refine takes_vint.bind fun count taken countTightens => ?_
  refine .afterRemaining ((takes_readAfter none _).mono fun events content items => ?_)
  rcases items with ⟨length, fit, written, form, tightens⟩
  refine ⟨length ▸ count.toNat_lt, fit, _, bind_eq_ok.mpr ⟨written, form, rfl⟩, ?_⟩
  rw [putCount, length, UInt32.ofNat_toNat]
  exact (countTightens.append tightens).mono fun _ => trivial

end SpanEvent

/-! ### Qualifiers -/

namespace Qualifier

theorem takes_readKind : Takes readKind fun kind taken => taken = [kind.code] := by
  refine takes_byte.bind fun code taken same => ?_
  subst same
  split
  · exact .pure rfl
  · exact .pure rfl
  · exact takes_unknownCode _

theorem takes_readAsyncId : Takes readAsyncId fun id taken =>
    Tightens True (putAsyncId id) taken := by
  refine takes_bool.bind fun present taken same => .ite (fun announced => ?_) fun absent => .pure ?_
  · refine takes_int32.bind fun asyncId taken asyncSame => ?_
    refine takes_vint.bind fun sequence taken tightens => .pure ?_
    subst announced
    subst same
    subst asyncSame
    rw [List.append_nil, putAsyncId, UInt32.toUInt32_toInt32, List.append_assoc]
    exact (tightens.behind (putInt32 asyncId)).behind (putBool true)
  · rw [Bool.not_eq_true] at absent
    subst absent
    subst same
    rw [List.append_nil]
    exact .refl _

theorem takes_read : Takes read fun qualifier taken => Tightened True qualifier.put taken := by
  refine takes_readKind.bind fun kind _ kindSame => ?_
  refine (takes_text _).bind fun application _ ⟨_, applicationForm, applicationTight⟩ => ?_
  refine (takes_text _).bind fun agent _ ⟨_, agentForm, agentTight⟩ => ?_
  refine takes_vlong.bind fun start _ startTight => ?_
  refine takes_int64.bind fun spanId _ spanSame => ?_
  refine takes_svint.bind fun first _ firstTight => ?_
  refine takes_readAsyncId.bind fun asyncId _ asyncTight => .pure ?_
  refine ⟨_, bind_eq_ok.mpr ⟨_, applicationForm, bind_eq_ok.mpr ⟨_, agentForm, rfl⟩⟩, ?_⟩
  have spanTight := Tightens.of_eq spanSame.symm
  have whole := applicationTight.append <| agentTight.append <| startTight.append <|
    spanTight.append <| firstTight.append asyncTight
  subst kindSame
  simp only [List.append_assoc, List.append_nil, List.cons_append, UInt64.toUInt64_toInt64]
  exact (whole.behind [kind.code]).mono fun _ => trivial

end Qualifier

theorem takes_checkFirstSequence (qualifier : Qualifier) (events : List SpanEvent) :
    Takes (checkFirstSequence qualifier events) fun _ taken =>
      taken = [] ∧ firstSequence events = qualifier.firstSequence :=
  .ite (fun same => .pure ⟨rfl, same⟩) fun _ => takes_malformed _

/-! ### Spans and span chunks -/

/-- What the qualifier of a record names. -/
def Record.name : Record → Qualifier
  | .span value => value.name
  | .chunk value => value.name

/-- The record is one that a reader makes from a cell of this name and context. -/
structure Record.BuiltFrom (record : Record) (name : Qualifier) (context : CellContext) : Prop where
  name : record.name = name
  context : record.context = context
  shared : record.shared = record
  fits : record.ListsFit

namespace Span

theorem takes_flags : Takes (SpanFlags.ofNat <$> Reader.flags "span" SpanFlags.width)
    fun flags taken => taken = putFlags flags.toList :=
  (Reader.takes_flags _ _).map fun _ _ same => same

theorem takes_parentSpanId (root : Bool) :
    Takes (orElseValue (!root) 0 int64) fun parent taken =>
      Tightens (decide (parent = 0) = root)
        (if decide (parent = 0) then [] else putInt64 parent) taken := by
  have nonempty (value : Int64) : 0 < (putInt64 value).length := by
    simp [putInt64, length_bigEndian]
  refine (takes_orElseFixed (!root) 0 takes_int64 nonempty).mono fun parent taken tightens => ?_
  simp only [ne_eq, ite_not] at tightens
  simp only [decide_eq_true_eq]
  exact tightens.mono fun agrees => by simpa using agrees

theorem takes_readSpan {qualifier : Qualifier} {context : CellContext}
    (kind : qualifier.kind = .span) : Takes (readSpan qualifier context) fun span taken =>
      (Record.span span).BuiltFrom qualifier context ∧
        Tightened True span.column (columnVersion :: taken) := by
  refine .ite (fun _ => takes_malformed _) fun numbered => ?_
  refine takes_flags.bind fun flags _ flagsSame => ?_
  refine (takes_parentSpanId _).bind fun parentSpanId _ parentTight => ?_
  refine takes_svlong.bind fun startOffset _ startTight => ?_
  refine takes_svint.bind fun elapsed _ elapsedTight => ?_
  refine takes_optionalText.bind ?_
  rintro rpc _ ⟨_, rpcForm, rpcTight⟩
  refine (takes_narrow16 _).bind fun serviceType _ serviceTight => ?_
  refine takes_optionalText.bind ?_
  rintro endPoint _ ⟨_, endPointForm, endPointTight⟩
  refine takes_optionalText.bind ?_
  rintro remoteAddr _ ⟨_, remoteForm, remoteTight⟩
  refine takes_svint.bind fun apiId _ apiTight => ?_
  refine (takes_optional _ takes_presentSvint).bind ?_
  rintro errCode _ ⟨_, errForm, errTight⟩
  refine (takes_optional _ ExceptionInfo.takes_read).bind ?_
  rintro exceptionInfo _ ⟨_, exceptionForm, exceptionTight⟩
  have flagWidth (value : Int16) : 0 < (putInt16 value).length := by
    simp [putInt16, length_bigEndian]
  refine (takes_orElseFixed _ _ takes_int16 flagWidth).bind fun flag _ flagTight => ?_
  refine (takes_orElseFixed _ _ takes_byte fun _ => Nat.one_pos).bind
    fun loggingInfo _ loggingTight => ?_
  refine takes_optionalText.bind ?_
  rintro acceptorHost _ ⟨_, acceptorForm, acceptorTight⟩
  have annotationsTaken := Annotation.takes_listUnlessEmpty flags.annotations
  refine annotationsTaken.bind ?_
  rintro annotations _ ⟨annotationsFit, _, annotationsForm, annotationsTight⟩
  refine SpanEvent.takes_readList.bind ?_
  rintro spanEvents _ ⟨eventsFit, eventAnnotationsFit, _, eventsForm, eventsTight⟩
  refine (takes_checkFirstSequence _ _).bind ?_
  rintro _ _ ⟨nothing, first⟩
  refine .pure ⟨?_, ?_⟩
  · refine ⟨?_, rfl, rfl, annotationsFit, eventsFit, eventAnnotationsFit⟩
    rw [Record.name, name, first, ← kind, ← Option.not_isSome_iff_eq_none.mp numbered]
  · refine ⟨_, bind_eq_ok.mpr ⟨_, rpcForm, bind_eq_ok.mpr ⟨_, endPointForm,
      bind_eq_ok.mpr ⟨_, remoteForm, bind_eq_ok.mpr ⟨_, errForm, bind_eq_ok.mpr ⟨_, exceptionForm,
      bind_eq_ok.mpr ⟨_, acceptorForm, ite_bind_eq_ok.mpr ⟨_, annotationsForm,
      bind_eq_ok.mpr ⟨_, eventsForm, rfl⟩⟩⟩⟩⟩⟩⟩⟩, ?_⟩
    have content := parentTight.append <| startTight.append <| elapsedTight.append <|
      rpcTight.append <| serviceTight.append <| endPointTight.append <| remoteTight.append <|
      apiTight.append <| errTight.append <| exceptionTight.append <| flagTight.append <|
      loggingTight.append <| acceptorTight.append <| annotationsTight.append eventsTight
    have whole := content.flagged flags.toList fun agrees => by
      rcases agrees with ⟨root, -, -, -, -, -, -, -, errCode, exception, flag, loggingInfo, -,
        annotations, -⟩
      rw [SpanFlags.toList, ← root, ← errCode, ← exception, ← flag, ← loggingInfo, ← annotations]
    subst flagsSame
    subst nothing
    have offset : context.acceptTime - (context.acceptTime - startOffset) = startOffset := by grind
    simp only [offset, Span.flags, List.append_assoc, List.append_nil, List.cons_append,
      decide_eq_true_eq, Span.isRoot] at whole ⊢
    exact whole.behind [columnVersion]

end Span

/-- A chunk without events can be read, but it cannot be written. -/
theorem SpanChunk.takes_readChunk {qualifier : Qualifier} {context : CellContext}
    (kind : qualifier.kind = .chunk) : Takes (readChunk qualifier context) fun chunk taken =>
      (Record.chunk chunk).BuiltFrom qualifier context ∧
        (chunk.spanEvents ≠ [] → Tightened True chunk.column (columnVersion :: taken)) := by
  refine SpanEvent.takes_readList.bind fun spanEvents _ ⟨eventsFit, annotationsFit, events⟩ => ?_
  rcases events with ⟨written, form, tightens⟩
  refine (takes_checkFirstSequence _ _).bind fun _ _ ⟨nothing, first⟩ => .pure ⟨?_, ?_⟩
  · refine ⟨?_, rfl, rfl, eventsFit, annotationsFit⟩
    rw [Record.name, name, first, ← kind]
  · intro notEmpty
    subst nothing
    simp only [List.append_nil]
    rw [column, if_neg (mt List.isEmpty_iff.mp notEmpty)]
    exact ⟨_, bind_eq_ok.mpr ⟨_, form, rfl⟩, tightens.behind [columnVersion]⟩

/-! ### Records -/

namespace Record

/-- What the writer checks: records without names and chunks without events are refused. -/
def Admitted : Record → Prop
  | .span value => value.agentId ≠ "" ∧ value.applicationName ≠ ""
  | .chunk value => value.agentId ≠ "" ∧ value.applicationName ≠ "" ∧ value.spanEvents ≠ []

theorem takes_readColumn (qualifier : Qualifier) (context : CellContext) :
    Takes (readColumn qualifier context) fun record taken =>
      record.BuiltFrom qualifier context ∧
        (record.Admitted → Tightened True record.column taken) := by
  refine takes_byte.bind fun version taken same => .ite (fun _ => .throw _) fun known => ?_
  rw [ne_eq, not_not] at known
  subst same
  subst known
  split
  next kind =>
    exact (Span.takes_readSpan kind).map fun span content ⟨built, tightened⟩ =>
      ⟨built, fun _ => tightened⟩
  next kind =>
    exact (SpanChunk.takes_readChunk kind).map fun chunk content ⟨built, tightened⟩ =>
      ⟨built, fun admitted => tightened admitted.2.2⟩

/-- The qualifier of an admitted record is written from its name. -/
theorem qualifier_eq {record : Record} (admitted : record.Admitted) :
    record.qualifier = record.name.put := by
  have named {agentId applicationName : String} (agent : agentId ≠ "")
      (application : applicationName ≠ "") : requireNames agentId applicationName = .ok () := by
    rw [requireNames, if_neg (by simpa using agent), if_neg (by simpa using application)]
  cases record with
  | span value =>
      rw [Record.qualifier, Span.qualifier, named admitted.1 admitted.2]
      rfl
  | chunk value =>
      rw [Record.qualifier, SpanChunk.qualifier, named admitted.1 admitted.2.1]
      rfl

/-- The cell that is written for a record which was read from a cell is read as the same record. It
is the shortest of all cells that the record is read from, part by part, and no other one is as
short. -/
theorem decode_shortest {qualifierBytes columnBytes : Bytes} {context : CellContext}
    {record : Record} (accepted : decode qualifierBytes columnBytes context = .ok record)
    (admitted : record.Admitted) : ∃ newQualifier newColumn,
      record.qualifier = .ok newQualifier ∧ record.column = .ok newColumn ∧
      decode newQualifier newColumn context = .ok record ∧
      newQualifier.length ≤ qualifierBytes.length ∧
      (newQualifier.length = qualifierBytes.length → newQualifier = qualifierBytes) ∧
      newColumn.length ≤ columnBytes.length ∧
      (newColumn.length = columnBytes.length → newColumn = columnBytes) := by
  rcases bind_eq_ok.mp accepted with ⟨name, nameRead, contentRead⟩
  rcases Qualifier.takes_read (read_of_complete nameRead) with ⟨nameTaken, nameSplit, named⟩
  rcases takes_readColumn _ _ (read_of_complete contentRead) with ⟨taken, split, built, content⟩
  rcases named with ⟨newQualifier, qualifierForm, qualifierTight⟩
  rcases content admitted with ⟨newColumn, columnForm, columnTight⟩
  rw [List.append_nil] at nameSplit split
  subst nameSplit
  subst split
  have qualifierWritten : record.qualifier = .ok newQualifier := by
    rw [qualifier_eq admitted, built.name, qualifierForm]
  have again := decode_cell built.fits qualifierWritten columnForm
  rw [built.context, built.shared] at again
  exact ⟨newQualifier, newColumn, qualifierWritten, columnForm, again, qualifierTight.length_le,
    qualifierTight.eq_of_length, columnTight.length_le, columnTight.eq_of_length⟩

/-- A chunk of two events that differ in their sequence only. -/
def twinCalls : SpanChunk where
  transactionId := ⟨"a", 0, 1⟩
  agentId := "a"
  applicationName := "b"
  agentStartTime := 0
  spanId := 9
  collectorAcceptTime := 50
  localAsyncId := none
  endPoint := none
  serviceType := none
  applicationServiceType := none
  spanEvents :=
    [{ sequence := 3, depth := 1, startElapsed := 10, endElapsed := 3, serviceType := 1010,
       apiId := 7, rpc := none, endPoint := none, destinationId := none, nextSpanId := none,
       asyncId := none, exceptionInfo := none, annotations := [] },
     { sequence := 4, depth := 1, startElapsed := 10, endElapsed := 3, serviceType := 1010,
       apiId := 7, rpc := none, endPoint := none, destinationId := none, nextSpanId := none,
       asyncId := none, exceptionInfo := none, annotations := [] }]

/-- The start time of the agent has a group too many. -/
def wordyQualifier : Bytes := [2, 2, 98, 2, 97, 128, 0, 0, 0, 0, 0, 0, 0, 0, 9, 6, 0]

/-- The second event repeats what it could take over, and its depth has a group too many. -/
def wordyColumn : Bytes :=
  [0, 2, 0, 0, 6, 20, 2, 228, 15, 6, 14, 0, 0, 8, 0, 130, 0, 228, 15, 6, 14]

theorem decode_shortest_wordyCell :
    decode wordyQualifier wordyColumn ⟨⟨"a", 0, 1⟩, 50⟩ = .ok (.chunk twinCalls) ∧
    (Record.chunk twinCalls).Admitted ∧ ∃ newQualifier newColumn,
      (Record.chunk twinCalls).qualifier = .ok newQualifier ∧
      (Record.chunk twinCalls).column = .ok newColumn ∧
      decode newQualifier newColumn ⟨⟨"a", 0, 1⟩, 50⟩ = .ok (.chunk twinCalls) ∧
      newQualifier.length ≤ wordyQualifier.length ∧
      (newQualifier.length = wordyQualifier.length → newQualifier = wordyQualifier) ∧
      newColumn.length ≤ wordyColumn.length ∧
      (newColumn.length = wordyColumn.length → newColumn = wordyColumn) := by
  have accepted : decode wordyQualifier wordyColumn ⟨⟨"a", 0, 1⟩, 50⟩ = .ok (.chunk twinCalls) := by
    cbv
  have admitted : (Record.chunk twinCalls).Admitted := by simp [Admitted, twinCalls]
  exact ⟨accepted, admitted, decode_shortest accepted admitted⟩

end Record

end Telemetry.Trace
