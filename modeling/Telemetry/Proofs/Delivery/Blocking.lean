import Telemetry.Proofs.Delivery.Resuming

namespace Telemetry.Delivery

/-! A frame that the framing never lets through. Its write fails on every connection, and a frame
whose write failed is written first on the next connection, so no frame behind it is ever written:
what a channel can still deliver ends before its first oversized frame. -/

/-- The beats in which the channel is handed no frame and writes none that does not fit. -/
structure Framed (maxLength : Nat) (channel : Channel) (own : Stream) (beat : Beat) : Prop where
  unsent : ∀ frame, beat.part? channel ≠ some (.send frame)
  fitting : ∀ frame ∈ beat.writes channel own.phase, frame.fits maxLength = true

theorem Act.part?_ne_send {act : Act} (uncalled : act.isCall = false) (channel : Channel)
    (frame : Frame) : act.part? channel ≠ some (.send frame) := by
  intro sent
  induction act with
  | sendFrame | shutdown | close => cases uncalled
  | unaware act induction => exact induction uncalled sent
  | span now event | stat now event =>
      rw [part?] at sent
      split at sent <;> cases sent
  | metadata | occupy | collect | claim | run => cases sent

theorem StreamEvent.fits_of_welcome {maxLength : Nat} {event : StreamEvent} {phase : Phase}
    {frame : Frame} (welcome : event.welcome maxLength phase = true)
    (written : frame ∈ event.writes phase) : frame.fits maxLength = true := by
  cases event with
  | written =>
      cases phase with
      | writing current =>
          rcases List.mem_singleton.mp written with rfl
          exact welcome
      | _ => cases written
  | _ => cases written

theorem Welcomes.framed {maxLength : Nat} {since : Nanos} {channel : Channel} {own : Stream}
    {beat : Beat} (welcomes : Welcomes maxLength since channel own beat) :
    Framed maxLength channel own beat := by
  constructor
  · intro frame sent
    cases beat with
    | act act => exact act.part?_ne_send welcomes.uncalled channel frame sent
    | defer | listen | release | join => cases sent
  · intro frame written
    rw [Beat.writes] at written
    cases part : beat.part? channel with
    | none =>
        rw [part] at written
        cases written
    | some action =>
        rw [part] at written
        cases action with
        | send frame => cases written
        | react now event =>
            exact StreamEvent.fits_of_welcome (welcomes.welcome now event part).2 written

/-- Items that hold are never fewer than those before the first that does not. -/
theorem filter_eq_takeWhile {α : Type} {holds : α → Bool} {items : List α}
    (front : items.filter holds <+: items.takeWhile holds) :
    items.filter holds = items.takeWhile holds := by
  have kept : (items.takeWhile holds).filter holds = items.takeWhile holds :=
    List.filter_eq_self.mpr (List.all_eq_true.mp List.all_takeWhile)
  have within : (items.takeWhile holds).Sublist (items.filter holds) := by
    rw [← kept]
    exact (List.takeWhile_sublist holds).filter holds
  exact (within.eq_of_length_le front.length_le).symm

namespace Session

variable {maxLength : Nat} {channel : Channel} {session after : Session} {own : Stream}
  {frames : List Frame}

/-- Frames are written from the front, and only those that fit. -/
theorem Continues.isPrefix_takeWhile
    (continues : Continues (Framed maxLength channel) channel session frames after)
    (stream : session.transport.stream? channel = some own) (wellFormed : own.WellFormed) :
    frames <+: own.undelivered.takeWhile (Frame.fits maxLength) := by
  induction continues generalizing own with
  | refl => exact List.nil_prefix
  | @step session next after acting beat frames found framed beaten rest induction =>
      rw [stream] at found
      cases found
      rcases beat?_takes beaten stream with ⟨left, reached, takes⟩
      rcases takes.delivers wellFormed framed.unsent with ⟨dropped, conserved, ended⟩
      have later := induction reached (takes.wellFormed wellFormed)
      have fitting := framed.fitting
      rw [Beat.writes] at fitting ⊢
      rw [conserved, List.append_assoc, List.takeWhile_append_of_pos fitting,
        List.prefix_append_right_inj]
      rcases ended with rfl | emptied
      · exact later
      · -- A channel that dropped its frames has none left to write.
        rw [emptied] at later
        rw [List.prefix_nil.mp later]
        exact List.nil_prefix

/-- A streaming channel that was not asked to end can go on to write its frames up to the first one
that does not fit, if its peer accepts every connection and reads all that it is sent. Whatever its
peer does, it writes no frame beyond. So it can write all frames that fit exactly if none of them
is behind one that does not. -/
theorem writable_takeWhile_fits {config : Config} {beats : List Beat} {session : Session}
    (ran : (start config).beats? beats = some session) {channel : Channel} {own : Stream}
    (stream : session.transport.stream? channel = some own) (asked : own.cancelled = false)
    (maxLength : Nat) (since : Nanos) :
    CanWrite maxLength since channel session (own.undelivered.takeWhile (Frame.fits maxLength)) ∧
      (∀ frames after, Continues (Framed maxLength channel) channel session frames after →
        frames <+: own.undelivered.takeWhile (Frame.fits maxLength)) ∧
      (CanWrite maxLength since channel session (own.undelivered.filter (Frame.fits maxLength)) ↔
        own.undelivered.filter (Frame.fits maxLength) =
          own.undelivered.takeWhile (Frame.fits maxLength)) := by
  have noStop : (start config).Flagged := fun stopped => nomatch stopped
  rcases beats?_watchful (start_watchful config) noStop ran with ⟨watchful, flagged⟩
  have sound := start_beats?_sound ran stream
  have writable : CanWrite maxLength since channel session
      (own.undelivered.takeWhile (Frame.fits maxLength)) :=
    canWrite watchful flagged stream sound asked
  refine ⟨writable, fun frames after continues =>
    continues.isPrefix_takeWhile stream sound.wellFormed, fun ⟨after, continues⟩ => ?_, ?_⟩
  · have framed := continues.mono fun own beat welcomes => welcomes.framed
    exact filter_eq_takeWhile (framed.isPrefix_takeWhile stream sound.wellFormed)
  · intro equal
    rw [equal]
    exact writable

/-- Frames may be two bytes long. -/
def narrow : Config := { timerWheelSize := 64, maxFrameLength := 2 }

/-- Three frames are to be written on a connection that was accepted, and the one between the others
is three bytes long. -/
def acceptedConnection : List Beat :=
  [.act (.sendFrame ⟨.span, [1]⟩), .act (.sendFrame ⟨.span, [2, 2]⟩),
   .act (.sendFrame ⟨.span, [3]⟩), .act (.span 0 .begin), .act (.span 0 .connected)]

theorem acceptedConnection_streams :
    ∃ session own, (start narrow).beats? acceptedConnection = some session ∧
      session.transport.stream? .span = some own ∧ own.cancelled = false ∧
      own.undelivered = [⟨.span, [1]⟩, ⟨.span, [2, 2]⟩, ⟨.span, [3]⟩] := by
  have reached :
      ((start narrow).beats? acceptedConnection).map (fun session =>
        (session.transport.span.cancelled, session.transport.span.undelivered)) =
          some (false, [⟨.span, [1]⟩, ⟨.span, [2, 2]⟩, ⟨.span, [3]⟩]) := by
    decide +kernel
  rcases Option.map_eq_some_iff.mp reached with ⟨session, ran, ended⟩
  rcases Prod.mk.inj ended with ⟨asked, waits⟩
  exact ⟨session, session.transport.span, ran, rfl, asked, waits⟩

theorem writable_takeWhile_fits_acceptedConnection :
    ∃ session own, (start narrow).beats? acceptedConnection = some session ∧
      session.transport.stream? .span = some own ∧ own.cancelled = false ∧
      CanWrite narrow.maxFrameLength 1000 .span session [⟨.span, [1]⟩] ∧
      ¬ CanWrite narrow.maxFrameLength 1000 .span session [⟨.span, [1]⟩, ⟨.span, [3]⟩] := by
  rcases acceptedConnection_streams with ⟨session, own, ran, stream, asked, waits⟩
  have writable := writable_takeWhile_fits ran stream asked narrow.maxFrameLength 1000
  rw [waits] at writable
  exact ⟨session, own, ran, stream, asked, writable.1, fun whole =>
    nomatch writable.2.2.mp whole⟩

/-- A frame that fits is never written once an oversized one is before it. -/
theorem oversized_blocks_acceptedConnection :
    ∃ session own, (start narrow).beats? acceptedConnection = some session ∧
      session.transport.stream? .span = some own ∧ own.cancelled = false ∧
      ⟨.span, [3]⟩ ∈ own.undelivered ∧ Frame.fits narrow.maxFrameLength ⟨.span, [3]⟩ = true ∧
      ∀ frames after, Continues (Framed narrow.maxFrameLength .span) .span session frames after →
        ⟨.span, [3]⟩ ∉ frames := by
  rcases acceptedConnection_streams with ⟨session, own, ran, stream, asked, waits⟩
  have sound := start_beats?_sound ran stream
  refine ⟨session, own, ran, stream, asked, ?_, Frame.fits_iff.mpr (by decide), ?_⟩
  · rw [waits]
    decide
  · intro frames after continues written
    have front := continues.isPrefix_takeWhile stream sound.wellFormed
    rw [waits] at front
    have member := front.subset written
    revert member
    decide

end Session

end Telemetry.Delivery
