import Mathlib.Data.List.Basic
import Telemetry.Proofs.Delivery.Holding

namespace Telemetry.Delivery

/-! The life of one metadata request, from its id to its end. A request is called for when its turn
in the queue comes. After a failed call it waits on the timer and queues again, as long as it has
retries left, and it can be dropped wherever it is. -/

/-- What can happen to a request. -/
inductive Happening where
  | numbered
  | queued
  /-- The client is called with an id and a frame. -/
  | called (id : UInt64) (frame : Frame)
  | acknowledged
  /-- The collector rejected it, or the call ended with an error. -/
  | failed
  /-- The timer accepted a timeout for its next attempt. -/
  | scheduled (timeout : Nat)
  /-- A timeout of the timer came due and is going to run. -/
  | due (timeout : Nat)
  | dropped
deriving DecidableEq, Repr

def Happening.isCall : Happening → Bool
  | .called _ _ => true
  | _ => false

/-- How a request stands. Attempts are counted as the request counts them: by the calls that
failed before. -/
inductive Standing where
  | unnumbered
  /-- On its way to the queue for the first time. -/
  | entering
  | queued (attempt : Nat)
  | calling (attempt : Nat)
  | failed (attempt : Nat)
  | waiting (attempt timeout : Nat)
  /-- On its way to the queue again. -/
  | due (attempt : Nat)
  | acknowledged
  | dropped
deriving DecidableEq, Repr

namespace Standing

/-- How a request stands after something happened to it. -/
inductive Goes (maxRetries : Nat) : Standing → Happening → Standing → Prop
  | numbered : Goes maxRetries .unnumbered .numbered .entering
  | accepted : Goes maxRetries .entering .queued (.queued 0)
  | refused : Goes maxRetries .entering .dropped .dropped
  | called {attempt : Nat} (id : UInt64) (frame : Frame) :
      Goes maxRetries (.queued attempt) (.called id frame) (.calling attempt)
  | drained {attempt : Nat} : Goes maxRetries (.queued attempt) .dropped .dropped
  | acknowledged {attempt : Nat} :
      Goes maxRetries (.calling attempt) .acknowledged .acknowledged
  | failed {attempt : Nat} : Goes maxRetries (.calling attempt) .failed (.failed (attempt + 1))
  | interrupted {attempt : Nat} : Goes maxRetries (.calling attempt) .dropped .dropped
  | scheduled {attempt timeout : Nat} (within : attempt ≤ maxRetries) :
      Goes maxRetries (.failed attempt) (.scheduled timeout) (.waiting attempt timeout)
  | givenUp {attempt : Nat} : Goes maxRetries (.failed attempt) .dropped .dropped
  | due {attempt timeout : Nat} :
      Goes maxRetries (.waiting attempt timeout) (.due timeout) (.due attempt)
  | requeued {attempt : Nat} : Goes maxRetries (.due attempt) .queued (.queued attempt)
  | turnedAway {attempt : Nat} : Goes maxRetries (.due attempt) .dropped .dropped

/-- The numbers of calls and of failures that a standing allows for. -/
def Allows (maxRetries calls failures : Nat) : Standing → Prop
  | .unnumbered | .entering => calls = 0 ∧ failures = 0
  | .queued attempt | .waiting attempt _ | .due attempt =>
      attempt ≤ maxRetries ∧ calls = attempt ∧ failures = attempt
  | .calling attempt => attempt ≤ maxRetries ∧ calls = attempt + 1 ∧ failures = attempt
  | .failed attempt => attempt ≤ maxRetries + 1 ∧ calls = attempt ∧ failures = attempt
  | .acknowledged => calls ≤ maxRetries + 1 ∧ failures ≤ maxRetries
  | .dropped => calls ≤ maxRetries + 1 ∧ failures ≤ maxRetries + 1

/-- The failure of a request has been dealt with: it is given up or scheduled at once. -/
def Settled : Standing → Prop
  | .failed _ => False
  | _ => True

/-- Nothing is going to happen to the request any more. -/
def Ended (standing : Standing) : Prop := standing = .acknowledged ∨ standing = .dropped

variable {maxRetries calls failures : Nat} {before after : Standing} {happening : Happening}

theorem Goes.allows (goes : before.Goes maxRetries happening after)
    (allows : before.Allows maxRetries calls failures) :
    after.Allows maxRetries (calls + if happening.isCall then 1 else 0)
      (failures + if happening = .failed then 1 else 0) := by
  cases goes <;> simp [Allows, Happening.isCall] at allows ⊢ <;> omega

theorem Goes.unended (goes : before.Goes maxRetries happening after) : ¬ before.Ended := by
  cases goes <;> simp [Ended]

theorem Allows.calls_le {standing : Standing}
    (allows : standing.Allows maxRetries calls failures) : calls ≤ maxRetries + 1 := by
  cases standing <;> simp only [Allows] at allows <;> omega

/-- A request that has failed too often is dropped, and that is the failure it is dropped for. -/
theorem Allows.eq_dropped {standing : Standing}
    (allows : standing.Allows maxRetries calls (maxRetries + 1)) (settled : standing.Settled) :
    standing = .dropped := by
  cases standing with
  | dropped => rfl
  | failed attempt => exact settled.elim
  | _ => simp only [Allows] at allows; omega

theorem Goes.of_dropped (goes : before.Goes maxRetries happening .dropped) :
    happening = .dropped ∧ (before.Allows maxRetries calls (maxRetries + 1) →
      ∃ attempt, before = .failed attempt) := by
  cases goes with
  | givenUp => exact ⟨rfl, fun _ => ⟨_, rfl⟩⟩
  | _ =>
      refine ⟨rfl, fun allows => ?_⟩
      simp only [Allows] at allows
      omega

end Standing

/-- What has happened to a request, oldest first, and how it stands. -/
inductive Lives (maxRetries : Nat) : List Happening → Standing → Prop
  | nil : Lives maxRetries [] .unnumbered
  | snoc {life : List Happening} {before after : Standing} {happening : Happening}
      (earlier : Lives maxRetries life before) (goes : before.Goes maxRetries happening after) :
      Lives maxRetries (life ++ [happening]) after

namespace Lives

variable {maxRetries : Nat} {life : List Happening} {standing : Standing}

/-- Two things that come together. -/
theorem twice {before middle after : Standing} {first second : Happening}
    (lives : Lives maxRetries life before) (goes : before.Goes maxRetries first middle)
    (goesOn : middle.Goes maxRetries second after) :
    Lives maxRetries (life ++ [first, second]) after := by
  rw [List.append_cons]
  exact (lives.snoc goes).snoc goesOn

theorem allows (lives : Lives maxRetries life standing) :
    standing.Allows maxRetries (life.countP Happening.isCall) (life.count .failed) := by
  induction lives with
  | nil => exact ⟨rfl, rfl⟩
  | snoc earlier goes induction =>
      rw [List.countP_append, List.countP_singleton, List.count_append, List.count_singleton]
      simpa using goes.allows induction

/-- At most one call is made for every retry, and one more. -/
theorem calls_le (lives : Lives maxRetries life standing) :
    life.countP Happening.isCall ≤ maxRetries + 1 := lives.allows.calls_le

/-- The life up to a happening is a life, too, and the happening continues it. -/
theorem split {first rest : List Happening} {happening : Happening}
    (lives : Lives maxRetries (first ++ happening :: rest) standing) :
    ∃ before after, Lives maxRetries first before ∧
      before.Goes maxRetries happening after := by
  generalize whole : first ++ happening :: rest = life at lives
  -- By induction on the life, which grows at its end: either the happening is its last, or it is
  -- one of the life before.
  induction lives generalizing rest with
  | nil => simp at whole
  | @snoc life before after last earlier goes induction =>
      rcases List.eq_nil_or_concat rest with rfl | ⟨rest, final, rfl⟩
      · rcases List.append_inj' whole rfl with ⟨rfl, same⟩
        cases same
        exact ⟨before, after, earlier, goes⟩
      · rw [List.concat_eq_append, ← List.cons_append, ← List.append_assoc] at whole
        exact induction (List.append_inj' whole rfl).1

/-- An acknowledged request and a dropped one have nothing else to come. -/
theorem ended {happening : Happening} (lives : Lives maxRetries life standing)
    (happened : happening ∈ life) (final : happening = .acknowledged ∨ happening = .dropped) :
    standing.Ended := by
  induction lives with
  | nil => cases happened
  | snoc earlier goes induction =>
      rcases List.mem_append.mp happened with past | last
      · exact absurd (induction past) goes.unended
      · cases List.mem_singleton.mp last
        rcases final with rfl | rfl
        · cases goes
          exact .inl rfl
        · cases goes <;> exact .inr rfl

theorem last_of_final {first rest : List Happening} {happening : Happening}
    (lives : Lives maxRetries (first ++ happening :: rest) standing)
    (final : happening = .acknowledged ∨ happening = .dropped) : rest = [] := by
  cases rest with
  | nil => rfl
  | cons next rest =>
      rw [List.append_cons] at lives
      rcases lives.split with ⟨before, after, earlier, goes⟩
      exact absurd (earlier.ended (by simp) final) goes.unended

/-! ### What came before -/

theorem of_unnumbered (lives : Lives maxRetries life .unnumbered) : life = [] := by
  generalize start : Standing.unnumbered = standing at lives
  cases lives with
  | nil => rfl
  | snoc earlier goes => cases goes <;> cases start

theorem of_entering (lives : Lives maxRetries life .entering) : life = [.numbered] := by
  cases lives with
  | snoc earlier goes =>
      cases goes with
      | numbered => rw [earlier.of_unnumbered, List.nil_append]

theorem of_calling {attempt : Nat} (lives : Lives maxRetries life (.calling attempt)) :
    ∃ earlier id frame, life = earlier ++ [.called id frame] := by
  cases lives with
  | @snoc earlier before after happening _ goes =>
      cases goes with
      | called id frame => exact ⟨earlier, id, frame, rfl⟩

theorem of_failed {attempt : Nat} (lives : Lives maxRetries life (.failed attempt)) :
    ∃ earlier id frame, life = earlier ++ [.called id frame, .failed] := by
  cases lives with
  | snoc earlier goes =>
      cases goes with
      | failed =>
          rcases earlier.of_calling with ⟨first, id, frame, rfl⟩
          exact ⟨first, id, frame, List.append_assoc _ _ _⟩

theorem of_waiting {attempt timeout : Nat}
    (lives : Lives maxRetries life (.waiting attempt timeout)) :
    ∃ earlier id frame, life = earlier ++ [.called id frame, .failed, .scheduled timeout] := by
  cases lives with
  | snoc earlier goes =>
      cases goes with
      | scheduled within =>
          rcases earlier.of_failed with ⟨first, id, frame, rfl⟩
          exact ⟨first, id, frame, List.append_assoc _ _ _⟩

theorem of_due {attempt : Nat} (lives : Lives maxRetries life (.due attempt)) :
    ∃ earlier id frame timeout,
      life = earlier ++ [.called id frame, .failed, .scheduled timeout, .due timeout] := by
  cases lives with
  | snoc earlier goes =>
      cases goes with
      | @due attempt timeout =>
          rcases earlier.of_waiting with ⟨first, id, frame, rfl⟩
          exact ⟨first, id, frame, timeout, List.append_assoc _ _ _⟩

theorem of_queued {attempt : Nat} (lives : Lives maxRetries life (.queued attempt)) :
    life = [.numbered, .queued] ∨ ∃ earlier id frame timeout, life = earlier ++
      [.called id frame, .failed, .scheduled timeout, .due timeout, .queued] := by
  cases lives with
  | snoc earlier goes =>
      cases goes with
      | accepted => exact .inl (by rw [earlier.of_entering]; rfl)
      | requeued =>
          rcases earlier.of_due with ⟨first, id, frame, timeout, rfl⟩
          exact .inr ⟨first, id, frame, timeout, List.append_assoc _ _ _⟩

/-- A request is called for at its first turn in the queue, or after the call before has failed and
the timeout that was scheduled then has come due. -/
theorem before_call {first rest : List Happening} {id : UInt64} {frame : Frame}
    (lives : Lives maxRetries (first ++ .called id frame :: rest) standing) :
    first = [.numbered, .queued] ∨ ∃ earlier id frame timeout, first = earlier ++
      [.called id frame, .failed, .scheduled timeout, .due timeout, .queued] := by
  rcases lives.split with ⟨before, after, earlier, goes⟩
  cases goes with
  | called => exact earlier.of_queued

/-- The failure of the last attempt drops the request, which has not been dropped before. -/
theorem exhausted (lives : Lives maxRetries life standing) (settled : standing.Settled)
    (failures : life.count .failed = maxRetries + 1) :
    ∃ earlier, life = earlier ++ [.failed, .dropped] ∧ .dropped ∉ earlier := by
  have allows := lives.allows
  rw [failures] at allows
  cases allows.eq_dropped settled
  cases lives with
  | @snoc first before after happening earlier goes =>
      have allowed := earlier.allows
      rcases goes.of_dropped with ⟨rfl, only⟩
      rw [List.count_append] at failures
      rw [show first.count .failed = maxRetries + 1 from failures] at allowed
      rcases only allowed with ⟨attempt, rfl⟩
      rcases earlier.of_failed with ⟨past, id, frame, rfl⟩
      refine ⟨past ++ [.called id frame], by simp, fun member => ?_⟩
      have past : .dropped ∈ past ++ [.called id frame, .failed] := by
        rw [List.append_cons]
        exact List.mem_append_left _ member
      exact goes.unended (earlier.ended past (.inr rfl))

end Lives

/-! ### Many requests

Requests are told apart by their numbers, since ids come back once all have been given. -/

/-- A request at one of the places where a sender keeps it. -/
structure Placed where
  number : Nat
  request : Request
  standing : Standing
deriving DecidableEq

/-- What a log tells about one request. -/
def lifeOf (number : Nat) (log : List (Nat × Happening)) : List Happening :=
  (log.filter fun entry => entry.1 = number).map Prod.snd

section Logs

variable {number other : Nat}

theorem lifeOf_append_own (number : Nat) (log : List (Nat × Happening))
    (happenings : List Happening) :
    lifeOf number (log ++ happenings.map (number, ·)) = lifeOf number log ++ happenings := by
  simp [lifeOf, List.filter_map, Function.comp_def]

theorem lifeOf_append_other (different : number ≠ other) (log : List (Nat × Happening))
    (happenings : List Happening) :
    lifeOf other (log ++ happenings.map (number, ·)) = lifeOf other log := by
  simp [lifeOf, List.filter_map, Function.comp_def, different]

end Logs

/-- No request is at two places, each one is where its life has brought it, and every call was made
with the id and the frame that were assigned. -/
structure Orderly (maxRetries : Nat) (assigned : List (UInt64 × Frame))
    (log : List (Nat × Happening)) (placed : List Placed) : Prop where
  single : (placed.map Placed.number).Nodup
  known : ∀ place ∈ placed, assigned[place.number]? = some place.request.numbered
  lives : ∀ place ∈ placed, Lives maxRetries (lifeOf place.number log) place.standing
  settled : ∀ number, ∃ standing : Standing,
    Lives maxRetries (lifeOf number log) standing ∧ standing.Settled
  fresh : ∀ number, assigned.length ≤ number → lifeOf number log = []
  calls : ∀ number id frame, .called id frame ∈ lifeOf number log →
    assigned[number]? = some (id, frame)

namespace Orderly

variable {maxRetries : Nat} {assigned : List (UInt64 × Frame)} {log : List (Nat × Happening)}
  {placed others gone : List Placed} {place : Placed}

theorem start (maxRetries : Nat) : Orderly maxRetries [] [] [] where
  single := List.nodup_nil
  known := nofun
  lives := nofun
  settled := fun _ => ⟨.unnumbered, .nil, trivial⟩
  fresh := fun _ _ => rfl
  calls := nofun

/-- Requests change places in the sender's lists or get lost. -/
theorem lose (orderly : Orderly maxRetries assigned log placed)
    (places : placed.Perm (others ++ gone)) : Orderly maxRetries assigned log others := by
  have stays : ∀ place ∈ others, place ∈ placed :=
    fun place member => places.mem_iff.mpr (List.mem_append_left gone member)
  refine ⟨?_, fun place member => orderly.known place (stays place member),
    fun place member => orderly.lives place (stays place member), orderly.settled, orderly.fresh,
    orderly.calls⟩
  have single := (places.map Placed.number).nodup_iff.mp orderly.single
  rw [List.map_append] at single
  exact (List.nodup_append.mp single).1

theorem of_perm (orderly : Orderly maxRetries assigned log placed)
    (places : placed.Perm others) : Orderly maxRetries assigned log others :=
  orderly.lose (by rwa [List.append_nil] : placed.Perm (others ++ []))

/-- A frame is given its number. -/
theorem enter (orderly : Orderly maxRetries assigned log placed) (request : Request) :
    Orderly maxRetries (assigned ++ [request.numbered])
      (log ++ [(assigned.length, .numbered)])
      (⟨assigned.length, request, .entering⟩ :: placed) := by
  have below {place : Placed} (member : place ∈ placed) : place.number < assigned.length :=
    (List.getElem?_eq_some_iff.mp (orderly.known place member)).1
  have own : lifeOf assigned.length (log ++ [(assigned.length, .numbered)]) = [.numbered] := by
    apply (lifeOf_append_own assigned.length log [.numbered]).trans
    rw [orderly.fresh _ (Nat.le_refl _), List.nil_append]
  have other {number : Nat} (different : assigned.length ≠ number) :
      lifeOf number (log ++ [(assigned.length, .numbered)]) = lifeOf number log :=
    lifeOf_append_other different log [.numbered]
  have first : Lives maxRetries [.numbered] .entering := .snoc .nil .numbered
  refine ⟨?_, ?_, ?_, ?_, ?_, ?_⟩
  · refine List.nodup_cons.mpr ⟨fun again => ?_, orderly.single⟩
    rcases List.mem_map.mp again with ⟨place, member, same⟩
    exact Nat.ne_of_lt (below member) same
  · intro place member
    cases member with
    | head => exact List.getElem?_concat_length
    | tail _ old => rw [List.getElem?_append_left (below old), orderly.known place old]
  · intro place member
    cases member with
    | head => rwa [own]
    | tail _ old =>
        rw [other (Nat.ne_of_gt (below old))]
        exact orderly.lives place old
  · intro number
    by_cases same : assigned.length = number
    · rw [← same, own]
      exact ⟨.entering, first, trivial⟩
    · rw [other same]
      exact orderly.settled number
  · intro number beyond
    rw [List.length_append, List.length_singleton] at beyond
    rw [other (by omega)]
    exact orderly.fresh number (by omega)
  · intro number id frame called
    by_cases same : assigned.length = number
    · rw [← same, own] at called
      cases List.mem_singleton.mp called
    · rw [other same] at called
      have known := orderly.calls number id frame called
      rwa [List.getElem?_append_left (List.getElem?_eq_some_iff.mp known).1]

/-- Something happens to a request, and it gets to another place. -/
theorem go (orderly : Orderly maxRetries assigned log (place :: others))
    {request : Request} {standing : Standing} (happenings : List Happening)
    (goes : ∀ life, Lives maxRetries life place.standing →
      Lives maxRetries (life ++ happenings) standing) (settled : standing.Settled)
    (same : request.numbered = place.request.numbered)
    (calls : ∀ id frame, .called id frame ∈ happenings → (id, frame) = request.numbered) :
    Orderly maxRetries assigned (log ++ happenings.map (place.number, ·))
      (⟨place.number, request, standing⟩ :: others) := by
  have known := orderly.known place List.mem_cons_self
  have single := orderly.single
  rw [List.map_cons, List.nodup_cons] at single
  have own : lifeOf place.number (log ++ happenings.map (place.number, ·)) =
      lifeOf place.number log ++ happenings := lifeOf_append_own _ _ _
  have other {number : Nat} (different : place.number ≠ number) :
      lifeOf number (log ++ happenings.map (place.number, ·)) = lifeOf number log :=
    lifeOf_append_other different _ _
  have lives := goes _ (orderly.lives place List.mem_cons_self)
  rw [← own] at lives
  refine ⟨orderly.single, ?_, ?_, ?_, ?_, ?_⟩
  · intro moved member
    cases member with
    | head => rw [same, known]
    | tail _ old => exact orderly.known moved (List.mem_cons_of_mem place old)
  · intro moved member
    cases member with
    | head => exact lives
    | tail _ old =>
        have different : place.number ≠ moved.number := fun equal =>
          single.1 (equal ▸ List.mem_map_of_mem old)
        rw [other different]
        exact orderly.lives moved (List.mem_cons_of_mem place old)
  · intro number
    by_cases here : place.number = number
    · exact ⟨standing, here ▸ lives, settled⟩
    · rw [other here]
      exact orderly.settled number
  · intro number beyond
    have inside := (List.getElem?_eq_some_iff.mp known).1
    rw [other (by omega)]
    exact orderly.fresh number beyond
  · intro number id frame called
    by_cases here : place.number = number
    · rw [← here, own] at called
      rcases List.mem_append.mp called with past | now
      · exact here ▸ orderly.calls place.number id frame past
      · rw [← here, known, ← same, calls id frame now]
    · rw [other here] at called
      exact orderly.calls number id frame called

/-- Requests are dropped. -/
theorem drop (orderly : Orderly maxRetries assigned log (gone ++ others))
    (goes : ∀ place ∈ gone, place.standing.Goes maxRetries .dropped .dropped) :
    Orderly maxRetries assigned (log ++ gone.map fun place => (place.number, .dropped))
      others := by
  induction gone generalizing log with
  | nil =>
      rw [List.map_nil, List.append_nil]
      exact orderly
  | cons place gone induction =>
      have dropped : Orderly maxRetries assigned (log ++ [(place.number, .dropped)])
          (⟨place.number, place.request, .dropped⟩ :: (gone ++ others)) :=
        orderly.go [.dropped]
          (fun life lives => lives.snoc (goes place List.mem_cons_self)) trivial rfl (by simp)
      have rest := dropped.lose (List.perm_append_singleton _ _).symm
      rw [List.map_cons, List.append_cons]
      exact induction rest fun place member => goes place (List.mem_cons_of_mem _ member)

end Orderly

end Telemetry.Delivery
