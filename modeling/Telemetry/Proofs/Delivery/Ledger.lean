import Mathlib.Data.List.InsertIdx
import Mathlib.Data.List.Perm.Basic
import Telemetry.Proofs.Delivery.RequestLife
import Telemetry.Proofs.Delivery.Sending

namespace Telemetry.Delivery

open Message

/-! A sender of metadata requests whose requests are followed. A ledger numbers them in the order of
their ids and follows each of them through the queue, the call, the timer and back, whatever the
callers, the collector, the timer and its other users do, and in whatever order. -/

/-! ### Parts of a move -/

/-- The request that a job is to queue again. -/
def Job.request? : Job → Option Request
  | .retry request => some request
  | .reconnect _ => none
  | .unrelated => none

namespace RequestChannel

/-- A request that is to be queued is queued or dropped. -/
theorem retry_eq (request : Request) (channel : RequestChannel) :
    channel.retry request = channel.drop ∨
      channel.retry request = { channel with queue := channel.queue ++ [request] } := by
  rw [retry]
  split
  next => exact .inl rfl
  next =>
    rw [enqueue]
    split
    next => exact .inl rfl
    next => exact .inr rfl

/-- A failed request is dropped, or it has retries left and the timer takes it. -/
theorem retryLater_eq (request : Request) (channel : RequestChannel) (timer : Timer Job) :
    channel.retryLater .retry request timer = (channel.drop, timer) ∨
      ∃ id after, request.attempt + 1 ≤ channel.maxRetries ∧
        timer.schedule channel.retryDelay (.retry { request with attempt := request.attempt + 1 }) =
          .ok (id, after) ∧
        channel.retryLater .retry request timer = (channel, after) := by
  rw [retryLater]
  split
  next => exact .inl rfl
  next more =>
    simp only [Bool.or_eq_true, decide_eq_true_eq, not_or, Nat.not_lt] at more
    split
    next id after scheduled => exact .inr ⟨id, after, more.2, scheduled, rfl⟩
    next => exact .inl rfl

end RequestChannel

namespace Sender

/-- The call for the request in flight ends, with an answer of the collector or without one. A
shutdown may come between a failure and its retry. -/
def answered? (answer : Option Ack) (sender : Sender) : Option Sender :=
  if answer.any Ack.success then sender.event? .acknowledged
  else
    sender.inFlight?.map fun request =>
      let (channel, timer) :=
        RequestChannel.retryLater .retry request { sender.channel with phase := .idle }
          sender.timer
      { sender with channel, timer }

/-- As long as the channel runs, a failure is the event of the model. -/
theorem answered?_eq_event? {answer : Option Ack} {sender : Sender}
    (running : sender.channel.shutdown = false) (rejected : ¬ answer.any Ack.success) :
    sender.answered? answer = sender.event? .failed := by
  rw [answered?, if_neg rejected, event?, inFlight?]
  cases phase : sender.channel.phase <;> simp [RequestChannel.step?, phase, running]

theorem inFlight?_eq_some {sender : Sender} {request : Request} :
    sender.inFlight? = some request ↔ sender.channel.phase = .requesting request := by
  rw [inFlight?]
  cases phase : sender.channel.phase <;> simp

end Sender

/-! ### Ledgers -/

/-- A sender with the numbers of its requests and with all that has happened to them. -/
structure Ledger where
  sender : Sender
  entering : List (Nat × Request)
  queue : List (Nat × Request)
  calling : Option (Nat × Request)
  claimed : Option (Nat × Request)
  /-- Which request a timeout was scheduled for. -/
  owner : Nat → Nat
  log : List (Nat × Happening)

namespace Ledger

inductive Deed where
  | move (move : Sender.Move)
  /-- The call for the request in flight ends. -/
  | answered (answer : Option Ack)
  /-- A deed of somebody who looked at the shutdown flag before it was set. -/
  | unaware (deed : Deed)
deriving DecidableEq, Repr

def start (capacity : Nat) (retryDelay : Nanos) (maxRetries : Nat) (tick : Nanos)
    (wheelSize maxPending : Nat) : Ledger where
  sender := .start capacity retryDelay maxRetries (.start tick wheelSize maxPending)
  entering := []
  queue := []
  calling := none
  claimed := none
  owner := id
  log := []

/-- What has happened to a request, oldest first. -/
def life (number : Nat) (ledger : Ledger) : List Happening := lifeOf number ledger.log

/-- A request has been handed to the queue, which has grown if it took the request in. -/
def offer (item : Nat × Request) (next : Sender) (ledger : Ledger) : Ledger :=
  if ledger.sender.channel.queue.length < next.channel.queue.length then
    { ledger with
      sender := next
      queue := ledger.queue ++ [item]
      log := ledger.log ++ [(item.1, .queued)] }
  else { ledger with sender := next, log := ledger.log ++ [(item.1, .dropped)] }

/-- The ledger after a move that has brought the sender to `next`. -/
def moved (next : Sender) (ledger : Ledger) : Sender.Move → Ledger
  | .number frame =>
      let number := ledger.sender.assigned.length
      { ledger with
        sender := next
        entering := ledger.entering ++ [(number, ⟨ledger.sender.channel.nextId, frame, 0⟩)]
        log := ledger.log ++ [(number, .numbered)] }
  | .submit place =>
      match ledger.entering[place]? with
      | some item => { ledger with entering := ledger.entering.eraseIdx place }.offer item next
      | none => { ledger with sender := next }
  | .take =>
      match ledger.queue, next.inFlight? with
      | item :: queue, some request =>
          { ledger with
            sender := next
            queue
            calling := some item
            log := ledger.log ++ [(item.1, .called request.id request.frame)] }
      | _, _ => { ledger with sender := next }
  | .noticeShutdown =>
      { ledger with
        sender := next
        queue := []
        calling := none
        log := ledger.log ++
          (ledger.calling.toList ++ ledger.queue).map fun item => (item.1, .dropped) }
  | .claim =>
      match ledger.sender.due, next.claimed with
      | entry :: _, some (.retry request) =>
          { ledger with
            sender := next
            claimed := some (ledger.owner entry.id, request)
            log := ledger.log ++ [(ledger.owner entry.id, .due entry.id)] }
      | _, _ => { ledger with sender := next }
  | .run =>
      match ledger.claimed with
      | some item => { ledger with claimed := none }.offer item next
      | none => { ledger with sender := next }
  | .shutdown | .occupy _ | .cancel _ | .collect | .stopTimer => { ledger with sender := next }

/-- The ledger after a call has ended. The timer has one more timeout if it took the retry. -/
def answered (answer : Option Ack) (next : Sender) (ledger : Ledger) : Ledger :=
  match ledger.calling with
  | none => { ledger with sender := next }
  | some (number, _) =>
      let timeout := ledger.sender.timer.statuses.size
      if answer.any Ack.success then
        { ledger with
          sender := next
          calling := none
          log := ledger.log ++ [(number, .acknowledged)] }
      else if timeout < next.timer.statuses.size then
        { ledger with
          sender := next
          calling := none
          owner := Function.update ledger.owner timeout number
          log := ledger.log ++ [(number, .failed), (number, .scheduled timeout)] }
      else
        { ledger with
          sender := next
          calling := none
          log := ledger.log ++ [(number, .failed), (number, .dropped)] }

def setShutdown (shutdown : Bool) (ledger : Ledger) : Ledger :=
  { ledger with
    sender := { ledger.sender with channel := { ledger.sender.channel with shutdown } } }

def act? (ledger : Ledger) : Deed → Option Ledger
  | .move move => (ledger.sender.move? move).map fun next => ledger.moved next move
  | .answered answer => (ledger.sender.answered? answer).map fun next => ledger.answered answer next
  | .unaware deed =>
      (act? (ledger.setShutdown false) deed).map fun after =>
        after.setShutdown (ledger.sender.channel.shutdown || after.sender.channel.shutdown)

def actAll? (ledger : Ledger) : List Deed → Option Ledger
  | [] => some ledger
  | deed :: deeds => (ledger.act? deed).bind fun next => next.actAll? deeds

/-! ### Places -/

def place (standing : Request → Standing) (items : List (Nat × Request)) : List Placed :=
  items.map fun (number, request) => ⟨number, request, standing request⟩

/-- The requests that wait for timeouts. -/
def waiting (owner : Nat → Nat) (timeouts : List (Entry Job)) : List Placed :=
  timeouts.filterMap fun entry =>
    entry.task.request?.map fun request =>
      ⟨owner entry.id, request, .waiting request.attempt entry.id⟩

/-- All requests that the sender still keeps somewhere. -/
def placed (ledger : Ledger) : List Placed :=
  place (fun _ => .entering) ledger.entering ++
  place (fun request => .queued request.attempt) ledger.queue ++
  place (fun request => .calling request.attempt) ledger.calling.toList ++
  waiting ledger.owner (ledger.sender.timer.entries ++ ledger.sender.due) ++
  place (fun request => .due request.attempt) ledger.claimed.toList

/-- The ledger is about its sender, and the requests in it are in order, those included that are
just on their way from one place to another. -/
structure Sound (maxRetries : Nat) (moving : List Placed) (ledger : Ledger) : Prop where
  entering : ledger.entering.map Prod.snd = ledger.sender.entering
  unsent : ∀ item ∈ ledger.entering, item.2.attempt = 0
  queue : ledger.queue.map Prod.snd = ledger.sender.channel.queue
  calling : ledger.calling.map Prod.snd = ledger.sender.inFlight?
  claimed : ledger.claimed.map Prod.snd = ledger.sender.claimed.bind Job.request?
  consistent : ledger.sender.timer.Consistent ledger.sender.due
  limit : ledger.sender.channel.maxRetries = maxRetries
  flushed : ledger.sender.channel.flushed = (ledger.log.map Prod.snd).count .acknowledged
  dropped : ledger.sender.channel.dropped = (ledger.log.map Prod.snd).count .dropped
  orderly : Orderly maxRetries ledger.sender.assigned ledger.log (moving ++ ledger.placed)

section Places

variable (standing : Request → Standing) (item : Nat × Request) (items more : List (Nat × Request))

theorem place_nil : place standing [] = [] := rfl

theorem place_cons : place standing (item :: items) =
    ⟨item.1, item.2, standing item.2⟩ :: place standing items := rfl

theorem place_append : place standing (items ++ more) =
    place standing items ++ place standing more := List.map_append

theorem map_place :
    (place standing items).map (fun place => (place.number, Happening.dropped)) =
      items.map fun item => (item.1, .dropped) := by
  rw [place, List.map_map]
  rfl

/-- The timeouts on the wheel and the due ones may be told in any order. -/
theorem waiting_perm {timeouts others : List (Entry Job)} (owner : Nat → Nat)
    (places : timeouts.Perm others) : (waiting owner timeouts).Perm (waiting owner others) :=
  places.filterMap _

theorem waiting_append (owner : Nat → Nat) (timeouts others : List (Entry Job)) :
    waiting owner (timeouts ++ others) = waiting owner timeouts ++ waiting owner others :=
  List.filterMap_append

theorem waiting_expire (owner : Nat → Nat) (timer : Timer Job) (entry : Entry Job)
    (due : List (Entry Job)) :
    (waiting owner (timer.entries ++ entry :: due)).Perm
      (waiting owner ((timer.expire entry.id).2.entries ++ due) ++ waiting owner [entry]) := by
  have settles : Timer.Settles timer [entry.id] (timer.expire entry.id).2 :=
    Timer.settle_settles timer entry.id (by decide)
  rw [settles.entries, ← waiting_append]
  exact waiting_perm owner (List.perm_middle.trans (List.perm_append_singleton _ _).symm)

/-- A timeout that is scheduled for a request gets it as its owner. Those that wait already keep
theirs, since none of them has the new id. -/
theorem waiting_schedule {timer after : Timer Job} {due : List (Entry Job)} {delay : Nanos}
    {request : Request} {id : Nat} (owner : Nat → Nat) (number : Nat)
    (consistent : timer.Consistent due)
    (scheduled : timer.schedule delay (.retry request) = .ok (id, after)) :
    (waiting (Function.update owner id number) (after.entries ++ due)).Perm
      (⟨number, request, .waiting request.attempt id⟩ ::
        waiting owner (timer.entries ++ due)) := by
  rcases Timer.schedule_eq_ok consistent.wheel scheduled with ⟨rfl, -, -, -, -, deadline, new⟩
  have kept : waiting (Function.update owner timer.statuses.size number) (timer.entries ++ due) =
      waiting owner (timer.entries ++ due) := by
    refine List.filterMap_congr fun entry member => ?_
    rw [Function.update_of_ne (Nat.ne_of_lt (consistent.known entry member))]
  have places := waiting_perm (Function.update owner timer.statuses.size number)
    (new.append_right due)
  rw [← kept]
  simpa [waiting, Job.request?] using places

end Places

end Ledger

end Telemetry.Delivery
