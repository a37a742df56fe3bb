import ChessnutMove.Library.BroadcastLog
import ChessnutMove.Tokio.Spawn

set_option autoImplicit false

/-! # Handles, event streams and the task

The whole of `transport/tokio.rs` as one machine: the actor, the `BoardTask` that can cancel it, the
calls of `BoardHandle` methods that are under way, and the event streams that subscribers read. A
call goes through four points at which anything else can happen in between: the lifecycle check and
the `send` of `send_message`, which first waits for a place in the request channel and then puts the
message there, and the `await` of `receive_reply`.

The actor is the machine of `run_actor`, except that its requests come from calls. A oneshot is
answered by what the actor sent on it, and dropped once no place of the actor holds it any more. A
place taken before the channel closed can still be used after it, and even after the task looked
there for the last time: a message that comes too late is dropped with the channel's receiver, and
one that comes after that stays in the channel for as long as a handle does. -/

namespace ChessnutMove.Tokio

variable {ε : Type}

/-! ## Calls -/

/-- How far a `BoardHandle` method has come. -/
inductive Stage
  /-- Before the lifecycle check of `send_message`. -/
  | called
  /-- Awaiting `request_tx.send(message)`. -/
  | sending
  /-- `send` was given a place and has not put the message there; no `await` is in between. -/
  | reserved
  /-- In `receive_reply`, awaiting the oneshot of a message that the task can receive. -/
  | awaiting (reply : ReplyId)
  /-- In `receive_reply`; the message entered the channel after the task's last look there. -/
  | late
  /-- In `receive_reply`; the message entered the channel after the task was gone, so the oneshot in
      it is neither used nor dropped while the call borrows its handle. -/
  | stranded
  /-- Returned; `reply` is the oneshot of a message that the task could receive. -/
  | completed (reply : Option ReplyId) (result : Reply)
  /-- The caller dropped the future. -/
  | dropped (reply : Option ReplyId)
  deriving DecidableEq

/-- The oneshot of a message that the task could receive. -/
def Stage.reply : Stage → Option ReplyId
  | .called | .sending | .reserved | .late | .stranded => none
  | .awaiting reply => some reply
  | .completed reply _ | .dropped reply => reply

/-- The method has neither returned nor been dropped. -/
def Stage.isLive : Stage → Bool
  | .called | .sending | .reserved | .awaiting _ | .late | .stranded => true
  | .completed _ _ | .dropped _ => false

/-- The method can be dropped: it has not started, or it is at an `await`. -/
def Stage.canDrop (stage : Stage) : Bool := stage.isLive && stage ≠ .reserved

/-- A call of a `BoardHandle` method. -/
structure Call where
  request : Request
  stage : Stage
  deriving DecidableEq

/-! ## Event streams -/

/-- Reports a recoverable or terminal condition while consuming an `EventStream`. -/
inductive EventStreamError
  | lagged (missed : Nat)
  | decode (error : DecodeNotificationError)
  | closed
  deriving DecidableEq

/-- What `EventStream::poll_next` makes of an item of the broadcast stream. -/
def EventStream.pollNext : BroadcastLog.Received Published →
    Option (Except EventStreamError BoardEvent)
  | .value (.ok event) => some (.ok event)
  | .value (.error error) => some (.error (.decode error))
  | .lagged missed => some (.error (.lagged missed))
  | .closed => none

/-- `EventStream::recv`. -/
def EventStream.recv (item : BroadcastLog.Received Published) :
    Except EventStreamError BoardEvent :=
  (EventStream.pollNext item).getD (.error .closed)

/-- An event stream in the hands of a subscriber. -/
structure Reader extends EventStream where
  /-- The position of the next value. -/
  next : Nat
  /-- What the broadcast channel has handed over, oldest first. -/
  items : List (BroadcastLog.Received Published)
  deriving DecidableEq

/-- `EventStream::new`. -/
def Reader.new (stream : EventStream) : Reader :=
  { stream with next := stream.subscribedAt, items := [] }

/-- What the calls of `recv` returned, oldest first. -/
def Reader.results (reader : Reader) : List (Except EventStreamError BoardEvent) :=
  reader.items.map EventStream.recv

/-- The event streams that a returned value hands to the caller. -/
def Reply.opened : Reply → List Reader
  | .ok (.stream stream) => [Reader.new stream]
  | _ => []

/-! ## The machine -/

/-- Why awaiting a `BoardTask` fails. -/
inductive JoinError
  | cancelled | panicked
  deriving DecidableEq, Repr

structure Runtime (ε : Type) where
  actor : Actor ε
  /-- `BoardTask::abort` was called. -/
  abortRequested : Bool
  /-- The task was cancelled: everything it owned is dropped. -/
  cancelled : Bool
  /-- How many values the broadcast channel keeps; at least the configured capacity. -/
  retained : Nat
  calls : List Call
  streams : List Reader

inductive RuntimeAction (ε : Type)
  /-- A step of the task, the clock, or a handle that is cloned or dropped. -/
  | actor (action : Action ε)
  /-- A handle method is called. -/
  | call (request : Request)
  /-- The lifecycle check of `send_message`. -/
  | sendMessage (i : Nat)
  /-- The `send` that `send_message` awaits is given a place, or finds the channel closed. -/
  | reserve (i : Nat)
  /-- It puts the message in its place and returns. -/
  | sendReturned (i : Nat)
  /-- The oneshot that `receive_reply` awaits is ready or dropped. -/
  | receiveReply (i : Nat)
  /-- The future of a call is dropped. -/
  | dropCall (i : Nat)
  /-- `recv` returns. -/
  | recv (j : Nat)
  | abort
  /-- The runtime drops the task at an `await`. -/
  | cancel
  deriving DecidableEq

/-- The point is an `await`. -/
def Phase.isAwait : Phase → Bool
  | .initializing _ | .startingQuery _ | .selecting | .sending _ _ | .cleaningUp _ => true
  | .loopTop | .leaving | .closing | .rejecting | .finishing | .returned | .panicked _ => false

/-- The request whose write the task is suspended at. -/
def Phase.writes : Phase → Option ReplyId
  | .startingQuery query => some query.reply
  | .sending _ reply => some reply
  | _ => none

namespace Actor

/-- The oneshot senders that the task owns. -/
def replySenders (s : Actor ε) : List ReplyId :=
  s.phase.writes.toList ++ s.pendingQuery.toList.map (fun query => query.request.reply) ++
    s.shutdownReply.toList ++ s.queuedQueries.map QueryRequest.reply ++
      s.requestRx.queue.map Message.reply

/-- The value that was sent on a oneshot. -/
def sentOn (s : Actor ε) (reply : ReplyId) : Option Reply :=
  s.events.findSome? fun event =>
    match event with
    | .replied reply' value => if reply' = reply then some value else none
    | _ => none

/-- The run is over: `run_actor` returned or panicked. -/
def hasEnded (s : Actor ε) : Bool :=
  match s.phase with
  | .returned | .panicked _ => true
  | _ => false

end Actor

namespace Runtime

/-- The task is gone. -/
def isOver (s : Runtime ε) : Bool := s.cancelled || s.actor.hasEnded

/-- The receiver of the request channel is closed or dropped. -/
def requestClosed (s : Runtime ε) : Bool := s.cancelled || s.actor.requestRx.closed

/-- The broadcast channel; it is closed when its sender is dropped with the task. -/
def eventLog (s : Runtime ε) : BroadcastLog Published :=
  let log := s.actor.eventTx.foldl .send (.new s.retained)
  if s.isOver then log.close else log

/-- What awaiting the `BoardTask` gives, once it gives anything. -/
def join (s : Runtime ε) : Option (Except JoinError (Except (ActorError ε) Unit)) :=
  if s.cancelled then some (.error .cancelled)
  else
    match s.actor.phase with
    | .returned => some (.ok s.actor.result)
    | .panicked _ => some (.error .panicked)
    | _ => none

/-- `BoardTask::is_finished`. -/
def isFinished (s : Runtime ε) : Bool := s.join.isSome

/-- A call borrows a handle until it is over. -/
def isBorrowed (s : Runtime ε) : Bool := s.calls.any fun call => call.stage.isLive

/-- Requests come from calls, a cancelled task takes no step, and the last handle cannot be dropped
    while a call borrows it. -/
def allows (s : Runtime ε) : Action ε → Bool
  | .reserve | .enqueue _ => false
  | .cloneHandle | .tick _ => true
  | .dropHandle => !s.isBorrowed || decide (1 < s.actor.requestRx.senders)
  | .proceed | .callReturned _ | .receive | .notification _ | .deadlineElapsed => !s.cancelled

def setStage (s : Runtime ε) (i : Nat) (request : Request) (stage : Stage) : Runtime ε :=
  { s with calls := s.calls.set i ⟨request, stage⟩ }

/-- A call returns; `subscribe_events` hands an event stream to the caller. -/
def complete (s : Runtime ε) (i : Nat) (request : Request) (reply : Option ReplyId)
    (result : Reply) : Runtime ε :=
  { s.setStage i request (.completed reply result) with streams := s.streams ++ result.opened }

/-- `send_message` up to its `await`. -/
def sendMessage (s : Runtime ε) (i : Nat) (request : Request) : Runtime ε :=
  match s.actor.lifecycle with
  | .starting | .running => s.setStage i request .sending
  | .shuttingDown => s.complete i request none (.error .shuttingDown)
  | .stopped | .faulted => s.complete i request none (.error .actorStopped)

/-- The `send` of `send_message` up to its place in the channel; `none` while the channel is open
    and full. -/
def reserve (s : Runtime ε) (i : Nat) (request : Request) : Option (Runtime ε) :=
  if s.requestClosed then some (s.complete i request none (.error .actorStopped))
  else s.actor.reserve.map fun actor => { s with actor }.setStage i request .reserved

/-- The rest of the `send` of `send_message`, whatever has become of the channel meanwhile. -/
def sendReturned (s : Runtime ε) (i : Nat) (request : Request) : Option (Runtime ε) :=
  if s.isOver then some (s.setStage i request .stranded)
  else if s.actor.phase.receives then
    (s.actor.enqueue request).map fun actor =>
      { s with actor }.setStage i request (.awaiting s.actor.nextReply)
  else some (s.setStage i request .late)

/-- `receive_reply`; `none` while the actor still owns the sender and has sent nothing. -/
def receiveReply (s : Runtime ε) (i : Nat) (request : Request) (reply : ReplyId) :
    Option (Runtime ε) :=
  match s.actor.sentOn reply with
  | some value => some (s.complete i request (some reply) value)
  | none =>
      if s.cancelled ∨ reply ∉ s.actor.replySenders then
        some (s.complete i request (some reply) (.error .actorStopped))
      else none

/-- `receive_reply` for a message that came too late; it is dropped when the task is gone. -/
def receiveDropped (s : Runtime ε) (i : Nat) (request : Request) : Option (Runtime ε) :=
  if s.isOver then some (s.complete i request none (.error .actorStopped)) else none

/-- One step of the task, a caller or a subscriber. -/
def step (config : ActorConfig) (s : Runtime ε) : RuntimeAction ε → Option (Runtime ε)
  | .actor action =>
      if s.allows action then (Actor.step config s.actor action).map fun actor => { s with actor }
      else none
  | .call request =>
      if 0 < s.actor.requestRx.senders then some { s with calls := s.calls ++ [⟨request, .called⟩] }
      else none
  | .sendMessage i =>
      match s.calls[i]? with
      | some ⟨request, .called⟩ => some (s.sendMessage i request)
      | _ => none
  | .reserve i =>
      match s.calls[i]? with
      | some ⟨request, .sending⟩ => s.reserve i request
      | _ => none
  | .sendReturned i =>
      match s.calls[i]? with
      | some ⟨request, .reserved⟩ => s.sendReturned i request
      | _ => none
  | .receiveReply i =>
      match s.calls[i]? with
      | some ⟨request, .awaiting reply⟩ => s.receiveReply i request reply
      | some ⟨request, .late⟩ => s.receiveDropped i request
      | _ => none
  | .dropCall i =>
      match s.calls[i]? with
      | some call =>
          if call.stage.canDrop then
            some (s.setStage i call.request (.dropped call.stage.reply))
          else none
      | none => none
  | .recv j =>
      match s.streams[j]? with
      | some reader =>
          (s.eventLog.recv reader.next).map fun read =>
            { s with
              streams :=
                s.streams.set j { reader with next := read.2, items := reader.items ++ [read.1] } }
      | none => none
  | .abort => some { s with abortRequested := true }
  | .cancel =>
      if s.abortRequested && s.actor.phase.isAwait && !s.cancelled then
        some { s with cancelled := true }
      else none

/-- What `spawn` leaves behind when it succeeds: one handle, no call and no stream. -/
def start (config : ActorConfig) (retained : Nat) (now : Instant) : Runtime ε where
  actor := Actor.runActor config now
  abortRequested := false
  cancelled := false
  retained
  calls := []
  streams := []

theorem commandCapacity_pos {channels : Constructors} {config : ActorConfig}
    (h : spawn channels config = .started) : 0 < config.commandCapacity := by
  unfold spawn at h
  split at h
  · cases h
  · next hcapacity => exact Nat.pos_of_ne_zero hcapacity

/-- The initial states, one for every successful `spawn`. -/
def Init (config : ActorConfig) (s : Runtime ε) : Prop :=
  ∃ channels retained now, spawn channels config = .started ∧ config.eventCapacity ≤ retained ∧
    s = start config retained now

/-- The states of the system in every run. -/
def Reachable (config : ActorConfig) (s : Runtime ε) : Prop :=
  StepMachine.Reachable (Init config) (step config) s

/-- The state a schedule leads to after a `spawn` at `now`. -/
def runFrom (config : ActorConfig) (retained : Nat) (now : Instant)
    (schedule : List (RuntimeAction ε)) : Option (Runtime ε) :=
  StepMachine.run (step config) (start config retained now) schedule

theorem Reachable.of_runFrom {config : ActorConfig} {retained : Nat} {now : Instant}
    {schedule : List (RuntimeAction ε)} {s : Runtime ε} (channels : Constructors)
    (hspawn : spawn channels config = .started) (hretained : config.eventCapacity ≤ retained)
    (h : runFrom config retained now schedule = some s) : Reachable config s :=
  ⟨start config retained now, schedule, ⟨channels, retained, now, hspawn, hretained, rfl⟩, h⟩

/-! ## What a step does -/

section Fields

variable (s : Runtime ε) (i : Nat) (request : Request) (stage : Stage) (reply : Option ReplyId)
  (result : Reply)

@[simp] theorem actor_setStage : (s.setStage i request stage).actor = s.actor := rfl
@[simp] theorem cancelled_setStage : (s.setStage i request stage).cancelled = s.cancelled := rfl
@[simp] theorem retained_setStage : (s.setStage i request stage).retained = s.retained := rfl
@[simp] theorem streams_setStage : (s.setStage i request stage).streams = s.streams := rfl
@[simp] theorem calls_setStage :
    (s.setStage i request stage).calls = s.calls.set i ⟨request, stage⟩ := rfl

@[simp] theorem actor_complete : (s.complete i request reply result).actor = s.actor := rfl
@[simp] theorem cancelled_complete :
    (s.complete i request reply result).cancelled = s.cancelled := rfl
@[simp] theorem retained_complete : (s.complete i request reply result).retained = s.retained := rfl
@[simp] theorem streams_complete :
    (s.complete i request reply result).streams = s.streams ++ result.opened := rfl
@[simp] theorem calls_complete :
    (s.complete i request reply result).calls
      = s.calls.set i ⟨request, .completed reply result⟩ := rfl

end Fields

section Steps

variable {config : ActorConfig} {s s' : Runtime ε} {action : RuntimeAction ε}

/-- The transitions of the system, by the action that takes them. -/
inductive Transition (config : ActorConfig) (s : Runtime ε) : RuntimeAction ε → Runtime ε → Prop
  | actor (action : Action ε) (actor : Actor ε) (hallows : s.allows action = true)
      (h : Actor.Transition config s.actor action actor) :
      Transition config s (.actor action) { s with actor }
  | call (request : Request) (hsenders : 0 < s.actor.requestRx.senders) :
      Transition config s (.call request) { s with calls := s.calls ++ [⟨request, .called⟩] }
  -- `send_message`
  | admitted (i : Nat) (request : Request) (hcall : s.calls[i]? = some ⟨request, .called⟩)
      (hlifecycle : s.actor.lifecycle = .starting ∨ s.actor.lifecycle = .running) :
      Transition config s (.sendMessage i) (s.setStage i request .sending)
  | turnedAway (i : Nat) (request : Request) (error : HandleError)
      (hcall : s.calls[i]? = some ⟨request, .called⟩)
      (hlifecycle : s.actor.lifecycle = .shuttingDown ∧ error = .shuttingDown ∨
        (s.actor.lifecycle = .stopped ∨ s.actor.lifecycle = .faulted) ∧ error = .actorStopped) :
      Transition config s (.sendMessage i)
        (s.complete i request none (.error error))
  | unsent (i : Nat) (request : Request) (hcall : s.calls[i]? = some ⟨request, .sending⟩)
      (hclosed : s.requestClosed = true) :
      Transition config s (.reserve i)
        (s.complete i request none (.error .actorStopped))
  | reserved (i : Nat) (request : Request) (actor : Actor ε)
      (hcall : s.calls[i]? = some ⟨request, .sending⟩) (hopen : s.requestClosed = false)
      (h : Actor.Transition config s.actor .reserve actor) :
      Transition config s (.reserve i) ({ s with actor }.setStage i request .reserved)
  | enqueued (i : Nat) (request : Request) (actor : Actor ε)
      (hcall : s.calls[i]? = some ⟨request, .reserved⟩) (hlives : s.isOver = false)
      (h : Actor.Transition config s.actor (.enqueue request) actor) :
      Transition config s (.sendReturned i)
        ({ s with actor }.setStage i request (.awaiting s.actor.nextReply))
  | late (i : Nat) (request : Request) (hcall : s.calls[i]? = some ⟨request, .reserved⟩)
      (hlives : s.isOver = false) (hreceives : s.actor.phase.receives = false) :
      Transition config s (.sendReturned i) (s.setStage i request .late)
  | stranded (i : Nat) (request : Request) (hcall : s.calls[i]? = some ⟨request, .reserved⟩)
      (hover : s.isOver = true) :
      Transition config s (.sendReturned i) (s.setStage i request .stranded)
  -- `receive_reply`
  | answered (i : Nat) (request : Request) (reply : ReplyId) (value : Reply)
      (hcall : s.calls[i]? = some ⟨request, .awaiting reply⟩)
      (hsent : s.actor.sentOn reply = some value) :
      Transition config s (.receiveReply i) (s.complete i request (some reply) value)
  | abandoned (i : Nat) (request : Request) (reply : ReplyId)
      (hcall : s.calls[i]? = some ⟨request, .awaiting reply⟩)
      (hsent : s.actor.sentOn reply = none)
      (hdropped : s.cancelled = true ∨ reply ∉ s.actor.replySenders) :
      Transition config s (.receiveReply i)
        (s.complete i request (some reply) (.error .actorStopped))
  | lost (i : Nat) (request : Request) (hcall : s.calls[i]? = some ⟨request, .late⟩)
      (hover : s.isOver = true) :
      Transition config s (.receiveReply i) (s.complete i request none (.error .actorStopped))
  | dropCall (i : Nat) (call : Call) (hcall : s.calls[i]? = some call)
      (hdrop : call.stage.canDrop = true) :
      Transition config s (.dropCall i) (s.setStage i call.request (.dropped call.stage.reply))
  -- `EventStream::recv`
  | recv (j : Nat) (reader : Reader) (item : BroadcastLog.Received Published) (next : Nat)
      (hreader : s.streams[j]? = some reader)
      (h : s.eventLog.recv reader.next = some (item, next)) :
      Transition config s (.recv j)
        { s with
          streams := s.streams.set j { reader with next, items := reader.items ++ [item] } }
  -- `BoardTask::abort`
  | abort : Transition config s .abort { s with abortRequested := true }
  | cancel (hrequested : s.abortRequested = true) (hawait : s.actor.phase.isAwait = true)
      (hcancelled : s.cancelled = false) :
      Transition config s .cancel { s with cancelled := true }

theorem transition_of_sendMessage {i : Nat} {request : Request}
    (hcall : s.calls[i]? = some ⟨request, .called⟩) :
    Transition config s (.sendMessage i) (s.sendMessage i request) := by
  unfold sendMessage
  split
  · next hlifecycle => exact .admitted i request hcall (.inl hlifecycle)
  · next hlifecycle => exact .admitted i request hcall (.inr hlifecycle)
  · next hlifecycle => exact .turnedAway i request _ hcall (.inl ⟨hlifecycle, rfl⟩)
  · next hlifecycle => exact .turnedAway i request _ hcall (.inr ⟨.inl hlifecycle, rfl⟩)
  · next hlifecycle => exact .turnedAway i request _ hcall (.inr ⟨.inr hlifecycle, rfl⟩)

theorem transition_of_reserve {i : Nat} {request : Request}
    (hcall : s.calls[i]? = some ⟨request, .sending⟩) (h : s.reserve i request = some s') :
    Transition config s (.reserve i) s' := by
  unfold reserve at h
  split at h
  · next hclosed => exact Option.some.inj h ▸ .unsent i request hcall hclosed
  · next hopen =>
      obtain ⟨actor, hactor, rfl⟩ := Option.map_eq_some_iff.1 h
      exact .reserved i request actor hcall (Bool.eq_false_of_not_eq_true hopen)
        (Actor.transition_of_step hactor)

theorem transition_of_sendReturned {i : Nat} {request : Request}
    (hcall : s.calls[i]? = some ⟨request, .reserved⟩) (h : s.sendReturned i request = some s') :
    Transition config s (.sendReturned i) s' := by
  unfold sendReturned at h
  split at h
  · next hover => exact Option.some.inj h ▸ .stranded i request hcall hover
  · next hlives =>
      have hlives := Bool.eq_false_of_not_eq_true hlives
      split at h
      · obtain ⟨actor, hactor, rfl⟩ := Option.map_eq_some_iff.1 h
        exact .enqueued i request actor hcall hlives (Actor.transition_of_step hactor)
      · next hreceives =>
          exact Option.some.inj h ▸
            .late i request hcall hlives (Bool.eq_false_of_not_eq_true hreceives)

theorem transition_of_receiveReply {i : Nat} {request : Request} {reply : ReplyId}
    (hcall : s.calls[i]? = some ⟨request, .awaiting reply⟩)
    (h : s.receiveReply i request reply = some s') :
    Transition config s (.receiveReply i) s' := by
  unfold receiveReply at h
  split at h
  · next value hsent => exact Option.some.inj h ▸ .answered i request reply value hcall hsent
  · next hsent =>
      split at h
      · next hdropped => exact Option.some.inj h ▸ .abandoned i request reply hcall hsent hdropped
      · cases h

theorem transition_of_receiveDropped {i : Nat} {request : Request}
    (hcall : s.calls[i]? = some ⟨request, .late⟩) (h : s.receiveDropped i request = some s') :
    Transition config s (.receiveReply i) s' := by
  unfold receiveDropped at h
  split at h
  · next hover => exact Option.some.inj h ▸ .lost i request hcall hover
  · cases h

/-- **Inversion.** Every step of the system is one of the listed transitions. -/
theorem transition_of_step (h : step config s action = some s') :
    Transition config s action s' := by
  unfold step at h
  split at h
  · next action =>
      split at h
      · next hallows =>
          obtain ⟨actor, hactor, rfl⟩ := Option.map_eq_some_iff.1 h
          exact .actor action actor hallows (Actor.transition_of_step hactor)
      · cases h
  · next request =>
      split at h
      · next hsenders => exact Option.some.inj h ▸ .call request hsenders
      · cases h
  · next i =>
      split at h
      · next request hcall => exact Option.some.inj h ▸ transition_of_sendMessage hcall
      · cases h
  · next i =>
      split at h
      · next request hcall => exact transition_of_reserve hcall h
      · cases h
  · next i =>
      split at h
      · next request hcall => exact transition_of_sendReturned hcall h
      · cases h
  · next i =>
      split at h
      · next request reply hcall => exact transition_of_receiveReply hcall h
      · next request hcall => exact transition_of_receiveDropped hcall h
      · cases h
  · next i =>
      split at h
      · next call hcall =>
          split at h
          · next hdrop => exact Option.some.inj h ▸ .dropCall i call hcall hdrop
          · cases h
      · cases h
  · next j =>
      split at h
      · next reader hreader =>
          obtain ⟨⟨item, next⟩, hread, rfl⟩ := Option.map_eq_some_iff.1 h
          exact .recv j reader item next hreader hread
      · cases h
  · exact Option.some.inj h ▸ .abort
  · split at h
    · next hcancel =>
        rw [Bool.and_eq_true, Bool.and_eq_true, Bool.not_eq_true'] at hcancel
        exact Option.some.inj h ▸ .cancel hcancel.1.1 hcancel.1.2 hcancel.2
    · cases h

/-! ## Runs -/

theorem Reachable.next (h : Reachable config s) (hstep : step config s action = some s') :
    Reachable config s' :=
  StepMachine.Reachable.next h hstep

/-- Every run of the system is a run of the actor. -/
theorem Reachable.actor (h : Reachable config s) : Actor.Reachable config s.actor := by
  refine StepMachine.Reachable.invariant (P := fun s => Actor.Reachable config s.actor) ?_ ?_ h
  · rintro s ⟨channels, retained, now, -, -, rfl⟩
    exact .start ⟨now, rfl⟩
  · intro s action s' _ hs hst
    cases transition_of_step hst with
    | actor action actor hallows h => exact hs.next (Actor.step_of_transition h)
    | reserved i request actor hcall hopen h => exact hs.next (Actor.step_of_transition h)
    | enqueued i request actor hcall hlives h => exact hs.next (Actor.step_of_transition h)
    | _ => exact hs

/-- **The invariant rule of the system.** -/
theorem Reachable.induct {P : Runtime ε → Prop}
    (hstart : ∀ retained now, 0 < config.commandCapacity → config.eventCapacity ≤ retained →
      P (start config retained now))
    (hstep : ∀ s action s', Reachable config s → P s → Transition config s action s' → P s')
    (h : Reachable config s) : P s := by
  refine StepMachine.Reachable.invariant ?_ ?_ h
  · rintro s ⟨channels, retained, now, hspawn, hretained, rfl⟩
    exact hstart retained now (commandCapacity_pos hspawn) hretained
  · intro s action s' hreach hs hst
    exact hstep s action s' hreach hs (transition_of_step hst)

end Steps

end Runtime

end ChessnutMove.Tokio
