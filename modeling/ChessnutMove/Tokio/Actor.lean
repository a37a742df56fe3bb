import ChessnutMove.Library.StepMachine
import ChessnutMove.Tokio.Types

set_option autoImplicit false

/-! # The board actor

`run_actor` of `transport/tokio.rs` as a step machine. `Phase` is the point the task has reached:
an `await`, or a place between two of them where a loop goes round (the top of the main loop, the
loops that reject what waits) or a stage begins. The other fields of `Actor` are the local
variables of `run_actor`, the channels it holds, and the clock.

What the task does not decide is in the schedule: when handles reserve places in the request
channel, which requests they enqueue, and when handles are cloned or dropped, how time passes, how
every transport call ends, and which ready branch `select!` takes. A branch can be taken whenever it
is ready: a waiting message or the last handle gone, any return of `next_notification`, an active
query whose deadline the clock has reached. The notification future of an unfinished `select!` is
dropped without consuming anything.

`log` records what happened, in order and with the clock reading; no step reads it. -/

namespace ChessnutMove.Tokio

/-! ## The record of a run -/

inductive Event (ε : Type)
  /-- A message entered the request channel while the task took messages out of it. -/
  | enqueued (message : Message)
  /-- The actor took a message out of the request channel. -/
  | received (message : Message)
  /-- A transport call started; `owner` is the request it is made for, if any. -/
  | called (call : TransportCall) (owner : Option Message)
  | returned (call : TransportCall) (owner : Option Message) (result : Except ε Unit)
  /-- `next_notification` was called by entering `select!`. -/
  | nextNotification
  | notified (result : Except ε Notification)
  /-- A value was sent on a oneshot. -/
  | replied (reply : ReplyId) (value : Reply)
  /-- A value was sent on the broadcast channel. -/
  | published (value : Published)
  /-- A value was sent on the lifecycle watch. -/
  | lifecycle (state : LifecycleState)
  deriving DecidableEq

structure Entry (ε : Type) where
  time : Instant
  event : Event ε
  deriving DecidableEq

/-! ## Transport sequences -/

/-- Transport calls awaited one after another, each followed by `?`. -/
structure Calls where
  first : TransportCall
  rest : List TransportCall
  deriving DecidableEq

def Calls.toList (calls : Calls) : List TransportCall := calls.first :: calls.rest

/-- Performs the protocol-required startup sequence. -/
def initializeTransport : Calls where
  first := .subscribe .position
  rest := [.writeCommand .enableRealtimeUpdates, .subscribe .commandResponse]

/-- Performs ordered transport cleanup, returning at the first transport error. -/
def shutdownTransport : Calls where
  first := .unsubscribe .commandResponse
  rest := [.unsubscribe .position, .close]

/-! ## State -/

/-- The ways the task can panic: `Instant::now() + timeout` out of range, and the two assertions of
    `resolve_query`. -/
inductive Panic
  | deadlineOverflow | expectPending | unreachableVariants
  deriving DecidableEq, Repr

/-- The point the task has reached. -/
inductive Phase
  /-- In `initialize_transport`, awaiting the first of the remaining calls. -/
  | initializing (calls : Calls)
  /-- At the top of the main loop. -/
  | loopTop
  /-- In `start_query`, awaiting the write of the query's command. -/
  | startingQuery (query : QueryRequest)
  /-- In `select!`. -/
  | selecting
  /-- In the handler of `Message::Send`, awaiting the write. -/
  | sending (command : Command) (reply : ReplyId)
  /-- Past the main loop, or past a failed `initialize_transport`. -/
  | leaving
  /-- Past `lifecycle_tx.send_replace(ShuttingDown)`, before `request_rx.close()`. -/
  | closing
  /-- In the loops that answer every waiting request with `ShuttingDown`. -/
  | rejecting
  /-- In `shutdown_transport`, awaiting the first of the remaining calls. -/
  | cleaningUp (calls : Calls)
  /-- Past `shutdown_transport`. -/
  | finishing
  | returned
  | panicked (panic : Panic)
  deriving DecidableEq

/-- Messages are still taken out of the request channel; no more after the `try_recv` that finds it
    empty. -/
def Phase.receives : Phase → Bool
  | .initializing _ | .loopTop | .startingQuery _ | .selecting | .sending _ _ | .leaving | .closing
  | .rejecting => true
  | .cleaningUp _ | .finishing | .returned | .panicked _ => false

structure Actor (ε : Type) where
  phase : Phase
  pendingQuery : Option PendingQuery
  queuedQueries : List QueryRequest
  shutdownReply : Option ReplyId
  result : Except (ActorError ε) Unit
  requestRx : BoundedChannel Message
  /-- The values sent on the broadcast channel. -/
  eventTx : List Published
  lifecycle : LifecycleState
  /-- The next oneshot identity. -/
  nextReply : ReplyId
  now : Instant
  log : List (Entry ε)

/-- What the environment and the scheduler decide. -/
inductive Action (ε : Type)
  /-- A handle's `send` is given a place in the request channel. -/
  | reserve
  /-- A handle's `send` puts its message there. -/
  | enqueue (request : Request)
  | cloneHandle
  | dropHandle
  | tick (elapsed : Duration)
  /-- The task runs on from a point that is no `await`. -/
  | proceed
  /-- The awaited transport call returns. -/
  | callReturned (result : Except ε Unit)
  /-- `select!` takes the branch of `request_rx.recv()`. -/
  | receive
  /-- `select!` takes the branch of `next_notification`, which returned `result`. -/
  | notification (result : Except ε Notification)
  /-- `select!` takes the branch of `sleep_until(deadline)`. -/
  | deadlineElapsed
  deriving DecidableEq

variable {ε : Type}

namespace Actor

/-- Appends events at the current clock reading. -/
def record (s : Actor ε) (events : List (Event ε)) : Actor ε :=
  { s with log := s.log ++ events.map (⟨s.now, ·⟩) }

/-- Sends a value on a oneshot. -/
def send (s : Actor ε) (reply : ReplyId) (value : Reply) : Actor ε :=
  s.record [.replied reply value]

/-- `lifecycle_tx.send_replace`. -/
def sendReplace (s : Actor ε) (state : LifecycleState) : Actor ε :=
  { s with lifecycle := state }.record [.lifecycle state]

/-- `event_tx.send`. -/
def publish (s : Actor ε) (value : Published) : Actor ε :=
  { s with eventTx := s.eventTx ++ [value] }.record [.published value]

/-- Starts a transport call and suspends until it returns. -/
def await (s : Actor ε) (call : TransportCall) (owner : Option Message) (phase : Phase) : Actor ε :=
  { s with phase }.record [.called call owner]

/-- `break result` out of the main loop. -/
def leaveLoop (s : Actor ε) (result : Except (ActorError ε) Unit) : Actor ε :=
  { s with phase := .leaving, result }

/-- Unwinding drops every local: waiting requests get no reply, the request channel closes. -/
def unwind (s : Actor ε) (panic : Panic) : Actor ε :=
  { s with
    phase := .panicked panic
    pendingQuery := none
    queuedQueries := []
    shutdownReply := none
    requestRx := s.requestRx.close.drained }

end Actor

/-! ## Queries -/

/-- Completes this query with a handle-level error. -/
def QueryRequest.fail (query : QueryRequest) (error : HandleError) (s : Actor ε) : Actor ε :=
  s.send query.reply (.error error)

/-- Completes the active query with a handle-level error. -/
def PendingQuery.fail (query : PendingQuery) (error : HandleError) (s : Actor ε) : Actor ε :=
  query.request.fail error s

/-- Rejects a queued handle message during shutdown or actor failure. -/
def failMessage (message : Message) (error : HandleError) (s : Actor ε) : Actor ε :=
  match message with
  | .send _ reply => s.send reply (.error error)
  | .shutdown reply => s.send reply (.error error)
  | .query query => query.fail error s
  | .subscribeEvents reply => s.send reply (.error error)

/-- The pattern of `resolve_query`: the event has the response type the active query expects. -/
def matchesQuery (pending : Option PendingQuery) (event : BoardEvent) : Bool :=
  match pending.map PendingQuery.request, event with
  | some (.battery _), .batteryStatus _ => true
  | some (.pieces _), .pieceStatus _ => true
  | _, _ => false

namespace Actor

/-- Completes the active query when an event has its expected response type. -/
def resolveQuery (s : Actor ε) (event : BoardEvent) : Except Panic (Actor ε) :=
  if matchesQuery s.pendingQuery event then
    match s.pendingQuery with
    | none => .error .expectPending
    | some query =>
        let s := { s with pendingQuery := none }
        match query.request, event with
        | .battery reply, .batteryStatus status => .ok (s.send reply (.ok (.batteryStatus status)))
        | .pieces reply, .pieceStatus status => .ok (s.send reply (.ok (.pieceStatus status)))
        | _, _ => .error .unreachableVariants
  else
    .ok s

/-- `start_query` up to its `await`. -/
def startQuery (s : Actor ε) (query : QueryRequest) : Actor ε :=
  s.await (.writeCommand query.command) (some (.query query)) (.startingQuery query)

/-- `start_query` after its `await`, and what its two call sites do with the result. -/
def startQueryReturned (config : ActorConfig) (s : Actor ε) (query : QueryRequest)
    (result : Except ε Unit) : Actor ε :=
  let s := s.record [.returned (.writeCommand query.command) (some (.query query)) result]
  match result with
  | .error error => (query.fail .transportFailed s).leaveLoop (.error (.transport error))
  | .ok () =>
      match s.now.checkedAdd config.requestTimeout with
      | none => s.unwind .deadlineOverflow
      | some deadline =>
          { s with phase := .loopTop, pendingQuery := some { request := query, deadline } }

/-! ## The main loop -/

/-- The top of the loop: start the oldest queued query if none is active, else enter `select!`. -/
def loopTop (s : Actor ε) : Actor ε :=
  match s.pendingQuery, s.queuedQueries with
  | none, query :: rest => { s with queuedQueries := rest }.startQuery query
  | _, _ => { s with phase := .selecting }.record [.nextNotification]

/-- The handler of `Message::Send` after its `await`. -/
def sendReturned (s : Actor ε) (command : Command) (reply : ReplyId) (result : Except ε Unit) :
    Actor ε :=
  let s := s.record [.returned (.writeCommand command) (some (.send command reply)) result]
  match result with
  | .ok () => { s.send reply (.ok .done) with phase := .loopTop }
  | .error error =>
      (s.send reply (.error .transportFailed)).leaveLoop (.error (.transport error))

/-- The handlers of a received message. -/
def handleMessage (config : ActorConfig) (s : Actor ε) (message : Message) : Actor ε :=
  match message with
  | .send command reply =>
      s.await (.writeCommand command) (some (.send command reply)) (.sending command reply)
  | .query query =>
      if s.pendingQuery.isNone ∧ s.queuedQueries.isEmpty then
        s.startQuery query
      else if s.queuedQueries.length < config.queryCapacity then
        { s with phase := .loopTop, queuedQueries := s.queuedQueries ++ [query] }
      else
        { query.fail .queryQueueFull s with phase := .loopTop }
  | .subscribeEvents reply =>
      { s.send reply (.ok (.stream { subscribedAt := s.eventTx.length })) with phase := .loopTop }
  | .shutdown reply => { s with shutdownReply := some reply }.leaveLoop (.ok ())

/-- The branch of `request_rx.recv()`; `none` while nothing waits and a handle is left. -/
def receive (config : ActorConfig) (s : Actor ε) : Option (Actor ε) :=
  match s.requestRx.queue with
  | message :: _ =>
      some (handleMessage config
        ({ s with requestRx := s.requestRx.pop }.record [.received message]) message)
  | [] => if s.requestRx.senders = 0 then some (s.leaveLoop (.ok ())) else none

/-- The branch of `next_notification`. -/
def handleNotification (s : Actor ε) (result : Except ε Notification) : Actor ε :=
  let s := s.record [.notified result]
  match result with
  | .error error => s.leaveLoop (.error (.transport error))
  | .ok notification =>
      match decodeNotification notification with
      | .ok (.event event) =>
          match s.resolveQuery event with
          | .ok s => { s.publish (.ok event) with phase := .loopTop }
          | .error panic => s.unwind panic
      | .ok .realtimeUpdatesAcknowledged => { s with phase := .loopTop }
      | .error error => { s.publish (.error error) with phase := .loopTop }

/-- The branch of `sleep_until(deadline)`, which is disabled while no query is active. Tokio's timer
    is assumed to accept every `Instant` as a deadline. -/
def deadlineElapsed (s : Actor ε) : Option (Actor ε) :=
  match s.pendingQuery with
  | some query =>
      if query.deadline.nanos ≤ s.now.nanos then
        some { query.fail .requestTimedOut { s with pendingQuery := none } with phase := .loopTop }
      else none
  | none => none

/-! ## Leaving -/

/-- What follows the main loop. Handles that see it turn requests away, but the channel is open. -/
def shutDown (s : Actor ε) : Actor ε := { s.sendReplace .shuttingDown with phase := .closing }

/-- `request_rx.close()`. -/
def closeRequests (s : Actor ε) : Actor ε :=
  { s with phase := .rejecting, requestRx := s.requestRx.close }

/-- One round of rejecting: the active query, then the queued ones, then the messages `try_recv`
    finds in the closed channel. When it finds none, `shutdown_transport` starts, although a place
    reserved before the channel closed may not have been used yet. -/
def rejectNext (s : Actor ε) : Actor ε :=
  match s.pendingQuery, s.queuedQueries, s.requestRx.queue with
  | some query, _, _ => query.fail .shuttingDown { s with pendingQuery := none }
  | none, query :: rest, _ => query.fail .shuttingDown { s with queuedQueries := rest }
  | none, [], message :: _ =>
      failMessage message .shuttingDown
        ({ s with requestRx := s.requestRx.pop }.record [.received message])
  | none, [], [] => s.await shutdownTransport.first none (.cleaningUp shutdownTransport)

/-- What follows `shutdown_transport`: its result counts if the actor had not failed before. -/
def cleanedUp (s : Actor ε) (cleanupResult : Except ε Unit) : Actor ε :=
  { s with
    phase := .finishing
    result := if s.result.isOk then cleanupResult.mapError .transport else s.result }

/-- The final lifecycle state and the reply to `shutdown`. -/
def finish (s : Actor ε) : Actor ε :=
  let s := s.sendReplace (if s.result.isOk then .stopped else .faulted)
  let s := match s.shutdownReply with
    | some reply =>
        { s with shutdownReply := none }.send reply
          (if s.result.isOk then .ok .done else .error .transportFailed)
    | none => s
  { s with phase := .returned }

/-! ## Steps -/

/-- The task runs on from a point that is no `await`. -/
def proceed (s : Actor ε) : Option (Actor ε) :=
  match s.phase with
  | .loopTop => some s.loopTop
  | .leaving => some s.shutDown
  | .closing => some s.closeRequests
  | .rejecting => some s.rejectNext
  | .finishing => some s.finish
  | _ => none

/-- The awaited transport call returns. -/
def callReturned (config : ActorConfig) (s : Actor ε) (result : Except ε Unit) :
    Option (Actor ε) :=
  match s.phase with
  | .initializing calls =>
      let s := s.record [.returned calls.first none result]
      match result, calls.rest with
      | .error error, _ => some (s.leaveLoop (.error (.transport error)))
      | .ok (), next :: rest => some (s.await next none (.initializing ⟨next, rest⟩))
      | .ok (), [] => some { s.sendReplace .running with phase := .loopTop }
  | .startingQuery query => some (startQueryReturned config s query result)
  | .sending command reply => some (s.sendReturned command reply result)
  | .cleaningUp calls =>
      let s := s.record [.returned calls.first none result]
      match result, calls.rest with
      | .error error, _ => some (s.cleanedUp (.error error))
      | .ok (), next :: rest => some (s.await next none (.cleaningUp ⟨next, rest⟩))
      | .ok (), [] => some (s.cleanedUp (.ok ()))
  | _ => none

/-- A handle's `send` is given a place in the request channel. -/
def reserve (s : Actor ε) : Option (Actor ε) :=
  if h : s.requestRx.CanReserve then some { s with requestRx := s.requestRx.reserve h } else none

/-- A handle's `send` puts its message in the reserved place, while the task looks there. A message
    that comes later is no concern of the task; it is a step of the calling side only. -/
def enqueue (s : Actor ε) (request : Request) : Option (Actor ε) :=
  let message := request.message s.nextReply
  if h : s.phase.receives = true ∧ s.requestRx.CanPush then
    some ({ s with requestRx := s.requestRx.push message h.2, nextReply := s.nextReply + 1 }.record
      [.enqueued message])
  else none

/-- One step of the task or of its environment. -/
def step (config : ActorConfig) (s : Actor ε) : Action ε → Option (Actor ε)
  | .reserve => s.reserve
  | .enqueue request => s.enqueue request
  | .cloneHandle =>
      if 0 < s.requestRx.senders then some { s with requestRx := s.requestRx.cloneSender } else none
  | .dropHandle =>
      if 0 < s.requestRx.senders then some { s with requestRx := s.requestRx.dropSender } else none
  | .tick elapsed => (s.now.checkedAdd elapsed).map fun now => { s with now }
  | .proceed => s.proceed
  | .callReturned result => s.callReturned config result
  | .receive => if s.phase = .selecting then s.receive config else none
  | .notification result =>
      if s.phase = .selecting then some (s.handleNotification result) else none
  | .deadlineElapsed => if s.phase = .selecting then s.deadlineElapsed else none

/-- `run_actor` as `spawn` starts it at a clock reading. -/
def runActor (config : ActorConfig) (now : Instant) : Actor ε where
  phase := .initializing initializeTransport
  pendingQuery := none
  queuedQueries := []
  shutdownReply := none
  result := .ok ()
  requestRx := .new config.commandCapacity
  eventTx := []
  lifecycle := .starting
  nextReply := 0
  now
  log := [⟨now, .lifecycle .starting⟩, ⟨now, .called initializeTransport.first none⟩]

/-- The initial states, one for every clock reading at which the task can start. -/
def Init (config : ActorConfig) (s : Actor ε) : Prop := ∃ now, s = runActor config now

/-- The states of the actor in every run. -/
def Reachable (config : ActorConfig) (s : Actor ε) : Prop :=
  StepMachine.Reachable (Init config) (step config) s

/-- The state a schedule leads to when the task starts at `now`. -/
def runFrom (config : ActorConfig) (now : Instant) (schedule : List (Action ε)) :
    Option (Actor ε) :=
  StepMachine.run (step config) (runActor config now) schedule

theorem Reachable.of_runFrom {config : ActorConfig} {now : Instant} {schedule : List (Action ε)}
    {s : Actor ε} (h : runFrom config now schedule = some s) : Reachable config s :=
  ⟨runActor config now, schedule, ⟨now, rfl⟩, h⟩

/-- What happened, without the clock readings. -/
def events (s : Actor ε) : List (Event ε) := s.log.map Entry.event

/-- The run is over: `run_actor` returned or panicked. -/
def Ended (s : Actor ε) : Prop := s.phase = .returned ∨ ∃ panic, s.phase = .panicked panic

end Actor

end ChessnutMove.Tokio
