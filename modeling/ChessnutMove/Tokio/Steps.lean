import ChessnutMove.Tokio.Actor

set_option autoImplicit false

/-! # What one step of the actor does

`Transition` lists, once, everything a step of the machine can do: under which condition, what
becomes of the state, and which events are recorded; the steps are exactly these. Every invariant of
the actor is proved by cases on it. Two functions give its vocabulary: `observe`, what a
notification makes observable, and `answerOf`, the value of a query's response type that a
notification carries. -/

namespace ChessnutMove.Tokio

/-! ## Notifications as the actor reads them -/

/-- The value of the query's own response type that an event carries. -/
def QueryRequest.answer (query : QueryRequest) (event : BoardEvent) : Option ReplyValue :=
  match query, event with
  | .battery _, .batteryStatus status => some (.batteryStatus status)
  | .pieces _, .pieceStatus status => some (.pieceStatus status)
  | _, _ => none

/-- The value of the query's own response type that a notification carries. -/
def QueryRequest.answerOf (query : QueryRequest) (notification : Notification) :
    Option ReplyValue :=
  match decodeNotification notification with
  | .ok (.event event) => query.answer event
  | _ => none

theorem matchesQuery_some (query : PendingQuery) (event : BoardEvent) :
    matchesQuery (some query) event = (query.request.answer event).isSome := by
  obtain ⟨request, deadline⟩ := query
  cases request <;> cases event <;> rfl

theorem matchesQuery_none (event : BoardEvent) : matchesQuery none event = false := by
  cases event <;> rfl

/-- A notification that answers a query is observable. -/
theorem QueryRequest.observe_of_answerOf {query : QueryRequest} {notification : Notification}
    {value : ReplyValue} (h : query.answerOf notification = some value) :
    ∃ event, observe notification = some (.ok event) ∧ query.answer event = some value := by
  unfold QueryRequest.answerOf at h
  unfold observe
  cases hdecode : decodeNotification notification with
  | error error =>
      rw [hdecode] at h
      cases h
  | ok decoded =>
      rw [hdecode] at h
      cases decoded with
      | event event => exact ⟨event, rfl, h⟩
      | realtimeUpdatesAcknowledged => cases h

theorem QueryRequest.answerOf_ne_stream {query : QueryRequest} {notification : Notification}
    {stream : EventStream} : query.answerOf notification ≠ some (.stream stream) := by
  intro h
  obtain ⟨event, -, hanswer⟩ := observe_of_answerOf h
  cases query <;> cases event <;> cases hanswer

/-- Only a command response answers a query. -/
theorem QueryRequest.source_of_answerOf {query : QueryRequest} {notification : Notification}
    {value : ReplyValue} (h : query.answerOf notification = some value) :
    notification.source = .commandResponse := by
  obtain ⟨source, bytes⟩ := notification
  cases source with
  | commandResponse => rfl
  | position =>
      simp only [QueryRequest.answerOf, decodeNotification] at h
      cases hdecode : decodePositionNotification bytes with
      | error error =>
          rw [hdecode] at h
          cases h
      | ok position =>
          rw [hdecode] at h
          cases query <;> cases h

variable {ε : Type}

namespace Actor

/-! ## Recording -/

section Record

variable (s : Actor ε) (es es' : List (Event ε))

@[simp] theorem phase_record : (s.record es).phase = s.phase := rfl
@[simp] theorem pendingQuery_record : (s.record es).pendingQuery = s.pendingQuery := rfl
@[simp] theorem queuedQueries_record : (s.record es).queuedQueries = s.queuedQueries := rfl
@[simp] theorem shutdownReply_record : (s.record es).shutdownReply = s.shutdownReply := rfl
@[simp] theorem result_record : (s.record es).result = s.result := rfl
@[simp] theorem requestRx_record : (s.record es).requestRx = s.requestRx := rfl
@[simp] theorem eventTx_record : (s.record es).eventTx = s.eventTx := rfl
@[simp] theorem lifecycle_record : (s.record es).lifecycle = s.lifecycle := rfl
@[simp] theorem nextReply_record : (s.record es).nextReply = s.nextReply := rfl
@[simp] theorem now_record : (s.record es).now = s.now := rfl
@[simp] theorem log_record : (s.record es).log = s.log ++ es.map (⟨s.now, ·⟩) := rfl

theorem record_record : (s.record es).record es' = s.record (es ++ es') := by
  simp [record]

@[simp] theorem events_record : (s.record es).events = s.events ++ es := by
  simp [events, Function.comp_def]

end Record

/-- What a function finds in the events of a log, in order. -/
def extract {β : Type} (f : Event ε → Option β) (log : List (Entry ε)) : List β :=
  log.filterMap fun entry => f entry.event

section Extract

variable {β : Type} (f : Event ε → Option β) (log log' : List (Entry ε))

@[simp] theorem extract_nil : extract f [] = [] := rfl

@[simp] theorem extract_cons (entry : Entry ε) :
    extract f (entry :: log) = (f entry.event).toList ++ extract f log := by
  cases h : f entry.event <;> simp [extract, h]

@[simp] theorem extract_append : extract f (log ++ log') = extract f log ++ extract f log' :=
  List.filterMap_append

/-- A function that passes over every event of a list finds nothing in it. -/
@[simp] theorem extract_map {γ : Type} (g : γ → Entry ε) (xs : List γ) :
    extract f (xs.map g) = xs.filterMap fun x => f (g x).event := by
  rw [extract, List.filterMap_map]
  rfl

theorem extract_eq_filterMap (s : Actor ε) : extract f s.log = s.events.filterMap f := by
  simp only [extract, events, List.filterMap_map]
  rfl

end Extract

section Unwind

variable (s : Actor ε) (panic : Panic)

@[simp] theorem phase_unwind : (s.unwind panic).phase = .panicked panic := rfl
@[simp] theorem eventTx_unwind : (s.unwind panic).eventTx = s.eventTx := rfl
@[simp] theorem now_unwind : (s.unwind panic).now = s.now := rfl
@[simp] theorem log_unwind : (s.unwind panic).log = s.log := rfl

end Unwind

/-! ## Resolving -/

/-- **The assertions of `resolve_query` never fire**: its pattern has already checked them. -/
theorem resolveQuery_ne_error (s : Actor ε) (event : BoardEvent) (panic : Panic) :
    s.resolveQuery event ≠ .error panic := by
  unfold resolveQuery
  cases hpending : s.pendingQuery with
  | none => simp [matchesQuery_none]
  | some query =>
      obtain ⟨request, deadline⟩ := query
      cases request <;> cases event <;> simp [matchesQuery]

theorem resolveQuery_of_answer {s : Actor ε} {query : PendingQuery} {event : BoardEvent}
    {value : ReplyValue} (hpending : s.pendingQuery = some query)
    (hanswer : query.request.answer event = some value) :
    s.resolveQuery event
      = .ok ({ s with pendingQuery := none }.send query.request.reply (.ok value)) := by
  unfold resolveQuery
  rw [hpending, matchesQuery_some, hanswer]
  obtain ⟨request, deadline⟩ := query
  cases request <;> cases event <;> cases hanswer <;> rfl

theorem resolveQuery_of_no_answer {s : Actor ε} {event : BoardEvent}
    (h : ∀ query, s.pendingQuery = some query → query.request.answer event = none) :
    s.resolveQuery event = .ok s := by
  unfold resolveQuery
  cases hpending : s.pendingQuery with
  | none => simp [matchesQuery_none]
  | some query => simp [matchesQuery_some, h query hpending]

/-! ## Transitions -/

/-- The transitions of the machine, by the action that takes them. -/
inductive Transition (config : ActorConfig) (s : Actor ε) : Action ε → Actor ε → Prop
  | reserve (h : s.requestRx.CanReserve) :
      Transition config s .reserve { s with requestRx := s.requestRx.reserve h }
  | enqueue (request : Request) (hreceives : s.phase.receives = true) (h : s.requestRx.CanPush) :
      Transition config s (.enqueue request)
        ({ s with
            requestRx := s.requestRx.push (request.message s.nextReply) h
            nextReply := s.nextReply + 1 }.record [.enqueued (request.message s.nextReply)])
  | cloneHandle (h : 0 < s.requestRx.senders) :
      Transition config s .cloneHandle { s with requestRx := s.requestRx.cloneSender }
  | dropHandle (h : 0 < s.requestRx.senders) :
      Transition config s .dropHandle { s with requestRx := s.requestRx.dropSender }
  | tick (elapsed : Duration) (now : Instant) (h : now.nanos = s.now.nanos + elapsed.nanos) :
      Transition config s (.tick elapsed) { s with now }
  -- `initialize_transport`
  | initializeFailed (calls : Calls) (error : ε) (hphase : s.phase = .initializing calls) :
      Transition config s (.callReturned (.error error))
        ({ s with phase := .leaving, result := .error (.transport error) }.record
          [.returned calls.first none (.error error)])
  | initializeNext (first next : TransportCall) (rest : List TransportCall)
      (hphase : s.phase = .initializing ⟨first, next :: rest⟩) :
      Transition config s (.callReturned (.ok ()))
        ({ s with phase := .initializing ⟨next, rest⟩ }.record
          [.returned first none (.ok ()), .called next none])
  | initialized (last : TransportCall) (hphase : s.phase = .initializing ⟨last, []⟩) :
      Transition config s (.callReturned (.ok ()))
        ({ s with phase := .loopTop, lifecycle := .running }.record
          [.returned last none (.ok ()), .lifecycle .running])
  -- the top of the loop
  | startQueued (query : QueryRequest) (rest : List QueryRequest) (hphase : s.phase = .loopTop)
      (hpending : s.pendingQuery = none) (hqueued : s.queuedQueries = query :: rest) :
      Transition config s .proceed
        ({ s with phase := .startingQuery query, queuedQueries := rest }.record
          [.called (.writeCommand query.command) (some (.query query))])
  | select (hphase : s.phase = .loopTop)
      (hready : s.pendingQuery = none → s.queuedQueries = []) :
      Transition config s .proceed ({ s with phase := .selecting }.record [.nextNotification])
  -- the write of a query
  | queryFailed (query : QueryRequest) (error : ε) (hphase : s.phase = .startingQuery query) :
      Transition config s (.callReturned (.error error))
        ({ s with phase := .leaving, result := .error (.transport error) }.record
          [.returned (.writeCommand query.command) (some (.query query)) (.error error),
            .replied query.reply (.error .transportFailed)])
  | queryOverflowed (query : QueryRequest) (hphase : s.phase = .startingQuery query)
      (hoverflow : s.now.checkedAdd config.requestTimeout = none) :
      Transition config s (.callReturned (.ok ()))
        ((s.unwind .deadlineOverflow).record
          [.returned (.writeCommand query.command) (some (.query query)) (.ok ())])
  | queryStarted (query : QueryRequest) (deadline : Instant)
      (hphase : s.phase = .startingQuery query)
      (hdeadline : s.now.checkedAdd config.requestTimeout = some deadline) :
      Transition config s (.callReturned (.ok ()))
        ({ s with phase := .loopTop, pendingQuery := some ⟨query, deadline⟩ }.record
          [.returned (.writeCommand query.command) (some (.query query)) (.ok ())])
  -- the write of a command
  | sent (command : Command) (reply : ReplyId) (hphase : s.phase = .sending command reply) :
      Transition config s (.callReturned (.ok ()))
        ({ s with phase := .loopTop }.record
          [.returned (.writeCommand command) (some (.send command reply)) (.ok ()),
            .replied reply (.ok .done)])
  | sendFailed (command : Command) (reply : ReplyId) (error : ε)
      (hphase : s.phase = .sending command reply) :
      Transition config s (.callReturned (.error error))
        ({ s with phase := .leaving, result := .error (.transport error) }.record
          [.returned (.writeCommand command) (some (.send command reply)) (.error error),
            .replied reply (.error .transportFailed)])
  -- received messages
  | receiveSend (command : Command) (reply : ReplyId) (waiting : List Message)
      (hphase : s.phase = .selecting)
      (hqueue : s.requestRx.queue = .send command reply :: waiting) :
      Transition config s .receive
        ({ s with phase := .sending command reply, requestRx := s.requestRx.pop }.record
          [.received (.send command reply),
            .called (.writeCommand command) (some (.send command reply))])
  | receiveFirstQuery (query : QueryRequest) (waiting : List Message)
      (hphase : s.phase = .selecting) (hqueue : s.requestRx.queue = .query query :: waiting)
      (hpending : s.pendingQuery = none) (hqueued : s.queuedQueries = []) :
      Transition config s .receive
        ({ s with phase := .startingQuery query, requestRx := s.requestRx.pop }.record
          [.received (.query query),
            .called (.writeCommand query.command) (some (.query query))])
  | receiveQueued (query : QueryRequest) (waiting : List Message)
      (hphase : s.phase = .selecting) (hqueue : s.requestRx.queue = .query query :: waiting)
      (hbusy : ¬ (s.pendingQuery = none ∧ s.queuedQueries = []))
      (hroom : s.queuedQueries.length < config.queryCapacity) :
      Transition config s .receive
        ({ s with
            phase := .loopTop
            queuedQueries := s.queuedQueries ++ [query]
            requestRx := s.requestRx.pop }.record [.received (.query query)])
  | receiveRefused (query : QueryRequest) (waiting : List Message)
      (hphase : s.phase = .selecting) (hqueue : s.requestRx.queue = .query query :: waiting)
      (hbusy : ¬ (s.pendingQuery = none ∧ s.queuedQueries = []))
      (hfull : config.queryCapacity ≤ s.queuedQueries.length) :
      Transition config s .receive
        ({ s with phase := .loopTop, requestRx := s.requestRx.pop }.record
          [.received (.query query), .replied query.reply (.error .queryQueueFull)])
  | receiveSubscribe (reply : ReplyId) (waiting : List Message) (hphase : s.phase = .selecting)
      (hqueue : s.requestRx.queue = .subscribeEvents reply :: waiting) :
      Transition config s .receive
        ({ s with phase := .loopTop, requestRx := s.requestRx.pop }.record
          [.received (.subscribeEvents reply),
            .replied reply (.ok (.stream { subscribedAt := s.eventTx.length }))])
  | receiveShutdown (reply : ReplyId) (waiting : List Message) (hphase : s.phase = .selecting)
      (hqueue : s.requestRx.queue = .shutdown reply :: waiting) :
      Transition config s .receive
        ({ s with
            phase := .leaving
            result := .ok ()
            shutdownReply := some reply
            requestRx := s.requestRx.pop }.record [.received (.shutdown reply)])
  | handlesDropped (hphase : s.phase = .selecting) (hqueue : s.requestRx.queue = [])
      (hsenders : s.requestRx.senders = 0) :
      Transition config s .receive { s with phase := .leaving, result := .ok () }
  -- notifications
  | notificationFailed (error : ε) (hphase : s.phase = .selecting) :
      Transition config s (.notification (.error error))
        ({ s with phase := .leaving, result := .error (.transport error) }.record
          [.notified (.error error)])
  | resolved (notification : Notification) (query : PendingQuery) (value : ReplyValue)
      (event : BoardEvent) (hphase : s.phase = .selecting)
      (hpending : s.pendingQuery = some query)
      (hanswer : query.request.answerOf notification = some value)
      (hevent : observe notification = some (.ok event)) :
      Transition config s (.notification (.ok notification))
        ({ s with
            phase := .loopTop
            pendingQuery := none
            eventTx := s.eventTx ++ [Except.ok event] }.record
          [.notified (.ok notification), .replied query.request.reply (.ok value),
            .published (.ok event)])
  | observed (notification : Notification) (hphase : s.phase = .selecting)
      (hanswer : ∀ query, s.pendingQuery = some query →
        query.request.answerOf notification = none) :
      Transition config s (.notification (.ok notification))
        ({ s with
            phase := .loopTop
            eventTx := s.eventTx ++ (observe notification).toList }.record
          (.notified (.ok notification) :: (observe notification).toList.map .published))
  -- the timer
  | timedOut (query : PendingQuery) (hphase : s.phase = .selecting)
      (hpending : s.pendingQuery = some query) (hdeadline : query.deadline.nanos ≤ s.now.nanos) :
      Transition config s .deadlineElapsed
        ({ s with phase := .loopTop, pendingQuery := none }.record
          [.replied query.request.reply (.error .requestTimedOut)])
  -- leaving
  | shutDown (hphase : s.phase = .leaving) :
      Transition config s .proceed
        ({ s with phase := .closing, lifecycle := .shuttingDown }.record [.lifecycle .shuttingDown])
  | closeRequests (hphase : s.phase = .closing) :
      Transition config s .proceed
        { s with phase := .rejecting, requestRx := s.requestRx.close }
  | rejectActive (query : PendingQuery) (hphase : s.phase = .rejecting)
      (hpending : s.pendingQuery = some query) :
      Transition config s .proceed
        ({ s with pendingQuery := none }.record
          [.replied query.request.reply (.error .shuttingDown)])
  | rejectQueued (query : QueryRequest) (rest : List QueryRequest) (hphase : s.phase = .rejecting)
      (hpending : s.pendingQuery = none) (hqueued : s.queuedQueries = query :: rest) :
      Transition config s .proceed
        ({ s with queuedQueries := rest }.record [.replied query.reply (.error .shuttingDown)])
  | rejectMessage (message : Message) (waiting : List Message) (hphase : s.phase = .rejecting)
      (hpending : s.pendingQuery = none) (hqueued : s.queuedQueries = [])
      (hqueue : s.requestRx.queue = message :: waiting) :
      Transition config s .proceed
        ({ s with requestRx := s.requestRx.pop }.record
          [.received message, .replied message.reply (.error .shuttingDown)])
  -- `shutdown_transport`
  | startCleanup (hphase : s.phase = .rejecting) (hpending : s.pendingQuery = none)
      (hqueued : s.queuedQueries = []) (hqueue : s.requestRx.queue = []) :
      Transition config s .proceed
        ({ s with phase := .cleaningUp shutdownTransport }.record
          [.called shutdownTransport.first none])
  | cleanupFailed (calls : Calls) (error : ε) (hphase : s.phase = .cleaningUp calls) :
      Transition config s (.callReturned (.error error))
        ({ s with
            phase := .finishing
            result := if s.result.isOk then .error (.transport error) else s.result }.record
          [.returned calls.first none (.error error)])
  | cleanupNext (first next : TransportCall) (rest : List TransportCall)
      (hphase : s.phase = .cleaningUp ⟨first, next :: rest⟩) :
      Transition config s (.callReturned (.ok ()))
        ({ s with phase := .cleaningUp ⟨next, rest⟩ }.record
          [.returned first none (.ok ()), .called next none])
  | cleanedUp (last : TransportCall) (hphase : s.phase = .cleaningUp ⟨last, []⟩) :
      Transition config s (.callReturned (.ok ()))
        ({ s with phase := .finishing }.record [.returned last none (.ok ())])
  | finish (hphase : s.phase = .finishing) :
      Transition config s .proceed
        ({ s with
            phase := .returned
            lifecycle := if s.result.isOk then .stopped else .faulted
            shutdownReply := none }.record
          (.lifecycle (if s.result.isOk then .stopped else .faulted) ::
            s.shutdownReply.toList.map fun reply => .replied reply
              (if s.result.isOk then .ok .done else .error .transportFailed)))

section Inversion

variable {config : ActorConfig} {s s' : Actor ε}

/-- Two records in a row around a change of the state are one. -/
theorem failMessage_eq (message : Message) (error : HandleError) (s : Actor ε) :
    failMessage message error s = s.send message.reply (.error error) := by
  cases message <;> rfl

theorem transition_of_loopTop (hphase : s.phase = .loopTop) :
    Transition config s .proceed s.loopTop := by
  unfold loopTop
  split
  · next query rest hpending hqueued => exact .startQueued query rest hphase hpending hqueued
  · next hnone =>
      refine .select hphase fun hpending => ?_
      cases hqueued : s.queuedQueries with
      | nil => rfl
      | cons query rest => exact absurd hqueued (hnone query rest hpending)

theorem transition_of_rejectNext (hphase : s.phase = .rejecting) :
    Transition config s .proceed s.rejectNext := by
  unfold rejectNext
  split
  · next query hpending => exact .rejectActive query hphase hpending
  · next query rest hpending hqueued => exact .rejectQueued query rest hphase hpending hqueued
  · next message waiting hpending hqueued hqueue =>
      rw [failMessage_eq, send, record_record]
      exact .rejectMessage message waiting hphase hpending hqueued hqueue
  · next hpending hqueued hqueue => exact .startCleanup hphase hpending hqueued hqueue

theorem transition_of_finish (hphase : s.phase = .finishing) :
    Transition config s .proceed s.finish := by
  have h : Transition config s _ _ := .finish hphase
  unfold finish
  cases hreply : s.shutdownReply with
  | none => simpa [hreply, sendReplace, record] using h
  | some reply => simpa [hreply, sendReplace, send, record] using h

theorem transition_of_proceed (h : s.proceed = some s') : Transition config s .proceed s' := by
  unfold proceed at h
  split at h
  case h_1 hphase => exact Option.some.inj h ▸ transition_of_loopTop hphase
  case h_2 hphase => exact Option.some.inj h ▸ .shutDown hphase
  case h_3 hphase => exact Option.some.inj h ▸ .closeRequests hphase
  case h_4 hphase => exact Option.some.inj h ▸ transition_of_rejectNext hphase
  case h_5 hphase => exact Option.some.inj h ▸ transition_of_finish hphase
  case h_6 => cases h

theorem transition_of_startQueryReturned {query : QueryRequest} {result : Except ε Unit}
    (hphase : s.phase = .startingQuery query) :
    Transition config s (.callReturned result) (startQueryReturned config s query result) := by
  unfold startQueryReturned
  cases result with
  | error error =>
      simp only [QueryRequest.fail, send, record_record]
      exact .queryFailed query error hphase
  | ok ok =>
      obtain ⟨⟩ := ok
      simp only [now_record]
      split
      · next hoverflow => exact .queryOverflowed query hphase hoverflow
      · next deadline hdeadline => exact .queryStarted query deadline hphase hdeadline

theorem transition_of_sendReturned {command : Command} {reply : ReplyId} {result : Except ε Unit}
    (hphase : s.phase = .sending command reply) :
    Transition config s (.callReturned result) (s.sendReturned command reply result) := by
  unfold sendReturned
  cases result with
  | error error =>
      simp only [send, record_record]
      exact .sendFailed command reply error hphase
  | ok ok =>
      obtain ⟨⟩ := ok
      simp only [send, record_record]
      exact .sent command reply hphase

/-- A successful cleanup leaves the result of the actor as it was. -/
theorem cleanedUp_ok (s : Actor ε) : s.cleanedUp (.ok ()) = { s with phase := .finishing } := by
  unfold cleanedUp
  cases hresult : s.result <;> rfl

theorem transition_of_callReturned {result : Except ε Unit}
    (h : s.callReturned config result = some s') :
    Transition config s (.callReturned result) s' := by
  unfold callReturned at h
  split at h
  case h_1 calls hphase =>
      obtain ⟨first, rest⟩ := calls
      cases result with
      | error error => exact Option.some.inj h ▸ .initializeFailed ⟨first, rest⟩ error hphase
      | ok ok =>
          obtain ⟨⟩ := ok
          cases rest with
          | nil =>
              have hstep : Transition config s _ _ := .initialized first hphase
              rw [← List.singleton_append, ← record_record] at hstep
              exact Option.some.inj h ▸ hstep
          | cons next rest =>
              have hstep : Transition config s _ _ := .initializeNext first next rest hphase
              rw [← List.singleton_append, ← record_record] at hstep
              exact Option.some.inj h ▸ hstep
  case h_2 query hphase => exact Option.some.inj h ▸ transition_of_startQueryReturned hphase
  case h_3 command reply hphase => exact Option.some.inj h ▸ transition_of_sendReturned hphase
  case h_4 calls hphase =>
      obtain ⟨first, rest⟩ := calls
      cases result with
      | error error => exact Option.some.inj h ▸ .cleanupFailed ⟨first, rest⟩ error hphase
      | ok ok =>
          obtain ⟨⟩ := ok
          cases rest with
          | nil =>
              obtain rfl := Option.some.inj h
              rw [cleanedUp_ok]
              exact .cleanedUp first hphase
          | cons next rest =>
              have hstep : Transition config s _ _ := .cleanupNext first next rest hphase
              rw [← List.singleton_append, ← record_record] at hstep
              exact Option.some.inj h ▸ hstep
  case h_5 => cases h

theorem transition_of_receive (hphase : s.phase = .selecting) (h : s.receive config = some s') :
    Transition config s .receive s' := by
  unfold receive at h
  cases hqueue : s.requestRx.queue with
  | nil =>
      by_cases hsenders : s.requestRx.senders = 0
      · rw [hqueue, if_pos hsenders] at h
        exact Option.some.inj h ▸ .handlesDropped hphase hqueue hsenders
      · rw [hqueue, if_neg hsenders] at h
        cases h
  | cons message waiting =>
      rw [hqueue] at h
      obtain rfl := Option.some.inj h
      cases message with
      | send command reply =>
          have hstep : Transition config s _ _ := .receiveSend command reply waiting hphase hqueue
          rw [← List.singleton_append, ← record_record] at hstep
          exact hstep
      | subscribeEvents reply =>
          have hstep : Transition config s _ _ := .receiveSubscribe reply waiting hphase hqueue
          rw [← List.singleton_append, ← record_record] at hstep
          exact hstep
      | shutdown reply => exact .receiveShutdown reply waiting hphase hqueue
      | query query =>
          simp only [handleMessage]
          split
          · next hidle =>
            rw [Option.isNone_iff_eq_none, List.isEmpty_iff] at hidle
            have hstep : Transition config s _ _ := .receiveFirstQuery query waiting hphase hqueue
              hidle.1 hidle.2
            rw [← List.singleton_append, ← record_record] at hstep
            exact hstep
          · next hbusy =>
            rw [Option.isNone_iff_eq_none, List.isEmpty_iff] at hbusy
            split
            · next hroom => exact .receiveQueued query waiting hphase hqueue hbusy hroom
            · next hfull =>
              rw [QueryRequest.fail, send, record_record]
              exact .receiveRefused query waiting hphase hqueue hbusy (Nat.le_of_not_lt hfull)

theorem transition_of_notification {result : Except ε Notification}
    (hphase : s.phase = .selecting) :
    Transition config s (.notification result) (s.handleNotification result) := by
  cases result with
  | error error => exact .notificationFailed error hphase
  | ok notification =>
      have hobserved := @Transition.observed ε config s notification hphase
      simp only [observe, QueryRequest.answerOf] at hobserved
      simp only [handleNotification]
      cases hdecode : decodeNotification notification with
      | error error =>
          simp only [hdecode, Option.toList_some, List.map_cons, List.map_nil] at hobserved
          simpa [publish, record] using hobserved
      | ok decoded =>
          cases decoded with
          | realtimeUpdatesAcknowledged =>
              simp only [hdecode, Option.toList_none, List.map_nil] at hobserved
              simpa [record] using hobserved
          | event event =>
              simp only [hdecode, Option.toList_some, List.map_cons, List.map_nil] at hobserved
              by_cases hanswer :
                  ∃ query value, s.pendingQuery = some query ∧
                    query.request.answer event = some value
              · obtain ⟨query, value, hpending, hanswer⟩ := hanswer
                have hstep : Transition config s _ _ := .resolved notification query value event
                  hphase hpending (by simp only [QueryRequest.answerOf, hdecode, hanswer])
                  (by rw [observe, hdecode])
                simp only [resolveQuery_of_answer (s := s.record _) hpending hanswer]
                simpa [publish, send, record] using hstep
              · have hnone : ∀ query, s.pendingQuery = some query →
                    query.request.answer event = none := by
                  intro query hpending
                  cases hvalue : query.request.answer event with
                  | none => rfl
                  | some value => exact absurd ⟨query, value, hpending, hvalue⟩ hanswer
                simp only [resolveQuery_of_no_answer (s := s.record _) hnone]
                simpa [publish, record] using hobserved hnone

theorem transition_of_deadlineElapsed (hphase : s.phase = .selecting)
    (h : s.deadlineElapsed = some s') : Transition config s .deadlineElapsed s' := by
  unfold deadlineElapsed at h
  split at h
  · next query hpending =>
      by_cases hdeadline : query.deadline.nanos ≤ s.now.nanos
      · rw [if_pos hdeadline] at h
        exact Option.some.inj h ▸ .timedOut query hphase hpending hdeadline
      · rw [if_neg hdeadline] at h
        cases h
  · cases h

/-- **Inversion.** Every step of the machine is one of the listed transitions. -/
theorem transition_of_step {action : Action ε} (h : step config s action = some s') :
    Transition config s action s' := by
  cases action with
  | reserve =>
      simp only [step, reserve] at h
      split at h
      · next hreserve => exact Option.some.inj h ▸ .reserve hreserve
      · cases h
  | enqueue request =>
      simp only [step, enqueue] at h
      split at h
      · next hpush => exact Option.some.inj h ▸ .enqueue request hpush.1 hpush.2
      · cases h
  | cloneHandle =>
      simp only [step] at h
      split at h
      · next hsenders => exact Option.some.inj h ▸ .cloneHandle hsenders
      · cases h
  | dropHandle =>
      simp only [step] at h
      split at h
      · next hsenders => exact Option.some.inj h ▸ .dropHandle hsenders
      · cases h
  | tick elapsed =>
      obtain ⟨now, hnow, rfl⟩ := Option.map_eq_some_iff.1 h
      exact .tick elapsed now (Instant.checkedAdd_eq_some_iff.1 hnow)
  | proceed => exact transition_of_proceed h
  | callReturned result => exact transition_of_callReturned h
  | receive =>
      simp only [step] at h
      split at h
      · next hphase => exact transition_of_receive hphase h
      · cases h
  | notification result =>
      simp only [step] at h
      split at h
      · next hphase => exact Option.some.inj h ▸ transition_of_notification hphase
      · cases h
  | deadlineElapsed =>
      simp only [step] at h
      split at h
      · next hphase => exact transition_of_deadlineElapsed hphase h
      · cases h

/-- **Completeness.** Every listed transition is a step of the machine. -/
theorem step_of_transition {action : Action ε} (h : Transition config s action s') :
    step config s action = some s' := by
  cases h with
  | reserve h => simp [step, reserve, h]
  | enqueue request hreceives h => simp [step, enqueue, hreceives, h]
  | cloneHandle h => simp [step, h]
  | dropHandle h => simp [step, h]
  | tick elapsed now h =>
      exact Option.map_eq_some_iff.2 ⟨now, Instant.checkedAdd_eq_some_iff.2 h, rfl⟩
  | initializeFailed calls error hphase => simp [step, callReturned, hphase, leaveLoop, record]
  | initializeNext first next rest hphase => simp [step, callReturned, hphase, await, record]
  | initialized last hphase => simp [step, callReturned, hphase, sendReplace, record]
  | startQueued query rest hphase hpending hqueued =>
      simp [step, proceed, hphase, loopTop, hpending, hqueued, startQuery, await, record]
  | select hphase hready =>
      simp only [step, proceed, hphase, loopTop]
      split
      · next query rest hpending hqueued =>
          rw [hready hpending] at hqueued
          cases hqueued
      · rfl
  | queryFailed query error hphase =>
      simp [step, callReturned, hphase, startQueryReturned, QueryRequest.fail, leaveLoop, send,
        record]
  | queryOverflowed query hphase hoverflow =>
      simp [step, callReturned, hphase, startQueryReturned, hoverflow, unwind, record]
  | queryStarted query deadline hphase hdeadline =>
      simp [step, callReturned, hphase, startQueryReturned, hdeadline, record]
  | sent command reply hphase => simp [step, callReturned, hphase, sendReturned, send, record]
  | sendFailed command reply error hphase =>
      simp [step, callReturned, hphase, sendReturned, send, record, leaveLoop]
  | receiveSend command reply waiting hphase hqueue =>
      simp [step, hphase, receive, hqueue, handleMessage, await, record]
  | receiveFirstQuery query waiting hphase hqueue hpending hqueued =>
      simp [step, hphase, receive, hqueue, handleMessage, hpending, hqueued, startQuery, await,
        record]
  | receiveQueued query waiting hphase hqueue hbusy hroom =>
      simp [step, hphase, receive, hqueue, handleMessage, hbusy, hroom, record]
  | receiveRefused query waiting hphase hqueue hbusy hfull =>
      simp [step, hphase, receive, hqueue, handleMessage, hbusy, hfull.not_gt, record,
        QueryRequest.fail, send]
  | receiveSubscribe reply waiting hphase hqueue =>
      simp [step, hphase, receive, hqueue, handleMessage, send, record]
  | receiveShutdown reply waiting hphase hqueue =>
      simp [step, hphase, receive, hqueue, handleMessage, leaveLoop, record]
  | handlesDropped hphase hqueue hsenders =>
      simp [step, hphase, receive, hqueue, hsenders, leaveLoop]
  | notificationFailed error hphase => simp [step, hphase, handleNotification, leaveLoop, record]
  | resolved notification query value event hphase hpending hanswer hevent =>
      obtain ⟨decoded, hobserve, hvalue⟩ := QueryRequest.observe_of_answerOf hanswer
      obtain rfl := Except.ok.inj (Option.some.inj (hevent.symm.trans hobserve))
      unfold observe at hevent
      split at hevent
      · next decoded hdecode =>
          obtain rfl := Except.ok.inj (Option.some.inj hevent)
          have hresolve := resolveQuery_of_answer (s := s.record [.notified (.ok notification)])
            hpending hvalue
          simp only [step, hphase, if_pos, handleNotification, hdecode, hresolve]
          simp [publish, send, record]
      · cases hevent
      · cases hevent
  | observed notification hphase hanswer =>
      simp only [QueryRequest.answerOf] at hanswer
      cases hdecode : decodeNotification notification with
      | error error => simp [step, hphase, handleNotification, hdecode, observe, publish, record]
      | ok decoded =>
          cases decoded with
          | realtimeUpdatesAcknowledged =>
              simp [step, hphase, handleNotification, hdecode, observe, record]
          | event event =>
              simp only [hdecode] at hanswer
              have hresolve := resolveQuery_of_no_answer
                (s := s.record [.notified (.ok notification)]) hanswer
              simp only [step, hphase, if_pos, handleNotification, hdecode, hresolve, observe]
              simp [publish, record]
  | timedOut query hphase hpending hdeadline =>
      simp [step, hphase, deadlineElapsed, hpending, hdeadline, PendingQuery.fail,
        QueryRequest.fail, send, record]
  | shutDown hphase => simp [step, proceed, hphase, shutDown, sendReplace, record]
  | closeRequests hphase => simp [step, proceed, hphase, closeRequests]
  | rejectActive query hphase hpending =>
      simp [step, proceed, hphase, rejectNext, hpending, PendingQuery.fail, QueryRequest.fail, send,
        record]
  | rejectQueued query rest hphase hpending hqueued =>
      simp [step, proceed, hphase, rejectNext, hpending, hqueued, QueryRequest.fail, send, record]
  | rejectMessage message waiting hphase hpending hqueued hqueue =>
      simp [step, proceed, hphase, rejectNext, hpending, hqueued, hqueue, failMessage_eq, send,
        record]
  | startCleanup hphase hpending hqueued hqueue =>
      simp [step, proceed, hphase, rejectNext, hpending, hqueued, hqueue, await, record]
  | cleanupFailed calls error hphase =>
      simp only [step, callReturned, hphase, Actor.cleanedUp]
      rfl
  | cleanupNext first next rest hphase => simp [step, callReturned, hphase, await, record]
  | cleanedUp last hphase => simp [step, callReturned, hphase, cleanedUp_ok, record]
  | finish hphase =>
      cases hreply : s.shutdownReply <;>
        simp [step, proceed, hphase, finish, hreply, sendReplace, send, record]

/-- The log only grows. -/
theorem log_step {action : Action ε} (h : Transition config s action s') :
    ∃ es, s'.log = s.log ++ es := by
  cases h with
  | reserve | cloneHandle | dropHandle | tick | handlesDropped | closeRequests =>
      exact ⟨[], by simp⟩
  | _ => exact ⟨_, rfl⟩

/-- What has happened stays in the record. -/
theorem mem_events_append {es : List (Entry ε)} (hlog : s'.log = s.log ++ es) {event : Event ε}
    (hmem : event ∈ s.events) : event ∈ s'.events := by
  rw [events, hlog, List.map_append]
  exact List.mem_append_left _ hmem

theorem log_run {schedule : List (Action ε)}
    (h : StepMachine.run (step config) s schedule = some s') : ∃ es, s'.log = s.log ++ es := by
  refine StepMachine.run_preserves (P := fun t => ∃ es, t.log = s.log ++ es) ?_
    ⟨[], (List.append_nil _).symm⟩ h
  rintro t action t' ⟨es, ht⟩ hst
  obtain ⟨es', ht'⟩ := log_step (transition_of_step hst)
  exact ⟨es ++ es', by rw [ht', ht, List.append_assoc]⟩

end Inversion

/-- **The invariant rule of the actor.** What holds of every freshly spawned actor and is preserved
    by every transition from a reachable state holds of every reachable state. -/
theorem Reachable.induct {config : ActorConfig} {P : Actor ε → Prop}
    (hstart : ∀ now, P (runActor config now))
    (hstep : ∀ s action s', Reachable config s → P s → Transition config s action s' → P s')
    {s : Actor ε} (h : Reachable config s) : P s := by
  refine StepMachine.Reachable.invariant ?_ ?_ h
  · intro s hinit
    obtain ⟨now, rfl⟩ := hinit
    exact hstart now
  · intro s action s' hreach hs hst
    exact hstep s action s' hreach hs (transition_of_step hst)

end Actor

end ChessnutMove.Tokio
