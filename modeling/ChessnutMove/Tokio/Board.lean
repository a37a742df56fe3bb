import ChessnutMove.Library.History
import ChessnutMove.Tokio.Inbox
import ChessnutMove.Tokio.Serial

set_option autoImplicit false

/-! # Which write a response belongs to

Responses carry no identity, so the actor gives the active query the next response of its kind. The
board considered here answers each write of a status query at most once, in the order written, after
any delay, and sends no other status response; every notification is stamped with the write it
answers, which the actor does not see. A query gets the response to a write of its own kind, no two
queries get the same one, and a query gets its own unless a response to an earlier query of the kind
is taken while it is active. -/

namespace ChessnutMove.Tokio

variable {ε : Type}

/-! ## Status queries and status responses -/

/-- One of the two commands the board answers with a status. -/
def isStatusQuery (command : Command) : Bool :=
  command = Command.readBatteryLevel ∨ command = Command.readPieceStatus

/-- The notification decodes to the status the command asks for. -/
def isResponseTo (command : Command) (notification : Notification) : Bool :=
  match decodeNotification notification with
  | .ok (.event (.batteryStatus _)) => command = Command.readBatteryLevel
  | .ok (.event (.pieceStatus _)) => command = Command.readPieceStatus
  | _ => false

theorem isResponseTo_command (query : QueryRequest) (notification : Notification) :
    isResponseTo query.command notification = (query.answerOf notification).isSome := by
  unfold isResponseTo QueryRequest.answerOf
  cases decodeNotification notification with
  | error error => rfl
  | ok decoded =>
      cases decoded with
      | realtimeUpdatesAcknowledged => rfl
      | event event => cases query <;> cases event <;> rfl

/-- A notification is a response to one kind of query at most. -/
theorem command_eq_of_isResponseTo {command command' : Command} {notification : Notification}
    (h : isResponseTo command notification = true)
    (h' : isResponseTo command' notification = true) : command = command' := by
  unfold isResponseTo at h h'
  split at h
  · simp_all
  · simp_all
  · cases h

/-- `next_notification` returned a notification. -/
def Event.isTake : Event ε → Bool
  | .notified (.ok _) => true
  | _ => false

/-- A write of a command, with the request it is made for. -/
abbrev CommandWrite := Command × Option Message

/-- The write of the query's command for the query. -/
def QueryRequest.ownWrite (query : QueryRequest) : CommandWrite :=
  (query.command, some (.query query))

/-- The write of a status query that an event starts. -/
def Event.statusWrite : Event ε → Option CommandWrite
  | .called (.writeCommand command) owner =>
      if isStatusQuery command then some (command, owner) else none
  | _ => none

namespace Actor

/-- The writes of status queries, in order. -/
def statusWrites (s : Actor ε) : List CommandWrite := extract Event.statusWrite s.log

/-- The queries a write was started for, in order. -/
def writtenQueries (s : Actor ε) : List QueryRequest := s.writtenMessages.filterMap Message.asQuery

/-! ## Runs without a status query sent by hand -/

/-- Neither a waiting `Send` nor a call that is left of a fixed sequence writes a status query. -/
structure Plain (s : Actor ε) : Prop where
  sends : ∀ command reply, .send command reply ∈ s.requestRx.queue → isStatusQuery command = false
  calls : ∀ calls, s.phase = .initializing calls ∨ s.phase = .cleaningUp calls →
    ∀ call ∈ calls.rest, (Event.called call none : Event ε).statusWrite = none

/-- The request is no `send` of a status query. -/
def plainRequest : Request → Bool
  | .send command => !isStatusQuery command
  | _ => true

section Step

variable {config : ActorConfig} {s s' : Actor ε} {action : Action ε}

theorem writtenQueries_append {es : List (Entry ε)} (hlog : s'.log = s.log ++ es) :
    ∃ more, s'.writtenQueries = s.writtenQueries ++ more := by
  refine ⟨(extract Event.writtenMessage es).filterMap Message.asQuery, ?_⟩
  rw [writtenQueries, writtenMessages, hlog, extract_append, List.filterMap_append, writtenQueries,
    writtenMessages]

theorem isStatusQuery_command (query : QueryRequest) : isStatusQuery query.command = true := by
  cases query <;> rfl

theorem plain_step (hs : Plain s)
    (hrequest : ∀ request, action = .enqueue request → plainRequest request = true)
    (h : Transition config s action s') : Plain s' := by
  obtain ⟨hsends, hcalls⟩ := hs
  cases h with
  | enqueue request hreceives h =>
      refine ⟨?_, hcalls⟩
      intro command reply hmem
      rcases List.mem_append.1 hmem with hmem | hmem
      · exact hsends command reply hmem
      · have hplain := hrequest request rfl
        cases request <;> simp_all [Request.message, plainRequest]
  | initializeNext first next rest hphase =>
      refine ⟨hsends, ?_⟩
      have hrest := hcalls _ (.inl hphase)
      simp_all
  | cleanupNext first next rest hphase =>
      refine ⟨hsends, ?_⟩
      have hrest := hcalls _ (.inr hphase)
      simp_all
  | startCleanup =>
      refine ⟨hsends, ?_⟩
      simp [shutdownTransport, Event.statusWrite]
  | receiveSend | receiveFirstQuery | receiveQueued | receiveRefused | receiveSubscribe
  | receiveShutdown | rejectMessage =>
      refine ⟨fun command reply hmem => hsends command reply (List.mem_of_mem_tail hmem), ?_⟩
      simp_all
  | queryOverflowed =>
      refine ⟨?_, ?_⟩
      · simp [unwind]
      · simp
  | reserve | cloneHandle | dropHandle | tick => exact ⟨hsends, hcalls⟩
  | rejectActive | rejectQueued => exact ⟨hsends, hcalls⟩
  | _ => exact ⟨hsends, by simp_all⟩

theorem plain_runActor {now : Instant} : Plain (runActor (ε := ε) config now) := by
  refine ⟨?_, ?_⟩
  · intro command reply hmem
    cases hmem
  · intro calls hphase call hmem
    obtain rfl : initializeTransport = calls := by simpa [runActor] using hphase
    simp only [initializeTransport, List.mem_cons, List.not_mem_nil, or_false] at hmem
    rcases hmem with rfl | rfl
    · have henable : isStatusQuery Command.enableRealtimeUpdates = false := by decide
      simp [Event.statusWrite, henable]
    · rfl

/-- The status queries written are the queries written, each by its own command. -/
theorem statusWrites_step (hplain : Plain s)
    (hs : s.statusWrites = s.writtenQueries.map QueryRequest.ownWrite)
    (h : Transition config s action s') :
    s'.statusWrites = s'.writtenQueries.map QueryRequest.ownWrite := by
  obtain ⟨hsends, hcalls⟩ := hplain
  unfold statusWrites writtenQueries writtenMessages at hs ⊢
  cases h with
  | startQueued query rest | receiveFirstQuery query waiting =>
      simp [hs, Event.statusWrite, Event.writtenMessage, isStatusQuery_command, Message.asQuery,
        QueryRequest.ownWrite]
  | receiveSend command reply waiting hphase hqueue =>
      have hno := hsends command reply (by simp [hqueue])
      simp [hs, Event.statusWrite, Event.writtenMessage, hno, Message.asQuery]
  | initializeNext first next rest hphase =>
      have hno := hcalls _ (.inl hphase) next List.mem_cons_self
      have hreturned : (Event.returned first none (.ok ()) : Event ε).statusWrite = none := rfl
      simp [hs, hno, hreturned, Event.writtenMessage]
  | cleanupNext first next rest hphase =>
      have hno := hcalls _ (.inr hphase) next List.mem_cons_self
      have hreturned : (Event.returned first none (.ok ()) : Event ε).statusWrite = none := rfl
      simp [hs, hno, hreturned, Event.writtenMessage]
  | _ => simp [hs, Event.statusWrite, Event.writtenMessage, shutdownTransport]

end Step

/-! ## The active query among the written ones -/

/-- The query being written or active is the last one written. -/
def LastWritten (s : Actor ε) : Prop :=
  ∀ query, (s.phase = .startingQuery query ∨ ∃ deadline, s.pendingQuery = some ⟨query, deadline⟩) →
    s.writtenQueries.getLast? = some query

/-- The main loop has not been left. -/
def InLoop (s : Actor ε) : Prop :=
  match s.phase with
  | .initializing _ | .loopTop | .startingQuery _ | .selecting | .sending _ _ => True
  | _ => False

/-- While the main loop runs, requests fail for two reasons only. -/
def LoopErrors (s : Actor ε) : Prop :=
  InLoop s → ∀ reply error, .replied reply (.error error) ∈ s.events →
    error = .requestTimedOut ∨ error = .queryQueueFull

section Active

variable {config : ActorConfig} {s s' : Actor ε} {action : Action ε} {query : QueryRequest}

theorem lastWritten_step (hslots : Slots s) (hs : LastWritten s)
    (h : Transition config s action s') : LastWritten s' := by
  intro query hactive
  have hlast := hs query
  unfold writtenQueries writtenMessages at hlast ⊢
  unfold Slots at hslots
  cases h with
  | observed notification hphase hanswer =>
      obtain ⟨deadline, hpending⟩ : ∃ deadline, s.pendingQuery = some ⟨query, deadline⟩ := by
        simpa using hactive
      simp_all [Event.writtenMessage]
  | queryOverflowed => simp [unwind] at hactive
  | finish | reserve | cloneHandle | dropHandle | tick => simp_all
  | _ =>
      rcases hactive with hstarting | ⟨deadline, hpending⟩ <;>
        simp_all [Event.writtenMessage, Message.asQuery]

theorem lastWritten (h : Reachable config s) : LastWritten s := by
  refine h.induct (P := LastWritten) ?_ ?_
  · intro now query hactive
    simp [runActor] at hactive
  · intro s action s' hreach hs hst
    exact lastWritten_step (slots hreach) hs hst

theorem loopErrors_step (hs : LoopErrors s) (h : Transition config s action s') :
    LoopErrors s' := by
  intro hloop reply error hmem
  have hold := fun hloop => hs hloop reply error
  unfold InLoop events at hold
  unfold InLoop at hloop
  unfold events at hmem
  cases h with
  | observed notification hphase hanswer =>
      cases hobserve : observe notification <;> simp_all [-List.mem_map]
  | receiveRefused query waiting hphase hqueue hbusy hfull =>
      simp only [log_record, List.map_append, List.mem_append] at hmem
      rcases hmem with hmem | hmem
      · exact hold (by simp [hphase]) hmem
      · right
        simp_all
  | timedOut query hphase hpending hdeadline =>
      simp only [log_record, List.map_append, List.mem_append] at hmem
      rcases hmem with hmem | hmem
      · exact hold (by simp [hphase]) hmem
      · left
        simp_all
  | reserve | cloneHandle | dropHandle | tick => exact hold hloop hmem
  | _ => simp_all [-List.mem_map]

theorem loopErrors (h : Reachable config s) : LoopErrors s := by
  refine h.induct (P := LoopErrors) ?_ ?_
  · intro now _ reply error hmem
    simp [events, runActor] at hmem
  · intro s action s' _ hs hst
    exact loopErrors_step hs hst

theorem mem_enqueuedMessages {message : Message} :
    message ∈ s.enqueuedMessages ↔ .enqueued message ∈ s.events := by
  rw [enqueuedMessages, extract_eq_filterMap, List.mem_filterMap]
  constructor
  · rintro ⟨event, hmem, hevent⟩
    cases event <;> simp_all [Event.enqueuedMessage]
  · intro hmem
    exact ⟨_, hmem, rfl⟩

/-- A query that counts as written was enqueued, and its write was started. -/
theorem called_of_written (h : Reachable config s) (hwritten : query ∈ s.writtenQueries) :
    .enqueued (.query query) ∈ s.events ∧
      ∃ call, .called call (some (.query query)) ∈ s.events := by
  have hquery : ∀ {messages : List Message}, query ∈ messages.filterMap Message.asQuery →
      .query query ∈ messages := by
    intro messages hmem
    obtain ⟨message, hmem, hasQuery⟩ := List.mem_filterMap.1 hmem
    cases message <;> simp_all [Message.asQuery]
  refine ⟨?_, ?_⟩
  · have hreceived := (queries_in_order h).subset (List.mem_append_left _ hwritten)
    exact mem_enqueuedMessages.1 ((received_of_enqueued h).subset (hquery hreceived))
  · have hmem := hquery hwritten
    rw [writtenMessages, extract_eq_filterMap] at hmem
    obtain ⟨event, hmem, hevent⟩ := List.mem_filterMap.1 hmem
    cases event <;> simp_all [Event.writtenMessage]
    exact ⟨_, hmem⟩

/-- A query that was written and is not the active one any more has its answer, or has timed out. -/
theorem answered_of_written (h : Reachable config s) (hphase : s.phase = .selecting)
    (hwritten : query ∈ s.writtenQueries)
    (hother : s.pendingQuery.map PendingQuery.request ≠ some query) :
    (∃ status, .replied query.reply (.ok status) ∈ s.events) ∨
      .replied query.reply (.error .requestTimedOut) ∈ s.events := by
  obtain ⟨henqueued, hcalled⟩ := called_of_written h hwritten
  obtain ⟨value, hreplied⟩ : ∃ value, .replied query.reply value ∈ s.events := by
    by_contra hnone
    exact hother (active_of_outstanding h hphase ⟨hcalled, not_exists.1 hnone⟩)
  cases value with
  | ok status => exact .inl ⟨status, hreplied⟩
  | error error =>
      rcases loopErrors h (by simp [InLoop, hphase]) _ _ hreplied with rfl | rfl
      · exact .inr hreplied
      · -- a query refused for want of room is not written
        exfalso
        have hanswered := answered_of_replied (books h (by simp [hphase])) hreplied
        obtain ⟨call, hcalled⟩ := hcalled
        have htruth : QueryTruthful (story Event.about query.reply s.events) query :=
          hanswered.queryTruthful (mem_story.2 ⟨henqueued, rfl⟩)
        exact htruth.1 (mem_story.2 ⟨hreplied, rfl⟩) call (mem_story.2 ⟨hcalled, rfl⟩)

/-- What a held request was enqueued as. -/
theorem enqueued_of_held (hbooks : Books s) {ticket : ReplyId × List (Event ε)}
    (hheld : ticket ∈ held s) (message : Message) (henqueued : .enqueued message ∈ s.events)
    (hreply : message.reply = ticket.1) : .enqueued message ∈ ticket.2 := by
  have hstory : .enqueued message ∈ story Event.about ticket.1 s.events :=
    mem_story.2 ⟨henqueued, by rw [Event.about, hreply]⟩
  rwa [hbooks.story_eq ticket hheld] at hstory

/-- A query is answered by a notification it was active for. -/
theorem ok_step {value : ReplyValue} (h : Reachable config s) (hst : Transition config s action s')
    (henqueued : .enqueued (.query query) ∈ s'.events)
    (hs' : .replied query.reply (.ok value) ∈ s'.events) :
    .enqueued (.query query) ∈ s.events ∧ .replied query.reply (.ok value) ∈ s.events ∨
      ∃ notification deadline, action = .notification (.ok notification) ∧
        s.phase = .selecting ∧ s.pendingQuery = some ⟨query, deadline⟩ ∧
        query.answerOf notification = some value := by
  by_cases hold : .enqueued (.query query) ∈ s.events ∧ .replied query.reply (.ok value) ∈ s.events
  · exact .inl hold
  right
  unfold events at henqueued hs' hold
  cases hst with
  | enqueue request hreceives hpush =>
      have hbooks := books h fun panic hphase => by simp [Phase.receives, hphase] at hreceives
      -- the fresh oneshot of the new message has no reply
      have hreplied : .replied query.reply (.ok value) ∈ s.events := by
        simpa [-List.mem_map, events] using hs'
      have hnew : .query query = request.message s.nextReply := by
        simp_all [-List.mem_map, events]
      have hreply : query.reply = s.nextReply := by
        rw [← Request.reply_message s.nextReply request, ← hnew, Message.reply]
      have hstory : .replied query.reply (.ok value) ∈ story Event.about s.nextReply s.events :=
        mem_story.2 ⟨hreplied, by rw [Event.about, hreply]⟩
      rw [hbooks.fresh s.nextReply (Nat.le_refl _)] at hstory
      cases hstory
  | sent command reply hphase =>
      have hbooks := books h (by simp [hphase])
      have hheld := (held_writing (s := s) (by rw [hphase]; rfl)).mem_iff.2 List.mem_cons_self
      have hmessage := enqueued_of_held hbooks hheld (.query query)
      simp_all [-List.mem_map, writing, events, Message.reply]
  | receiveSubscribe reply waiting hphase hqueue =>
      have hbooks := books h (by simp [hphase])
      have hheld := (held_pop hqueue).mem_iff.2 List.mem_cons_self
      have hmessage := enqueued_of_held hbooks hheld (.query query)
      simp_all [-List.mem_map, events, Message.reply]
  | resolved notification active value' event hphase hpending hanswer hevent =>
      have hbooks := books h (by simp [hphase])
      have hheld := (held_pending hpending).mem_iff.2 List.mem_cons_self
      have hmessage := enqueued_of_held hbooks hheld (.query query)
      obtain ⟨request, deadline⟩ := active
      refine ⟨notification, deadline, rfl, hphase, ?_⟩
      simp_all [-List.mem_map, writing, events, Message.reply]
  | finish hphase =>
      have hbooks := books h (by simp [hphase])
      cases hreply : s.shutdownReply with
      | none => simp_all [-List.mem_map]
      | some reply =>
          have hheld := (held_shutdown hreply).mem_iff.2 List.mem_cons_self
          have hmessage := enqueued_of_held hbooks hheld (.query query)
          simp_all [-List.mem_map, events, Message.reply]
  | observed notification hphase hanswer =>
      cases hobserve : observe notification <;> simp_all [-List.mem_map]
  | _ => simp_all [-List.mem_map]

/-- A notification that answers the active query is taken in the step that answers it. -/
theorem resolved_step {notification : Notification} {deadline : Instant} {value : ReplyValue}
    (h : Transition config s (.notification (.ok notification)) s')
    (hpending : s.pendingQuery = some ⟨query, deadline⟩)
    (hanswer : query.answerOf notification = some value) :
    ∃ more, s'.events = s.events ++
        .notified (.ok notification) :: .replied query.reply (.ok value) :: more ∧
      s'.writtenQueries = s.writtenQueries := by
  cases h with
  | resolved notification active value' event hphase hactive hanswer' hevent =>
      cases hpending.symm.trans hactive
      cases hanswer.symm.trans hanswer'
      refine ⟨[.published (.ok event)], events_record .., ?_⟩
      simp [writtenQueries, writtenMessages, Event.writtenMessage]
  | observed notification hphase hnone =>
      cases hanswer.symm.trans (hnone ⟨query, deadline⟩ hpending)

theorem countP_isTake_take {notification : Notification}
    (h : Transition config s (.notification (.ok notification)) s') :
    s'.events.countP Event.isTake = s.events.countP Event.isTake + 1 := by
  unfold events
  cases h with
  | resolved => simp [List.countP_cons, Event.isTake]
  | observed => cases hobserve : observe notification <;> simp [List.countP_cons, Event.isTake]

theorem countP_isTake_other (hother : ∀ notification, action ≠ .notification (.ok notification))
    (h : Transition config s action s') :
    s'.events.countP Event.isTake = s.events.countP Event.isTake := by
  unfold events
  cases h with
  | resolved notification | observed notification => exact absurd rfl (hother notification)
  | reserve | cloneHandle | dropHandle | tick | handlesDropped | closeRequests => rfl
  | finish => cases s.shutdownReply <;> simp [Event.isTake]
  | _ => simp [Event.isTake]

end Active

end Actor

namespace Inbox

/-! ## The board -/

/-- The writes that have been answered, in order. -/
def answered (t : Inbox ε (Option CommandWrite)) : List CommandWrite :=
  t.arrived.filterMap Arrival.stamp

/-- Answers each write of a status query at most once, in the order written, and sends no other
    status response. Handles send no status query by hand. -/
def orderlyBoard : Environment ε (Option CommandWrite) where
  issues := Actor.plainRequest
  sends t arrival :=
    match arrival.stamp with
    | some write =>
        isResponseTo write.1 arrival.notification ∧
          (t.answered ++ [write]).Sublist t.actor.statusWrites
    | none =>
        ¬ isResponseTo Command.readBatteryLevel arrival.notification ∧
          ¬ isResponseTo Command.readPieceStatus arrival.notification

/-- What the stamps of arrivals tell. -/
structure Provenance (t : Inbox ε (Option CommandWrite)) : Prop where
  plain : Actor.Plain t.actor
  statusWrites : t.actor.statusWrites = t.actor.writtenQueries.map QueryRequest.ownWrite
  answered : t.answered.Sublist t.actor.statusWrites
  unsolicited : ∀ arrival ∈ t.arrived, arrival.stamp = none → ∀ query : QueryRequest,
    isResponseTo query.command arrival.notification = false
  solicited : ∀ arrival ∈ t.arrived, ∀ write, arrival.stamp = some write →
    isResponseTo write.1 arrival.notification = true

section Board

variable {config : ActorConfig} {t t' : Inbox ε (Option CommandWrite)}
  {action : InboxAction ε (Option CommandWrite)}

theorem provenance_act {a : Action ε} {actor : Actor ε}
    {waiting : List (Arrival (Option CommandWrite))} (hs : Provenance t)
    (hrequest : ∀ request, a = .enqueue request → Actor.plainRequest request = true)
    (h : Actor.Transition config t.actor a actor) :
    Provenance { t with actor, waiting } := by
  obtain ⟨hplain, hwrites, hanswered, hunsolicited, hsolicited⟩ := hs
  obtain ⟨es, hlog⟩ := Actor.log_step h
  refine ⟨Actor.plain_step hplain hrequest h, Actor.statusWrites_step hplain hwrites h, ?_,
    hunsolicited, hsolicited⟩
  refine hanswered.trans ?_
  rw [Actor.statusWrites, Actor.statusWrites, hlog, Actor.extract_append]
  exact List.sublist_append_left _ _

theorem provenance_arrive {arrival : Arrival (Option CommandWrite)} (hs : Provenance t)
    (hsends : orderlyBoard.sends t arrival = true) : Provenance (t.arrive arrival) := by
  obtain ⟨hplain, hwrites, hanswered, hunsolicited, hsolicited⟩ := hs
  obtain ⟨stamp, notification⟩ := arrival
  cases stamp with
  | none =>
      have hno : ∀ query : QueryRequest, isResponseTo query.command notification = false := by
        intro query
        cases query <;> simp_all [orderlyBoard, QueryRequest.command]
      refine ⟨hplain, hwrites, ?_, ?_, ?_⟩
      · simpa [answered, arrive] using hanswered
      · intro arrival hmem
        rcases List.mem_append.1 hmem with hmem | hmem
        · exact hunsolicited arrival hmem
        · obtain rfl := List.mem_singleton.1 hmem
          exact fun _ => hno
      · intro arrival hmem write hstamp
        rcases List.mem_append.1 hmem with hmem | hmem
        · exact hsolicited arrival hmem write hstamp
        · obtain rfl := List.mem_singleton.1 hmem
          cases hstamp
  | some write =>
      have hyes : isResponseTo write.1 notification = true ∧
          (t.answered ++ [write]).Sublist t.actor.statusWrites := by
        simpa [orderlyBoard] using hsends
      refine ⟨hplain, hwrites, ?_, ?_, ?_⟩
      · simpa [answered, arrive] using hyes.2
      · intro arrival hmem hstamp
        rcases List.mem_append.1 hmem with hmem | hmem
        · exact hunsolicited arrival hmem hstamp
        · obtain rfl := List.mem_singleton.1 hmem
          cases hstamp
      · intro arrival hmem write' hstamp
        rcases List.mem_append.1 hmem with hmem | hmem
        · exact hsolicited arrival hmem write' hstamp
        · obtain rfl := List.mem_singleton.1 hmem
          exact Option.some.inj hstamp ▸ hyes.1

theorem provenance (h : Reachable orderlyBoard config t) : Provenance t := by
  refine h.induct (P := Provenance) ?_ ?_
  · intro now
    refine ⟨Actor.plain_runActor, rfl, List.Sublist.refl _, ?_, ?_⟩
    · intro arrival hmem
      cases hmem
    · intro arrival hmem
      cases hmem
  · intro t action t' _ hs hst
    cases hst with
    | arrive arrival hsends => exact provenance_arrive hs hsends
    | take oldest rest actor hwaiting h => exact provenance_act hs (by simp) h
    | act action actor hother hissues h => exact provenance_act hs hissues h

/-! ## Correlation -/

/-- The status is the payload of the board's response to the write of `source`. -/
def AnsweredFrom (t : Inbox ε (Option CommandWrite)) (query : QueryRequest) (status : ReplyValue)
    (source : QueryRequest) : Prop :=
  ∃ arrival ∈ t.arrived, arrival.stamp = some source.ownWrite ∧
    query.answerOf arrival.notification = some status

/-- The query has timed out. -/
def TimedOut (t : Inbox ε (Option CommandWrite)) (query : QueryRequest) : Prop :=
  .replied query.reply (.error .requestTimedOut) ∈ t.actor.events

/-- The query is answered with the status in the step that takes the notification with this number,
    after its write and for the first time. -/
def AnsweredIn (t : Inbox ε (Option CommandWrite)) (query : QueryRequest) (status : ReplyValue)
    (number : Nat) : Prop :=
  ∃ before notification after,
    t.actor.events = before ++
      .notified (.ok notification) :: .replied query.reply (.ok status) :: after ∧
    before.countP Event.isTake = number ∧
    .called (.writeCommand query.command) (some (.query query)) ∈ before ∧
    ∀ value, .replied query.reply value ∉ before

/-- The notification with this number is taken between the query's write and its answer. -/
def TakenFor (t : Inbox ε (Option CommandWrite)) (query : QueryRequest) (number : Nat) : Prop :=
  ∃ before notification after,
    t.actor.events = before ++ .notified (.ok notification) :: after ∧
    before.countP Event.isTake = number ∧
    .called (.writeCommand query.command) (some (.query query)) ∈ before ∧
    ∀ value, .replied query.reply value ∉ before

/-- The response that answers the query is the board's response to the write of `source`. -/
def AnsweredBy (t : Inbox ε (Option CommandWrite)) (query : QueryRequest) (status : ReplyValue)
    (source : QueryRequest) : Prop :=
  ∃ number arrival, AnsweredIn t query status number ∧ t.arrived[number]? = some arrival ∧
    arrival.stamp = some source.ownWrite ∧ query.answerOf arrival.notification = some status

/-- A response to the write of `earlier` is taken between the query's write and its answer. -/
def LateResponse (t : Inbox ε (Option CommandWrite)) (query earlier : QueryRequest) : Prop :=
  ∃ number arrival, TakenFor t query number ∧ t.arrived[number]? = some arrival ∧
    arrival.stamp = some earlier.ownWrite

/-- The response was produced for a write of the query's kind, for the query itself or one written
    before, and for the query itself if none of its kind written before has timed out. -/
def AttributedTo (t : Inbox ε (Option CommandWrite)) (query : QueryRequest) (status : ReplyValue) :
    Prop :=
  ∃ before after, t.actor.writtenQueries = before ++ query :: after ∧
    ∃ source ∈ before ++ [query], source.command = query.command ∧
      AnsweredBy t query status source ∧
      ((∀ earlier ∈ before, earlier.command = query.command → ¬ TimedOut t earlier) →
        source = query)

/-- The response was produced for a write of the query's kind, for the query itself or one written
    before. It was produced for the query itself if no response to one of its kind written before
    is taken between its write and its answer, and also if none of these has timed out. -/
def CorrelatedTo (t : Inbox ε (Option CommandWrite)) (query : QueryRequest) (status : ReplyValue) :
    Prop :=
  ∃ before after, t.actor.writtenQueries = before ++ query :: after ∧
    ∃ source ∈ before ++ [query], source.command = query.command ∧
      AnsweredBy t query status source ∧
      ((∀ earlier ∈ before, earlier.command = query.command → ¬ LateResponse t query earlier) →
        source = query) ∧
      ((∀ earlier ∈ before, earlier.command = query.command → ¬ TimedOut t earlier) →
        source = query)

/-- A response that waits belongs to a query without an answer, unless a query of its kind has timed
    out. -/
def Fresh (t : Inbox ε (Option CommandWrite)) : Prop :=
  ∀ arrival ∈ t.waiting, ∀ source : QueryRequest, arrival.stamp = some source.ownWrite →
    (∃ query ∈ t.actor.writtenQueries, query.command = source.command ∧ TimedOut t query) ∨
      ∀ status, .replied source.reply (.ok status) ∉ t.actor.events

theorem attributedTo_grows {query : QueryRequest} {status : ReplyValue}
    (hs : AttributedTo t query status) (h : Transition orderlyBoard config t action t') :
    AttributedTo t' query status := by
  obtain ⟨before, after, hwritten, source, hsource, hkind, hanswered, hown⟩ := hs
  obtain ⟨number, arrival, ⟨past, notification, rest, hevents, hpast⟩, harrival, hanswer⟩ :=
    hanswered
  obtain ⟨⟨es, hlog⟩, later, harrived⟩ := grows h
  obtain ⟨more, hmore⟩ := Actor.writtenQueries_append hlog
  refine ⟨before, after ++ more, ?_, source, hsource, hkind, ⟨number, arrival,
    ⟨past, notification, rest ++ es.map Entry.event, ?_, hpast⟩, ?_, hanswer⟩, ?_⟩
  · rw [hmore, hwritten, List.append_assoc, List.cons_append]
  · rw [Actor.events, hlog, List.map_append, ← Actor.events, hevents, List.append_assoc,
      List.cons_append, List.cons_append]
  · rw [harrived, List.getElem?_append_left (List.getElem?_eq_some_iff.1 harrival).1, harrival]
  · intro hnone
    refine hown fun earlier hmem hsame htimedOut => hnone earlier hmem hsame ?_
    exact Actor.mem_events_append hlog htimedOut

/-- A status response comes from the write of a query of its kind. -/
theorem source_of_answer (h : Reachable orderlyBoard config t)
    {arrival : Arrival (Option CommandWrite)} (hmem : arrival ∈ t.arrived)
    {query : QueryRequest} {status : ReplyValue}
    (hanswer : query.answerOf arrival.notification = some status) :
    ∃ source ∈ t.actor.writtenQueries, arrival.stamp = some source.ownWrite ∧
      source.command = query.command := by
  have hs := provenance h
  have hresponse : isResponseTo query.command arrival.notification = true := by
    rw [isResponseTo_command, hanswer]
    rfl
  cases hstamp : arrival.stamp with
  | none => simp [hs.unsolicited arrival hmem hstamp query] at hresponse
  | some write =>
      have hwrite : write ∈ t.actor.statusWrites :=
        hs.answered.subset (List.mem_filterMap.2 ⟨arrival, hmem, hstamp⟩)
      rw [hs.statusWrites] at hwrite
      obtain ⟨source, hsource, rfl⟩ := List.mem_map.1 hwrite
      have hsolicited := hs.solicited arrival hmem _ hstamp
      exact ⟨source, hsource, rfl, command_eq_of_isResponseTo hsolicited hresponse⟩

theorem ownWrite_injective : Function.Injective QueryRequest.ownWrite := by
  intro query query' h
  simpa [QueryRequest.ownWrite] using congrArg Prod.snd h

/-- Each write is answered once. -/
theorem answered_nodup (hs : Provenance t) (h : Actor.Reachable config t.actor) :
    t.answered.Nodup := by
  refine List.Nodup.sublist hs.answered ?_
  rw [hs.statusWrites]
  exact (Actor.queries_nodup h).map ownWrite_injective

theorem written_of_stamp (hs : Provenance t) {arrival : Arrival (Option CommandWrite)}
    (hmem : arrival ∈ t.arrived) {source : QueryRequest}
    (hstamp : arrival.stamp = some source.ownWrite) : source ∈ t.actor.writtenQueries := by
  have hwrite := hs.answered.subset (List.mem_filterMap.2 ⟨arrival, hmem, hstamp⟩)
  rw [hs.statusWrites] at hwrite
  exact (List.mem_map_of_injective ownWrite_injective).1 hwrite

/-- A query that counts as written has its write in the record. -/
theorem called_of_written (hs : Provenance t) {query : QueryRequest}
    (hwritten : query ∈ t.actor.writtenQueries) :
    .called (.writeCommand query.command) (some (.query query)) ∈ t.actor.events := by
  have hwrite : query.ownWrite ∈ t.actor.statusWrites :=
    hs.statusWrites ▸ List.mem_map_of_mem hwritten
  rw [Actor.statusWrites, Actor.extract_eq_filterMap] at hwrite
  obtain ⟨event, hmem, hevent⟩ := List.mem_filterMap.1 hwrite
  unfold Event.statusWrite at hevent
  split at hevent
  · split at hevent
    · obtain ⟨rfl, rfl⟩ := Prod.mk.inj (Option.some.inj hevent)
      exact hmem
    · cases hevent
  · cases hevent

/-- The notifications that have been taken and those that wait are all that have arrived. -/
theorem taken_add_waiting (h : Reachable orderlyBoard config t) :
    t.actor.events.countP Event.isTake + t.waiting.length = t.arrived.length := by
  refine h.induct (P := fun t => t.actor.events.countP Event.isTake + t.waiting.length
    = t.arrived.length) (fun _ => rfl) ?_
  intro t action t' _ hs hst
  cases hst with
  | arrive arrival hsends =>
      simp only [arrive, List.length_append, List.length_singleton]
      omega
  | take oldest rest actor hwaiting hactor =>
      have htaken := Actor.countP_isTake_take hactor
      rw [hwaiting, List.length_cons] at hs
      show actor.events.countP Event.isTake + rest.length = t.arrived.length
      omega
  | act action actor hother hissues hactor =>
      show actor.events.countP Event.isTake + t.waiting.length = t.arrived.length
      rw [Actor.countP_isTake_other hother hactor, hs]

/-- The oldest notification that waits is the next one in the order of arrival. -/
theorem arrived_of_waiting (h : Reachable orderlyBoard config t)
    {oldest : Arrival (Option CommandWrite)} {rest : List (Arrival (Option CommandWrite))}
    (hwaiting : t.waiting = oldest :: rest) :
    t.arrived[t.actor.events.countP Event.isTake]? = some oldest := by
  have htaken := taken_add_waiting h
  obtain ⟨past, hpast⟩ := waiting_suffix h
  have hlength := congrArg List.length hpast
  rw [List.length_append] at hlength
  have hcount : t.actor.events.countP Event.isTake = past.length := by omega
  rw [← hpast, hcount, List.getElem?_append_right (Nat.le_refl _), Nat.sub_self, hwaiting]
  rfl

/-- What becomes of the source of a response that waits while another query is active. -/
theorem timedOut_of_other (h : Reachable orderlyBoard config t) (hfresh : Fresh t)
    {arrival : Arrival (Option CommandWrite)} (hmem : arrival ∈ t.waiting) {source : QueryRequest}
    (hstamp : arrival.stamp = some source.ownWrite) (hwritten : source ∈ t.actor.writtenQueries)
    (hphase : t.actor.phase = .selecting)
    (hother : t.actor.pendingQuery.map PendingQuery.request ≠ some source) :
    ∃ query ∈ t.actor.writtenQueries, query.command = source.command ∧ TimedOut t query := by
  rcases Actor.answered_of_written h.actor hphase hwritten hother with ⟨status, hok⟩ | htimedOut
  · rcases hfresh arrival hmem source hstamp with htimedOut | hnone
    · exact htimedOut
    · exact absurd hok (hnone status)
  · exact ⟨source, hwritten, rfl, htimedOut⟩

/-- The response that answers a query. -/
theorem attributedTo_of_take (h : Reachable orderlyBoard config t) (hfresh : Fresh t)
    {oldest : Arrival (Option CommandWrite)} {rest : List (Arrival (Option CommandWrite))}
    (hwaiting : t.waiting = oldest :: rest) {query : QueryRequest} {deadline : Instant}
    {status : ReplyValue} {actor : Actor ε} (hphase : t.actor.phase = .selecting)
    (hpending : t.actor.pendingQuery = some ⟨query, deadline⟩)
    (hanswer : query.answerOf oldest.notification = some status)
    (hst : Actor.Transition config t.actor (.notification (.ok oldest.notification)) actor) :
    AttributedTo { t with actor, waiting := rest } query status := by
  have hmem : oldest ∈ t.waiting := by simp [hwaiting]
  have harrived := (waiting_suffix h).subset hmem
  obtain ⟨source, hsource, hstamp, hkind⟩ := source_of_answer h harrived hanswer
  have hlast := Actor.lastWritten h.actor query (.inr ⟨deadline, hpending⟩)
  obtain ⟨before, hwritten⟩ := List.getLast?_eq_some_iff.1 hlast
  obtain ⟨more, hevents, hwrites⟩ := Actor.resolved_step hst hpending hanswer
  refine ⟨before, [], hwrites.trans hwritten, source, hwritten ▸ hsource, hkind,
    ⟨_, oldest, ⟨t.actor.events, oldest.notification, more, hevents, rfl, ?_, ?_⟩,
      arrived_of_waiting h hwaiting, hstamp, hanswer⟩, ?_⟩
  · exact called_of_written (provenance h) (hwritten ▸ List.mem_append_right _ List.mem_cons_self)
  · exact Actor.not_replied_of_pending h.actor hpending
  intro hnone
  by_contra hother
  obtain ⟨earlier, hearlier, hsame, htimedOut⟩ := timedOut_of_other h hfresh hmem hstamp hsource
    hphase (by simpa [hpending, eq_comm] using hother)
  rw [hwritten] at hearlier
  have hbefore : TimedOut t earlier := by
    have hreplied : .replied earlier.reply (.error .requestTimedOut) ∈ t.actor.events := htimedOut
    exact hreplied
  rcases List.mem_append.1 hearlier with hearlier | hearlier
  · refine hnone earlier hearlier (hsame.trans hkind) ?_
    show _ ∈ actor.events
    rw [hevents]
    exact List.mem_append_left _ hbefore
  · -- the active query itself has not timed out
    obtain rfl := List.mem_singleton.1 hearlier
    exact Actor.not_replied_of_pending h.actor hpending _ hbefore

/-- Every status received so far is attributed to a write. -/
def Attributed (t : Inbox ε (Option CommandWrite)) : Prop :=
  ∀ query status, .enqueued (.query query) ∈ t.actor.events →
    .replied query.reply (.ok status) ∈ t.actor.events → AttributedTo t query status

/-- A new response answers a write that has not been answered, so its query has no answer. -/
theorem fresh_arrive (h : Reachable orderlyBoard config t) (hs : Fresh t)
    (hattributed : Attributed t) {arrival : Arrival (Option CommandWrite)}
    (hsends : orderlyBoard.sends t arrival = true) :
    Fresh (t.arrive arrival) := by
  intro arrival' hmem source hstamp
  rcases List.mem_append.1 hmem with hmem | hmem
  · exact hs arrival' hmem source hstamp
  obtain rfl := List.mem_singleton.1 hmem
  have hprovenance := provenance_arrive (provenance h) hsends
  have hwritten := written_of_stamp hprovenance (List.mem_append_right _ hmem) hstamp
  have hnodup : (t.answered ++ [source.ownWrite]).Nodup := by
    have hnodup := answered_nodup hprovenance h.actor
    simpa [answered, arrive, hstamp] using hnodup
  by_cases htimedOut : ∃ query ∈ t.actor.writtenQueries, query.command = source.command ∧
      TimedOut t query
  · exact .inl htimedOut
  right
  intro status hok
  obtain ⟨henqueued, -⟩ := Actor.called_of_written h.actor hwritten
  obtain ⟨before, after, hsplit, source', -, -, ⟨number, answer, -, harrived, hanswerStamp, -⟩,
    hown⟩ := hattributed source status henqueued hok
  have hsame : source' = source := by
    refine hown fun earlier hearlier hkind hto => htimedOut ⟨earlier, ?_, hkind, hto⟩
    simp [hsplit, hearlier]
  rw [hsame] at hanswerStamp
  have hanswered : source.ownWrite ∈ t.answered :=
    List.mem_filterMap.2 ⟨answer, List.mem_of_getElem? harrived, hanswerStamp⟩
  exact (List.nodup_append.1 hnodup).2.2 _ hanswered _ (List.mem_singleton_self _) rfl

/-- A step of the actor answers no query whose response waits on, unless a query of its kind has
    timed out. -/
theorem fresh_step (h : Reachable orderlyBoard config t) (hs : Fresh t) {a : Action ε}
    {actor : Actor ε} {waiting : List (Arrival (Option CommandWrite))}
    (hwaiting : ∀ arrival ∈ waiting, arrival ∈ t.waiting)
    (hst : Actor.Transition config t.actor a actor)
    (hanswered : ∀ arrival ∈ waiting, ∀ (source : QueryRequest) status notification deadline,
      arrival.stamp = some source.ownWrite → a = .notification (.ok notification) →
      t.actor.phase = .selecting → t.actor.pendingQuery = some ⟨source, deadline⟩ →
      source.answerOf notification = some status →
      ∃ query ∈ t.actor.writtenQueries, query.command = source.command ∧ TimedOut t query) :
    Fresh { t with actor, waiting } := by
  intro arrival hmem source hstamp
  obtain ⟨es, hlog⟩ := Actor.log_step hst
  obtain ⟨more, hmore⟩ := Actor.writtenQueries_append hlog
  have hgrows : (∃ query ∈ t.actor.writtenQueries, query.command = source.command ∧
      TimedOut t query) → ∃ query ∈ actor.writtenQueries, query.command = source.command ∧
        TimedOut { t with actor, waiting } query := by
    rintro ⟨query, hquery, hkind, htimedOut⟩
    exact ⟨query, by simp [hmore, hquery], hkind, Actor.mem_events_append hlog htimedOut⟩
  rcases hs arrival (hwaiting arrival hmem) source hstamp with htimedOut | hnone
  · exact .inl (hgrows htimedOut)
  by_cases hok : ∃ status, .replied source.reply (.ok status) ∈ actor.events
  · left
    obtain ⟨status, hok⟩ := hok
    have hwritten := written_of_stamp (provenance h)
      ((waiting_suffix h).subset (hwaiting arrival hmem)) hstamp
    have henqueued := Actor.mem_events_append hlog (Actor.called_of_written h.actor hwritten).1
    rcases Actor.ok_step h.actor hst henqueued hok with
      ⟨-, hok⟩ | ⟨notification, deadline, ha, hphase, hpending, hanswer⟩
    · exact absurd hok (hnone status)
    · exact hgrows (hanswered arrival hmem source status notification deadline hstamp ha hphase
        hpending hanswer)
  · exact .inr (not_exists.1 hok)

theorem fresh_take (h : Reachable orderlyBoard config t) (hs : Fresh t)
    {oldest : Arrival (Option CommandWrite)} {rest : List (Arrival (Option CommandWrite))}
    {actor : Actor ε} (hwaiting : t.waiting = oldest :: rest)
    (hst : Actor.Transition config t.actor (.notification (.ok oldest.notification)) actor) :
    Fresh { t with actor, waiting := rest } := by
  refine fresh_step h hs (fun arrival hmem => hwaiting ▸ List.mem_cons_of_mem _ hmem) hst ?_
  intro arrival hmem source status notification deadline hstamp ha hphase hpending hanswer
  obtain rfl : oldest.notification = notification := by simpa using ha
  have holdest : oldest ∈ t.waiting := by simp [hwaiting]
  obtain ⟨source', hwritten, hstamp', hkind⟩ :=
    source_of_answer h ((waiting_suffix h).subset holdest) hanswer
  -- the response taken is another one, since each write is answered once
  have hne : source' ≠ source := by
    rintro rfl
    have hnodup := answered_nodup (provenance h) h.actor
    have hwaits : (t.waiting.filterMap Arrival.stamp).Nodup :=
      hnodup.sublist ((waiting_suffix h).sublist.filterMap _)
    rw [hwaiting, List.filterMap_cons_some hstamp', List.nodup_cons] at hwaits
    exact hwaits.1 (List.mem_filterMap.2 ⟨arrival, hmem, hstamp⟩)
  obtain ⟨query, hquery, hsame, htimedOut⟩ := timedOut_of_other h hs holdest hstamp' hwritten hphase
    (by simpa [hpending, eq_comm] using hne)
  exact ⟨query, hquery, hsame.trans hkind, htimedOut⟩

theorem fresh_act (h : Reachable orderlyBoard config t) (hs : Fresh t) {a : Action ε}
    {actor : Actor ε} (hother : ∀ notification, a ≠ .notification (.ok notification))
    (hst : Actor.Transition config t.actor a actor) : Fresh { t with actor } := by
  refine fresh_step h hs (fun _ hmem => hmem) hst ?_
  intro arrival _ source status notification deadline _ ha
  exact absurd ha (hother notification)

theorem attributed_step (h : Reachable orderlyBoard config t) (hfresh : Fresh t)
    (hs : Attributed t) (hst : Transition orderlyBoard config t action t') : Attributed t' := by
  intro query status henqueued hok
  have hold : .enqueued (.query query) ∈ t.actor.events →
      .replied query.reply (.ok status) ∈ t.actor.events → AttributedTo t' query status :=
    fun henqueued hok => attributedTo_grows (hs query status henqueued hok) hst
  cases hst with
  | arrive arrival hsends => exact hold henqueued hok
  | take oldest rest actor hwaiting hactor =>
      rcases Actor.ok_step h.actor hactor henqueued hok with
        ⟨henqueued, hok⟩ | ⟨notification, deadline, ha, hphase, hpending, hanswer⟩
      · exact hold henqueued hok
      · obtain rfl : oldest.notification = notification := by simpa using ha
        exact attributedTo_of_take h hfresh hwaiting hphase hpending hanswer hactor
  | act a actor hother hissues hactor =>
      rcases Actor.ok_step h.actor hactor henqueued hok with
        ⟨henqueued, hok⟩ | ⟨notification, deadline, ha, -⟩
      · exact hold henqueued hok
      · exact absurd ha (hother notification)

theorem attributed (h : Reachable orderlyBoard config t) : Attributed t := by
  refine (h.induct (P := fun t => Fresh t ∧ Attributed t) ?_ ?_).2
  · intro now
    refine ⟨?_, ?_⟩
    · intro arrival hmem
      cases hmem
    · intro query status henqueued
      simp [start, Actor.runActor, Actor.events] at henqueued
  · rintro t action t' hreach ⟨hfresh, hs⟩ hst
    refine ⟨?_, attributed_step hreach hfresh hs hst⟩
    cases hst with
    | arrive arrival hsends => exact fresh_arrive hreach hfresh hs hsends
    | take oldest rest actor hwaiting hactor => exact fresh_take hreach hfresh hwaiting hactor
    | act a actor hother hissues hactor => exact fresh_act hreach hfresh hother hactor

/-- A response to another write that answers the query is a late response to it. -/
theorem AnsweredBy.late {query source : QueryRequest} {status : ReplyValue}
    (h : AnsweredBy t query status source) : LateResponse t query source := by
  obtain ⟨number, arrival, ⟨before, notification, after, hevents, hbefore⟩, harrival, hstamp, -⟩ :=
    h
  exact ⟨number, arrival, ⟨before, notification, _, hevents, hbefore⟩, harrival, hstamp⟩

/-- Each write is answered by one arrival. -/
theorem number_eq_of_stamp (h : Reachable orderlyBoard config t) {number number' : Nat}
    {arrival arrival' : Arrival (Option CommandWrite)} {write : CommandWrite}
    (harrival : t.arrived[number]? = some arrival) (harrival' : t.arrived[number']? = some arrival')
    (hstamp : arrival.stamp = some write) (hstamp' : arrival'.stamp = some write) :
    number = number' := by
  have hdistinct := List.pairwise_filterMap.1 (answered_nodup (provenance h) h.actor)
  rw [List.pairwise_iff_getElem] at hdistinct
  obtain ⟨hlt, rfl⟩ := List.getElem?_eq_some_iff.1 harrival
  obtain ⟨hlt', rfl⟩ := List.getElem?_eq_some_iff.1 harrival'
  rcases Nat.lt_trichotomy number number' with hless | heq | hmore
  · exact absurd rfl (hdistinct _ _ hlt hlt' hless write hstamp write hstamp')
  · exact heq
  · exact absurd rfl (hdistinct _ _ hlt' hlt hmore write hstamp' write hstamp)

/-- No response answers two queries. -/
theorem AnsweredBy.inj (h : Reachable orderlyBoard config t) {query query' source : QueryRequest}
    {status status' : ReplyValue} (henqueued : .enqueued (.query query) ∈ t.actor.events)
    (henqueued' : .enqueued (.query query') ∈ t.actor.events)
    (hanswered : AnsweredBy t query status source)
    (hanswered' : AnsweredBy t query' status' source) : query = query' := by
  obtain ⟨number, arrival, ⟨before, notification, after, hevents, hcount, -⟩, harrival, hstamp,
    -⟩ := hanswered
  obtain ⟨number', arrival', ⟨before', notification', after', hevents', hcount', -⟩, harrival',
    hstamp', -⟩ := hanswered'
  obtain rfl := number_eq_of_stamp h harrival harrival' hstamp hstamp'
  obtain ⟨-, -, hrest⟩ := eq_of_countP_eq (p := Event.isTake) (hevents.symm.trans hevents') rfl rfl
    (hcount.trans hcount'.symm)
  have hreply : query.reply = query'.reply := by
    have hreplied := (List.cons.inj hrest).1
    injection hreplied
  have hmessage := List.inj_on_of_nodup_map (Actor.identities_nodup h.actor)
    (Actor.mem_enqueuedMessages.2 henqueued) (Actor.mem_enqueuedMessages.2 henqueued') hreply
  injection hmessage

/-- What the statuses received so far come from. -/
structure Correlated (t : Inbox ε (Option CommandWrite)) : Prop where
  /-- Each of them from a response to a query of the kind, as `CorrelatedTo` says. -/
  source : ∀ query status, .enqueued (.query query) ∈ t.actor.events →
    .replied query.reply (.ok status) ∈ t.actor.events → CorrelatedTo t query status
  /-- No two of them from the same one. -/
  distinct : ∀ query query' status status' source, .enqueued (.query query) ∈ t.actor.events →
    .enqueued (.query query') ∈ t.actor.events → AnsweredBy t query status source →
      AnsweredBy t query' status' source → query = query'

/-- **A query gets the response to a write of its kind, no two get the same one, and a query gets
    its own** unless a response to an earlier query of its kind is taken while it is active. -/
theorem correlated (h : Reachable orderlyBoard config t) : Correlated t := by
  refine ⟨fun query status henqueued hok => ?_, fun query query' status status' source => ?_⟩
  · obtain ⟨before, after, hwritten, source, hsource, hkind, hanswered, hown⟩ :=
      attributed h query status henqueued hok
    refine ⟨before, after, hwritten, source, hsource, hkind, hanswered, fun hnone => ?_, hown⟩
    rcases List.mem_append.1 hsource with hearlier | hsame
    · exact absurd hanswered.late (hnone source hearlier hkind)
    · exact List.mem_singleton.1 hsame
  · exact AnsweredBy.inj h

end Board

/-- Every status received is the payload of the response to the query's own write. -/
def OwnResponses (t : Inbox ε (Option CommandWrite)) : Prop :=
  ∀ query status, .enqueued (.query query) ∈ t.actor.events →
    .replied query.reply (.ok status) ∈ t.actor.events → AnsweredFrom t query status query

/-- The first query times out, a second one is written, and the response to the first arrives. -/
def lateRun : List (InboxAction Unit (Option CommandWrite)) :=
  queryWaits ++ [.act (.tick ActorConfig.default.requestTimeout), .act .deadlineElapsed,
    .act .proceed, .act .reserve, .act (.enqueue .batteryStatus), .act .receive,
    .act (.callReturned (.ok ())), .act .proceed,
    .arrive ⟨some (QueryRequest.battery 0).ownWrite,
      ⟨.commandResponse, [0x41, 0x03, 0x0c, 0x01, 74]⟩⟩,
    .act (.notification (.ok ⟨.commandResponse, [0x41, 0x03, 0x0c, 0x01, 74]⟩))]

/-- The second query gets the late response to the first. -/
theorem lateRun_not_own :
    ∃ t, runFrom orderlyBoard ActorConfig.default .zero lateRun = some t ∧ ¬ OwnResponses t := by
  obtain ⟨t, hrun, henqueued, hok, harrived⟩ :
      ∃ t, runFrom orderlyBoard ActorConfig.default .zero lateRun = some t ∧
        .enqueued (.query (.battery 1)) ∈ t.actor.events ∧
        .replied 1 (.ok (.batteryStatus ⟨true, 74⟩)) ∈ t.actor.events ∧
        t.arrived.map Arrival.stamp = [some (QueryRequest.battery 0).ownWrite] :=
    ⟨_, rfl, by decide, by decide, rfl⟩
  refine ⟨t, hrun, fun hown => ?_⟩
  obtain ⟨arrival, hmem, hstamp, -⟩ := hown (.battery 1) _ henqueued hok
  have hother := List.mem_map_of_mem (f := Arrival.stamp) hmem
  rw [harrived, hstamp] at hother
  simp [QueryRequest.ownWrite] at hother

theorem lateRun_correlated :
    ∃ t, runFrom orderlyBoard ActorConfig.default .zero lateRun = some t ∧
      t.actor.writtenQueries = [.battery 0, .battery 1] ∧ Correlated t := by
  have hrun : runFrom orderlyBoard ActorConfig.default .zero lateRun = some _ := rfl
  exact ⟨_, hrun, rfl, correlated (.of_runFrom hrun)⟩

end Inbox

end ChessnutMove.Tokio
