import ChessnutMove.Library.Ledger
import ChessnutMove.Tokio.Slots

set_option autoImplicit false

/-! # Every request is answered once

The oneshot identities are the tickets of a ledger. `held` lists the requests the actor still has
to answer, each with what has happened to it so far; `Answered` lists the ways a request can end.
The ledger holds in every state that is not the unwinding of a panic, so once `run_actor` has
returned and nothing waits any more, each request has gone one of these ways. -/

namespace ChessnutMove.Tokio

variable {ε : Type}

/-! ## Stories of requests -/

/-- The request an event enqueues. -/
def Event.enqueuedId : Event ε → Option ReplyId
  | .enqueued message => some message.reply
  | _ => none

/-- The oneshot an event sends a value on. -/
def Event.repliedId : Event ε → Option ReplyId
  | .replied reply _ => some reply
  | _ => none

/-- The request an event concerns. -/
def Event.about : Event ε → Option ReplyId
  | .enqueued message => some message.reply
  | .received message => some message.reply
  | .called _ owner => owner.map Message.reply
  | .returned _ owner _ => owner.map Message.reply
  | .replied reply _ => some reply
  | .nextNotification | .notified _ | .published _ | .lifecycle _ => none

/-- The events up to the write made for a message. -/
def writing (message : Message) (command : Command) : List (Event ε) :=
  [.enqueued message, .received message, .called (.writeCommand command) (some message)]

/-- The complete stories of a request, by its identity: how it can have been answered. -/
inductive Answered : ReplyId → List (Event ε) → Prop
  | rejected (message : Message) :
      Answered message.reply [.enqueued message, .received message,
        .replied message.reply (.error .shuttingDown)]
  | sent (command : Command) (reply : ReplyId) :
      Answered reply (writing (.send command reply) command ++
        [.returned (.writeCommand command) (some (.send command reply)) (.ok ()),
          .replied reply (.ok .done)])
  | sendFailed (command : Command) (reply : ReplyId) (error : ε) :
      Answered reply (writing (.send command reply) command ++
        [.returned (.writeCommand command) (some (.send command reply)) (.error error),
          .replied reply (.error .transportFailed)])
  | refused (query : QueryRequest) :
      Answered query.reply [.enqueued (.query query), .received (.query query),
        .replied query.reply (.error .queryQueueFull)]
  | queryFailed (query : QueryRequest) (error : ε) :
      Answered query.reply (writing (.query query) query.command ++
        [.returned (.writeCommand query.command) (some (.query query)) (.error error),
          .replied query.reply (.error .transportFailed)])
  | queryEnded (query : QueryRequest) (value : Reply)
      (hvalue : .error .queryQueueFull ≠ value ∧ .error .transportFailed ≠ value) :
      Answered query.reply (writing (.query query) query.command ++
        [.returned (.writeCommand query.command) (some (.query query)) (.ok ()),
          .replied query.reply value])
  | subscribed (reply : ReplyId) (value : ReplyValue) :
      Answered reply [.enqueued (.subscribeEvents reply), .received (.subscribeEvents reply),
        .replied reply (.ok value)]
  | shutDown (reply : ReplyId) (value : Reply) :
      Answered reply [.enqueued (.shutdown reply), .received (.shutdown reply),
        .replied reply value]

/-- The story of an active query ends with its reply. -/
theorem Answered.of_active {query : QueryRequest} {value : Reply}
    (hvalue : .error .queryQueueFull ≠ value ∧ .error .transportFailed ≠ value) :
    Answered query.reply (writing (.query query) query.command ++
      [.returned (.writeCommand query.command) (some (.query query)) (.ok () : Except ε Unit)] ++
        [.replied query.reply value]) := by
  rw [List.append_assoc]
  exact .queryEnded query value hvalue

theorem Answered.count_enqueuedId {reply : ReplyId} {events : List (Event ε)}
    (h : Answered reply events) : (events.filterMap Event.enqueuedId).count reply = 1 := by
  cases h <;> simp [writing, List.filterMap_cons, Event.enqueuedId, Message.reply]

theorem Answered.count_repliedId {reply : ReplyId} {events : List (Event ε)}
    (h : Answered reply events) : (events.filterMap Event.repliedId).count reply = 1 := by
  cases h <;> simp [writing, List.filterMap_cons, Event.repliedId]

theorem Answered.replied {reply : ReplyId} {events : List (Event ε)} (h : Answered reply events) :
    ∃ value, .replied reply value ∈ events := by
  cases h <;> simp [writing]

theorem Answered.reply_unique {reply : ReplyId} {events : List (Event ε)} {value value' : Reply}
    (h : Answered reply events) (hmem : .replied reply value ∈ events)
    (hmem' : .replied reply value' ∈ events) : value = value' := by
  cases h <;> simp_all [writing]

/-- The reply to a `Send` tells what became of its write. -/
def SendTruthful (events : List (Event ε)) (command : Command) (reply : ReplyId) : Prop :=
  let write := TransportCall.writeCommand command
  let owner := some (Message.send command reply)
  ((∃ value, .replied reply (.ok value) ∈ events) ↔ .returned write owner (.ok ()) ∈ events) ∧
  (.replied reply (.error .transportFailed) ∈ events ↔
    ∃ error, .returned write owner (.error error) ∈ events) ∧
  (.replied reply (.error .shuttingDown) ∈ events → ∀ call, .called call owner ∉ events)

/-- The failure of a query tells what became of its write. -/
def QueryTruthful (events : List (Event ε)) (query : QueryRequest) : Prop :=
  let owner := some (Message.query query)
  (.replied query.reply (.error .queryQueueFull) ∈ events → ∀ call, .called call owner ∉ events) ∧
  (.replied query.reply (.error .transportFailed) ∈ events →
    ∃ error, .returned (.writeCommand query.command) owner (.error error) ∈ events)

theorem Answered.sendTruthful {i reply : ReplyId} {command : Command} {events : List (Event ε)}
    (h : Answered i events) (henqueued : .enqueued (.send command reply) ∈ events) :
    SendTruthful events command reply := by
  cases h <;> simp_all [SendTruthful, writing]

theorem Answered.queryTruthful {i : ReplyId} {query : QueryRequest} {events : List (Event ε)}
    (h : Answered i events) (henqueued : .enqueued (.query query) ∈ events) :
    QueryTruthful events query := by
  cases h <;> simp_all [QueryTruthful, writing]

namespace Actor

/-! ## The requests the actor holds -/

/-- The request whose write the task is suspended at. -/
def heldByWrite : Phase → List (ReplyId × List (Event ε))
  | .startingQuery query => [(query.reply, writing (.query query) query.command)]
  | .sending command reply => [(reply, writing (.send command reply) command)]
  | _ => []

/-- The requests the actor still has to answer, with what happened to each so far. -/
def held (s : Actor ε) : List (ReplyId × List (Event ε)) :=
  heldByWrite s.phase ++
  (s.pendingQuery.toList.map fun p => (p.request.reply,
    writing (.query p.request) p.request.command ++
      [.returned (.writeCommand p.request.command) (some (.query p.request)) (.ok ())])) ++
  (s.shutdownReply.toList.map fun reply =>
    (reply, [.enqueued (.shutdown reply), .received (.shutdown reply)])) ++
  (s.queuedQueries.map fun query =>
    (query.reply, [.enqueued (.query query), .received (.query query)])) ++
  s.requestRx.queue.map fun message => (message.reply, [.enqueued message])

section Places

variable {s : Actor ε}

/-! Taking a request out of its place takes its ticket out of the list. -/

theorem held_pop {message : Message} {waiting : List Message}
    (hqueue : s.requestRx.queue = message :: waiting) :
    (held s).Perm ((message.reply, [.enqueued message]) ::
      held { s with requestRx := s.requestRx.pop }) := by
  simp only [held, BoundedChannel.queue_pop, hqueue, List.map_cons, List.tail_cons]
  exact List.perm_middle

theorem held_queued {query : QueryRequest} (before after : List QueryRequest)
    (hqueued : s.queuedQueries = before ++ query :: after) :
    (held s).Perm ((query.reply, [.enqueued (.query query), .received (.query query)]) ::
      held { s with queuedQueries := before ++ after }) := by
  classical
  simp only [List.perm_iff_count, held, hqueued, List.map_append, List.map_cons, List.count_append,
    List.count_cons]
  intro ticket
  omega

theorem held_pending {query : PendingQuery} (hpending : s.pendingQuery = some query) :
    (held s).Perm ((query.request.reply,
        writing (.query query.request) query.request.command ++
          [.returned (.writeCommand query.request.command) (some (.query query.request))
            (.ok ())]) :: held { s with pendingQuery := none }) := by
  classical
  simp only [List.perm_iff_count, held, hpending, Option.toList_some, Option.toList_none,
    List.map_cons, List.map_nil, List.count_append, List.count_cons, List.count_nil]
  intro ticket
  omega

theorem held_shutdown {reply : ReplyId} (hreply : s.shutdownReply = some reply) :
    (held s).Perm ((reply, [.enqueued (.shutdown reply), .received (.shutdown reply)]) ::
      held { s with shutdownReply := none }) := by
  classical
  simp only [List.perm_iff_count, held, hreply, Option.toList_some, Option.toList_none,
    List.map_cons, List.map_nil, List.count_append, List.count_cons, List.count_nil]
  intro ticket
  omega

theorem held_writing {ticket : ReplyId × List (Event ε)} (h : heldByWrite s.phase = [ticket]) :
    (held s).Perm (ticket :: held { s with phase := .selecting }) := by
  simp only [held, h]
  rfl

end Places

/-- The books of the actor. -/
def Books (s : Actor ε) : Prop := Ledger Event.about Answered (held s) s.nextReply s.events

/-- A panicked task stays panicked. -/
theorem panicked_step {config : ActorConfig} {s s' : Actor ε} {action : Action ε} {panic : Panic}
    (hs : s.phase = .panicked panic) (h : Transition config s action s') :
    s'.phase = .panicked panic := by
  cases h <;> simp_all

theorem books_step {config : ActorConfig} {s s' : Actor ε} {action : Action ε} (hslots : Slots s)
    (hs : Books s) (h : Transition config s action s') (hs' : ∀ panic, s'.phase ≠ .panicked panic) :
    Books s' := by
  unfold Books at hs ⊢
  unfold Slots at hslots
  cases h with
  | enqueue request hreceives h =>
      rw [events_record]
      refine (hs.issue ?_).perm ?_
      · simp [Event.about]
      · simp only [held, phase_record, pendingQuery_record, shutdownReply_record,
          queuedQueries_record, requestRx_record, BoundedChannel.queue_push, List.map_append,
          ← List.append_assoc]
        simp only [story, Event.about, Request.reply_message, decide_true, List.filter_cons_of_pos,
          List.filter_nil, List.map_cons, List.map_nil]
        exact (List.perm_append_singleton _ _).symm
  | reserve | cloneHandle | dropHandle | tick => exact hs
  -- the steps that concern no request
  | handlesDropped hphase | closeRequests hphase =>
      refine hs.perm ?_
      simp [held, hphase, heldByWrite]
  | initializeFailed | initializeNext | initialized | select | notificationFailed | observed
  | shutDown | startCleanup | cleanupFailed | cleanupNext | cleanedUp =>
      rw [events_record]
      refine (hs.frame ?_).perm ?_
      · simp [Event.about]
      · simp_all [held, heldByWrite]
  -- a write starts
  | startQueued query rest hphase hpending hqueued =>
      rw [hphase] at hslots
      rw [events_record]
      refine hs.carry_all (held_queued [] rest hqueued) ?_ ?_
      · simp [Event.about, Message.reply]
      · simp [held, hphase, hpending, hslots, heldByWrite, writing]
  | receiveFirstQuery query waiting hphase hqueue hpending hqueued =>
      rw [events_record]
      refine hs.carry_all (held_pop hqueue) ?_ ?_
      · simp [Event.about, Message.reply]
      · simp [held, hphase, heldByWrite, writing, Message.reply]
  | receiveSend command reply waiting hphase hqueue =>
      rw [events_record]
      refine hs.carry_all (held_pop hqueue) ?_ ?_
      · simp [Event.about, Message.reply]
      · simp [held, hphase, heldByWrite, writing, Message.reply]
  -- a write ends
  | queryFailed query error hphase =>
      rw [events_record]
      refine hs.settle_all (held_writing (by rw [hphase]; rfl)) ?_ (.queryFailed query error) ?_
      · simp [Event.about, Message.reply]
      · simp [held, heldByWrite]
  | queryOverflowed => exact absurd rfl (hs' .deadlineOverflow)
  | queryStarted query deadline hphase hdeadline =>
      rw [hphase] at hslots
      rw [events_record]
      refine hs.carry_all (held_writing (by rw [hphase]; rfl)) ?_ ?_
      · simp [Event.about, Message.reply]
      · simp [held, hslots, heldByWrite]
  | sent command reply hphase =>
      rw [events_record]
      refine hs.settle_all (held_writing (by rw [hphase]; rfl)) ?_ (.sent command reply) ?_
      · simp [Event.about, Message.reply]
      · simp [held, heldByWrite]
  | sendFailed command reply error hphase =>
      rw [events_record]
      refine hs.settle_all (held_writing (by rw [hphase]; rfl)) ?_
        (.sendFailed command reply error) ?_
      · simp [Event.about, Message.reply]
      · simp [held, heldByWrite]
  -- a message finds its place
  | receiveQueued query waiting hphase hqueue hbusy hroom =>
      rw [events_record]
      refine hs.carry_all (held_pop hqueue) ?_ ?_
      · simp [Event.about, Message.reply]
      · refine (held_queued s.queuedQueries [] rfl).trans (.of_eq ?_)
        simp [held, hphase, heldByWrite, Message.reply]
  | receiveRefused query waiting hphase hqueue hbusy hfull =>
      rw [events_record]
      refine hs.settle_all (held_pop hqueue) ?_ (.refused query) ?_
      · simp [Event.about, Message.reply]
      · simp [held, hphase, heldByWrite]
  | receiveSubscribe reply waiting hphase hqueue =>
      rw [events_record]
      refine hs.settle_all (held_pop hqueue) ?_ (.subscribed reply _) ?_
      · simp [Event.about, Message.reply]
      · simp [held, hphase, heldByWrite]
  | receiveShutdown reply waiting hphase hqueue =>
      rw [hphase] at hslots
      rw [events_record]
      refine hs.carry_all (held_pop hqueue) ?_ ?_
      · simp [Event.about, Message.reply]
      · simp [held, hphase, hslots, heldByWrite, Message.reply]
  -- the active query ends
  | resolved notification query value event hphase hpending hanswer hevent =>
      rw [events_record]
      refine hs.settle (held_pending hpending) ?_ ?_ ?_
      · simp [Event.about]
      · -- the notification and what is published concern no request
        have hstory : story Event.about query.request.reply
            [.notified (.ok notification), .replied query.request.reply (.ok value),
              .published (.ok event)] = [(.replied query.request.reply (.ok value) : Event ε)] := by
          simp [story, Event.about]
        rw [hstory]
        exact .of_active (by simp)
      · simp [held, hphase, heldByWrite]
  | timedOut query hphase hpending hdeadline =>
      rw [events_record]
      refine hs.settle_all (held_pending hpending) ?_ (.of_active (by simp)) ?_
      · simp [Event.about]
      · simp [held, hphase, heldByWrite]
  | rejectActive query hphase hpending =>
      rw [events_record]
      refine hs.settle_all (held_pending hpending) ?_ (.of_active (by simp)) ?_
      · simp [Event.about]
      · simp [held, hphase, heldByWrite]
  -- what waits is rejected
  | rejectQueued query rest hphase hpending hqueued =>
      rw [events_record]
      refine hs.settle_all (held_queued [] rest hqueued) ?_ (.rejected (.query query)) ?_
      · simp [Event.about, Message.reply]
      · simp [held, hphase, heldByWrite]
  | rejectMessage message waiting hphase hpending hqueued hqueue =>
      rw [events_record]
      refine hs.settle_all (held_pop hqueue) ?_ (.rejected message) ?_
      · simp [Event.about, Message.reply]
      · simp [held, hphase, heldByWrite]
  | finish hphase =>
      rw [hphase] at hslots
      rw [events_record]
      cases hreply : s.shutdownReply with
      | none =>
          refine (hs.frame ?_).perm ?_
          · simp [Event.about]
          · simp [held, hphase, heldByWrite, hreply]
      | some reply =>
          refine hs.settle (held_shutdown hreply) ?_ ?_ ?_
          · simp [Event.about]
          · simpa [story, Event.about] using Answered.shutDown reply _
          · simp [held, hphase, heldByWrite]

theorem books {config : ActorConfig} {s : Actor ε} (h : Reachable config s)
    (hs : ∀ panic, s.phase ≠ .panicked panic) : Books s := by
  refine h.induct (P := fun s => (∀ panic, s.phase ≠ .panicked panic) → Books s) ?_ ?_ hs
  · intro now _
    have hstart := Ledger.start (Event.about (ε := ε)) Answered
    exact hstart.frame (by simp [Event.about])
  · intro s action s' hreach hbooks hst hs'
    refine books_step (slots hreach) (hbooks fun panic hphase => ?_) hst hs'
    exact hs' panic (panicked_step hphase hst)

/-- A request the actor still holds has no reply. -/
theorem not_replied_of_held {s : Actor ε} (hbooks : Books s) {ticket : ReplyId × List (Event ε)}
    (hheld : ticket ∈ held s) (value : Reply) : .replied ticket.1 value ∉ s.events := by
  intro hmem
  have hstory : .replied ticket.1 value ∈ story Event.about ticket.1 s.events :=
    mem_story.2 ⟨hmem, rfl⟩
  rw [hbooks.story_eq ticket hheld] at hstory
  simp only [held, List.mem_append, List.mem_map] at hheld
  rcases hheld with (((hwrite | ⟨active, -, rfl⟩) | ⟨reply, -, rfl⟩) | ⟨query, -, rfl⟩) |
    ⟨message, -, rfl⟩
  · cases hphase : s.phase <;> simp_all [heldByWrite, writing]
  · simp [writing] at hstory
  · simp at hstory
  · simp at hstory
  · simp at hstory

/-- An active query has no reply. -/
theorem not_replied_of_pending {config : ActorConfig} {s : Actor ε} (h : Reachable config s)
    {active : PendingQuery} (hpending : s.pendingQuery = some active) (value : Reply) :
    .replied active.request.reply value ∉ s.events := by
  have hbooks := books h fun panic hphase => by
    have hslots := slots h
    rw [Slots, hphase] at hslots
    simp [hpending] at hslots
  exact not_replied_of_held hbooks ((held_pending hpending).mem_iff.2 List.mem_cons_self) value

/-- A request that occurs in the log is held or has a complete story. -/
theorem held_or_answered {s : Actor ε} (hbooks : Books s) {event : Event ε} {reply : ReplyId}
    (hmem : event ∈ s.events) (habout : event.about = some reply) :
    (∃ events, (reply, events) ∈ held s ∧ event ∈ events) ∨
      Answered reply (story Event.about reply s.events) := by
  have hstory : event ∈ story Event.about reply s.events := mem_story.2 ⟨hmem, habout⟩
  have hissued : reply < s.nextReply := by
    by_contra hfresh
    rw [hbooks.fresh reply (Nat.le_of_not_lt hfresh)] at hstory
    cases hstory
  by_cases hheld : reply ∈ (held s).map Prod.fst
  · left
    obtain ⟨⟨_, events⟩, hticket, rfl⟩ := List.mem_map.1 hheld
    rw [hbooks.story_eq _ hticket] at hstory
    exact ⟨events, hticket, hstory⟩
  · exact .inr (hbooks.closed reply hissued hheld)

/-- A request that was answered has a complete story. -/
theorem answered_of_replied {s : Actor ε} (hbooks : Books s) {reply : ReplyId} {value : Reply}
    (hmem : .replied reply value ∈ s.events) :
    Answered reply (story Event.about reply s.events) := by
  rcases held_or_answered hbooks hmem rfl with ⟨events, hheld, -⟩ | hanswered
  · exact absurd hmem (not_replied_of_held hbooks hheld value)
  · exact hanswered

/-! ## The requests and replies of a run -/

/-- The requests that entered the channel. -/
def enqueuedIds (s : Actor ε) : List ReplyId := s.events.filterMap Event.enqueuedId

/-- The oneshots a value was sent on. -/
def repliedIds (s : Actor ε) : List ReplyId := s.events.filterMap Event.repliedId

theorem held_of_returned {s : Actor ε} (hslots : Slots s) (hret : s.phase = .returned) :
    held s = [] := by
  rw [Slots, hret] at hslots
  obtain ⟨hpending, hqueued, hqueue, -, hreply⟩ := hslots
  simp [held, hret, hpending, hqueued, hqueue, hreply, heldByWrite]

/-- Once `run_actor` has returned, each request has a complete story. -/
theorem answered_of_returned {config : ActorConfig} {s : Actor ε} (h : Reachable config s)
    (hret : s.phase = .returned) {reply : ReplyId} (hissued : reply < s.nextReply) :
    Answered reply (story Event.about reply s.events) := by
  have hbooks := books h (by simp [hret])
  refine hbooks.closed reply hissued ?_
  simp [held_of_returned (slots h) hret]

/-- An identity that was not issued occurs in no event. -/
theorem story_of_not_issued {config : ActorConfig} {s : Actor ε} (h : Reachable config s)
    (hret : s.phase = .returned) {reply : ReplyId} (hissued : s.nextReply ≤ reply) :
    story Event.about reply s.events = [] :=
  (books h (by simp [hret])).fresh reply hissued

section Returned

variable {config : ActorConfig} {s : Actor ε} (h : Reachable config s) (hret : s.phase = .returned)

include h hret

theorem count_enqueuedIds (reply : ReplyId) :
    s.enqueuedIds.count reply = if reply < s.nextReply then 1 else 0 := by
  have habout : ∀ (e : Event ε) i, e.enqueuedId = some i → e.about = some i := by
    intro e i he
    cases e <;> simp_all [Event.enqueuedId, Event.about]
  rw [enqueuedIds, count_filterMap_story habout]
  by_cases hissued : reply < s.nextReply
  · rw [if_pos hissued]
    exact (answered_of_returned h hret hissued).count_enqueuedId
  · rw [if_neg hissued, story_of_not_issued h hret (Nat.le_of_not_lt hissued)]
    rfl

theorem count_repliedIds (reply : ReplyId) :
    s.repliedIds.count reply = if reply < s.nextReply then 1 else 0 := by
  have habout : ∀ (e : Event ε) i, e.repliedId = some i → e.about = some i := by
    intro e i he
    cases e <;> simp_all [Event.repliedId, Event.about]
  rw [repliedIds, count_filterMap_story habout]
  by_cases hissued : reply < s.nextReply
  · rw [if_pos hissued]
    exact (answered_of_returned h hret hissued).count_repliedId
  · rw [if_neg hissued, story_of_not_issued h hret (Nat.le_of_not_lt hissued)]
    rfl

/-- The complete story of a message that entered the channel. -/
theorem exists_answered {message : Message} (hmem : .enqueued message ∈ s.events) :
    Answered message.reply (story Event.about message.reply s.events) ∧
      .enqueued message ∈ story Event.about message.reply s.events := by
  have hstory : .enqueued message ∈ story Event.about message.reply s.events :=
    mem_story.2 ⟨hmem, rfl⟩
  refine ⟨answered_of_returned h hret ?_, hstory⟩
  by_contra hissued
  rw [story_of_not_issued h hret (Nat.le_of_not_lt hissued)] at hstory
  cases hstory

end Returned

/-- The requests that entered the channel and the oneshots a value was sent on are the same
    identities, each once; nothing waits anywhere; and the replies tell what became of the writes.
    -/
structure AnsweredOnce (s : Actor ε) : Prop where
  enqueued_once : s.enqueuedIds.Nodup
  replied_once : s.repliedIds.Perm s.enqueuedIds
  pendingQuery : s.pendingQuery = none
  queuedQueries : s.queuedQueries = []
  shutdownReply : s.shutdownReply = none
  requestRx : s.requestRx.queue = []
  send : ∀ command reply, .enqueued (.send command reply) ∈ s.events →
    SendTruthful s.events command reply
  query : ∀ query, .enqueued (.query query) ∈ s.events → QueryTruthful s.events query

/-- **No request is lost or answered twice** by a task that returns. Messages that entered between
    `close` and the last `try_recv` are among the requests. -/
theorem every_request_answered_once {config : ActorConfig} {s : Actor ε} (h : Reachable config s)
    (hret : s.phase = .returned) : AnsweredOnce s := by
  have hslots := slots h
  rw [Slots, hret] at hslots
  obtain ⟨hpending, hqueued, hqueue, -, hreply⟩ := hslots
  refine ⟨?_, ?_, hpending, hqueued, hreply, hqueue, ?_, ?_⟩
  · refine List.nodup_iff_count_le_one.2 fun reply => ?_
    rw [count_enqueuedIds h hret]
    split <;> omega
  · refine List.perm_iff_count.2 fun reply => ?_
    rw [count_enqueuedIds h hret, count_repliedIds h hret]
  · intro command reply hmem
    obtain ⟨hanswered, hstory⟩ := exists_answered h hret hmem
    have htruth := hanswered.sendTruthful hstory
    simpa [SendTruthful, mem_story, Event.about, Message.reply] using htruth
  · intro query hmem
    obtain ⟨hanswered, hstory⟩ := exists_answered h hret hmem
    have htruth := hanswered.queryTruthful hstory
    simpa [QueryTruthful, mem_story, Event.about, Message.reply] using htruth

/-- A run with a query, a command and a second query behind the `Shutdown` that ends it; the last
    cleanup call fails. -/
def shutdownRun : List (Action Unit) :=
  [.callReturned (.ok ()), .callReturned (.ok ()), .callReturned (.ok ()), .proceed, .reserve,
    .enqueue .batteryStatus, .reserve, .enqueue (.send Command.readPieceStatus), .reserve,
    .enqueue .shutdown, .reserve, .enqueue .pieceStatus, .receive, .callReturned (.ok ()), .proceed,
    .receive, .callReturned (.ok ()), .proceed, .receive, .proceed, .proceed, .proceed, .proceed,
    .proceed, .callReturned (.ok ()), .callReturned (.ok ()), .callReturned (.error ()), .proceed]

theorem shutdownRun_answered_once :
    ∃ s, runFrom ActorConfig.default .zero shutdownRun = some s ∧ s.enqueuedIds = [0, 1, 2, 3] ∧
      AnsweredOnce s := by
  have hrun : runFrom ActorConfig.default .zero shutdownRun = some _ := rfl
  exact ⟨_, hrun, rfl, every_request_answered_once (.of_runFrom hrun) rfl⟩

end Actor

end ChessnutMove.Tokio
