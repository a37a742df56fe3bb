import ChessnutMove.Tokio.Accounting

set_option autoImplicit false

/-! # Serialization of queries and order of writes

The request channel is first in, first out; a query is written when it is received or waits behind
the active one in a bounded queue; a command is written when it is received. The order of writes
follows from three readings of the log (what was enqueued, received and written) together with
what still waits. `Served` says, phase by phase, what has become of the commands enqueued before
the first `Shutdown`. -/

namespace ChessnutMove.Tokio

variable {ε : Type}

/-! ## Reading the record -/

def Event.enqueuedMessage : Event ε → Option Message
  | .enqueued message => some message
  | _ => none

def Event.receivedMessage : Event ε → Option Message
  | .received message => some message
  | _ => none

/-- The message an event starts a write for; the fixed sequences have no owner. -/
def Event.writtenMessage : Event ε → Option Message
  | .called _ owner => owner
  | _ => none

def Message.asQuery : Message → Option QueryRequest
  | .query request => some request
  | _ => none

def Message.isSend : Message → Bool
  | .send _ _ => true
  | _ => false

def Message.isShutdown : Message → Bool
  | .shutdown _ => true
  | _ => false

namespace Actor

/-- The messages that entered the request channel, in order. -/
def enqueuedMessages (s : Actor ε) : List Message := extract Event.enqueuedMessage s.log

/-- The messages the actor took out of the channel, in order. -/
def receivedMessages (s : Actor ε) : List Message := extract Event.receivedMessage s.log

/-- The messages a write was started for, in order. -/
def writtenMessages (s : Actor ε) : List Message := extract Event.writtenMessage s.log

section Step

variable {config : ActorConfig} {s s' : Actor ε} {action : Action ε}

theorem identities_step (hs : s.enqueuedMessages.map Message.reply = List.range s.nextReply)
    (h : Transition config s action s') :
    s'.enqueuedMessages.map Message.reply = List.range s'.nextReply := by
  unfold enqueuedMessages at hs ⊢
  cases h with
  | enqueue request hreceives h => simp [Event.enqueuedMessage, hs, List.range_succ]
  | _ => simp [Event.enqueuedMessage, hs, unwind]

/-- The channel is first in, first out: what it holds follows what the actor took out of it. -/
theorem channel_step (hs : s.receivedMessages ++ s.requestRx.queue = s.enqueuedMessages)
    (h : Transition config s action s') (hs' : ∀ panic, s'.phase ≠ .panicked panic) :
    s'.receivedMessages ++ s'.requestRx.queue = s'.enqueuedMessages := by
  unfold receivedMessages enqueuedMessages at hs ⊢
  cases h with
  | enqueue request hreceives h => simp [Event.receivedMessage, Event.enqueuedMessage, ← hs]
  | queryOverflowed => exact absurd rfl (hs' .deadlineOverflow)
  | _ => simp_all [Event.receivedMessage, Event.enqueuedMessage, ← hs]

theorem received_of_enqueued_step (hslots : Slots s)
    (hchannel : (∀ panic, s.phase ≠ .panicked panic) →
      s.receivedMessages ++ s.requestRx.queue = s.enqueuedMessages)
    (hs : s.receivedMessages <+: s.enqueuedMessages) (h : Transition config s action s') :
    s'.receivedMessages <+: s'.enqueuedMessages := by
  by_cases hpanicked : ∀ panic, s'.phase ≠ .panicked panic
  · have hs := hchannel fun panic hphase => hpanicked panic (panicked_step hphase h)
    exact ⟨_, channel_step hs h hpanicked⟩
  · obtain ⟨panic, hpanic⟩ := not_forall_not.1 hpanicked
    unfold Slots at hslots
    unfold receivedMessages enqueuedMessages at hs ⊢
    cases h with
    | enqueue request hreceives h => simp_all [Phase.receives]
    | reserve | cloneHandle | dropHandle | tick => exact hs
    | queryOverflowed => simpa [Event.receivedMessage, Event.enqueuedMessage] using hs
    | _ => simp_all

theorem queries_step (hs : (s.writtenMessages.filterMap Message.asQuery ++ s.queuedQueries).Sublist
      (s.receivedMessages.filterMap Message.asQuery)) (h : Transition config s action s') :
    (s'.writtenMessages.filterMap Message.asQuery ++ s'.queuedQueries).Sublist
      (s'.receivedMessages.filterMap Message.asQuery) := by
  have hwritten := (List.sublist_append_left _ _).trans hs
  unfold writtenMessages receivedMessages at hs hwritten ⊢
  cases h with
  | startQueued query rest hphase hpending hqueued =>
      simpa [Event.receivedMessage, Event.writtenMessage, Message.asQuery, hqueued] using hs
  | receiveFirstQuery query waiting hphase hqueue hpending hqueued =>
      simpa [Event.receivedMessage, Event.writtenMessage, Message.asQuery, hqueued] using hwritten
  | receiveQueued query waiting hphase hqueue hbusy hroom =>
      have hsnoc := hs.append (List.Sublist.refl [query])
      simpa [Event.receivedMessage, Event.writtenMessage, Message.asQuery] using hsnoc
  | receiveRefused query waiting hphase hqueue hbusy hfull =>
      have hskip := hs.trans (List.sublist_append_left _ [query])
      simpa [Event.receivedMessage, Event.writtenMessage, Message.asQuery] using hskip
  | rejectQueued query rest hphase hpending hqueued =>
      rw [hqueued] at hs
      have hdrop := (List.Sublist.append_left (List.sublist_cons_self query rest) _).trans hs
      simpa [Event.receivedMessage, Event.writtenMessage] using hdrop
  | rejectMessage message waiting hphase hpending hqueued hqueue =>
      have hskip := hs.trans (List.sublist_append_left _ (List.filterMap Message.asQuery [message]))
      simpa [Event.receivedMessage, Event.writtenMessage] using hskip
  | queryOverflowed =>
      simpa [Event.receivedMessage, Event.writtenMessage, unwind] using hwritten
  | _ =>
      simpa [Event.receivedMessage, Event.writtenMessage, List.filterMap_cons, Message.asQuery]
        using hs

theorem sends_step (hs : (s.writtenMessages.filter Message.isSend).Sublist
      (s.receivedMessages.filter Message.isSend)) (h : Transition config s action s') :
    (s'.writtenMessages.filter Message.isSend).Sublist
      (s'.receivedMessages.filter Message.isSend) := by
  unfold writtenMessages receivedMessages at hs ⊢
  cases h with
  | receiveSend command reply waiting hphase hqueue =>
      have hsnoc := hs.append (List.Sublist.refl [Message.send command reply])
      simpa [Event.receivedMessage, Event.writtenMessage, Message.isSend] using hsnoc
  | rejectMessage message waiting hphase hpending hqueued hqueue =>
      have hskip := hs.trans (List.sublist_append_left _ ([message].filter Message.isSend))
      simpa [Event.receivedMessage, Event.writtenMessage] using hskip
  | _ => simpa [Event.receivedMessage, Event.writtenMessage, Message.isSend] using hs

theorem identities (h : Reachable config s) :
    s.enqueuedMessages.map Message.reply = List.range s.nextReply :=
  h.induct (fun _ => rfl) fun _ _ _ _ hs hst => identities_step hs hst

theorem channel (h : Reachable config s) (hs : ∀ panic, s.phase ≠ .panicked panic) :
    s.receivedMessages ++ s.requestRx.queue = s.enqueuedMessages := by
  refine h.induct (P := fun s => (∀ panic, s.phase ≠ .panicked panic) →
    s.receivedMessages ++ s.requestRx.queue = s.enqueuedMessages) ?_ ?_ hs
  · intro now _
    rfl
  · intro s action s' _ hs hst hs'
    exact channel_step (hs fun panic hphase => hs' panic (panicked_step hphase hst)) hst hs'

theorem received_of_enqueued (h : Reachable config s) :
    s.receivedMessages <+: s.enqueuedMessages := by
  refine h.induct (P := fun s => s.receivedMessages <+: s.enqueuedMessages)
    (fun _ => List.prefix_rfl) ?_
  intro s action s' hreach hs hst
  exact received_of_enqueued_step (slots hreach) (channel hreach) hs hst

theorem identities_nodup (h : Reachable config s) :
    (s.enqueuedMessages.map Message.reply).Nodup := by
  rw [identities h]
  exact List.nodup_range

/-- Every message is enqueued, hence received, once. -/
theorem received_nodup (h : Reachable config s) : s.receivedMessages.Nodup :=
  ((identities_nodup h).of_map _).sublist (received_of_enqueued h).sublist

theorem queries_in_order (h : Reachable config s) :
    (s.writtenMessages.filterMap Message.asQuery ++ s.queuedQueries).Sublist
      (s.receivedMessages.filterMap Message.asQuery) :=
  h.induct (fun _ => List.Sublist.refl _) fun _ _ _ _ hs hst => queries_step hs hst

theorem queries_nodup (h : Reachable config s) :
    (s.writtenMessages.filterMap Message.asQuery).Nodup := by
  refine ((received_nodup h).filterMap ?_).sublist
    ((List.sublist_append_left _ _).trans (queries_in_order h))
  intro message message' query hquery hquery'
  cases message <;> cases message' <;> simp_all [Message.asQuery]

theorem sends_in_order (h : Reachable config s) :
    (s.writtenMessages.filter Message.isSend).Sublist (s.receivedMessages.filter Message.isSend) :=
  h.induct (fun _ => List.Sublist.refl _) fun _ _ _ _ hs hst => sends_step hs hst

end Step

/-! ## Which commands are written -/

/-- A transport call or `next_notification` returned an error. -/
def Event.failed : Event ε → Bool
  | .returned _ _ (.error _) => true
  | .notified (.error _) => true
  | _ => false

/-- Something failed before the actor announced its shutdown. -/
def FailedFirst (events : List (Event ε)) : Prop :=
  ∃ before failure after, events = before ++ failure :: after ∧ Event.failed failure = true ∧
    .lifecycle .shuttingDown ∉ before

/-- If the message is a `Send`, its write was started. -/
def Attempted (s : Actor ε) (message : Message) : Prop :=
  ∀ command reply, message = .send command reply →
    .called (.writeCommand command) (some message) ∈ s.events

/-- The messages enqueued before the first `Shutdown`. -/
def beforeShutdown (messages : List Message) : List Message :=
  messages.takeWhile fun message => !message.isShutdown

/-- While the main loop runs, or before it: every received command was written, and no `Shutdown`
    was received. -/
def ServedInLoop (s : Actor ε) : Prop :=
  .lifecycle .shuttingDown ∉ s.events ∧
    ∀ message ∈ s.receivedMessages, message.isShutdown = false ∧ Attempted s message

/-- Past the main loop: the commands enqueued before the first `Shutdown` were written. -/
def ServedBeforeShutdown (s : Actor ε) : Prop :=
  ∀ message ∈ beforeShutdown s.enqueuedMessages, Attempted s message

/-- No message can be enqueued before the first `Shutdown` any more. -/
def NoneToCome (s : Actor ε) : Prop :=
  s.requestRx.senders = 0 ∨ ∃ message ∈ s.enqueuedMessages, message.isShutdown = true

/-- Just past the main loop: something failed, or the commands were written and no further one is to
    come. -/
def ServedAtExit (s : Actor ε) : Prop :=
  .lifecycle .shuttingDown ∉ s.events ∧
    ((∃ failure ∈ s.events, Event.failed failure = true) ∨ ServedBeforeShutdown s ∧ NoneToCome s)

/-- After `ShuttingDown` was published: something failed before, or the commands were written and no
    further one is to come. -/
def ServedAfterExit (s : Actor ε) : Prop :=
  FailedFirst s.events ∨ ServedBeforeShutdown s ∧ NoneToCome s

/-- What has become of the commands enqueued before the first `Shutdown`, by phase. -/
def Served (s : Actor ε) : Prop :=
  match s.phase with
  | .initializing _ | .loopTop | .startingQuery _ | .selecting | .sending _ _ => ServedInLoop s
  | .leaving => ServedAtExit s
  | .closing | .rejecting | .cleaningUp _ | .finishing | .returned => ServedAfterExit s
  | .panicked _ => True

section Served

variable {config : ActorConfig} {s s' : Actor ε} {action : Action ε} {message : Message}

theorem failedFirst_append {events es : List (Event ε)} (h : FailedFirst events) :
    FailedFirst (events ++ es) := by
  obtain ⟨before, failure, after, rfl, hfailed, hbefore⟩ := h
  exact ⟨before, failure, after ++ es, by simp, hfailed, hbefore⟩

/-- Once a `Shutdown` is enqueued, later messages do not count. -/
theorem beforeShutdown_append {messages more : List Message}
    (h : ∃ message ∈ messages, message.isShutdown = true) :
    beforeShutdown (messages ++ more) = beforeShutdown messages := by
  obtain ⟨message, hmem, hshutdown⟩ := h
  induction messages with
  | nil => cases hmem
  | cons first rest ih =>
      unfold beforeShutdown at ih ⊢
      rw [List.cons_append, List.takeWhile_cons, List.takeWhile_cons]
      by_cases hfirst : first.isShutdown = true
      · simp [hfirst]
      · rcases List.mem_cons.1 hmem with rfl | hmem
        · exact absurd hshutdown hfirst
        · rw [ih hmem]

/-- A failure in a run that has not announced its shutdown came first. -/
theorem failedFirst_of_failed {events es : List (Event ε)}
    (hleft : .lifecycle .shuttingDown ∉ events)
    (h : ∃ failure ∈ events, Event.failed failure = true) :
    FailedFirst (events ++ es) := by
  obtain ⟨failure, hmem, hfailed⟩ := h
  obtain ⟨before, after, rfl⟩ := List.append_of_mem hmem
  refine ⟨before, failure, after ++ es, by simp, hfailed, ?_⟩
  intro hbefore
  exact hleft (List.mem_append_left _ hbefore)

theorem beforeShutdown_of_none {messages more : List Message}
    (h : ∀ message ∈ messages, message.isShutdown = false) (reply : ReplyId) :
    beforeShutdown (messages ++ .shutdown reply :: more) = messages := by
  unfold beforeShutdown
  rw [List.takeWhile_append_of_pos (by simpa using h),
    List.takeWhile_cons_of_neg (by simp [Message.isShutdown]), List.append_nil]

/-- A step within the main loop, by what it appends to the log. -/
theorem ServedInLoop.append {es : List (Entry ε)} (hs : ServedInLoop s)
    (hlog : s'.log = s.log ++ es) (hleft : ∀ e ∈ es, e.event ≠ .lifecycle .shuttingDown)
    (hnew : ∀ message ∈ extract Event.receivedMessage es,
      message.isShutdown = false ∧ Attempted s' message) :
    ServedInLoop s' := by
  obtain ⟨hnotLeft, hreceived⟩ := hs
  have hevents : s'.events = s.events ++ es.map Entry.event := by
    rw [events, hlog, List.map_append, events]
  refine ⟨?_, ?_⟩
  · rw [hevents, List.mem_append, not_or]
    refine ⟨hnotLeft, fun hmem => ?_⟩
    obtain ⟨e, he, heq⟩ := List.mem_map.1 hmem
    exact hleft e he heq
  · intro message hmem
    rw [receivedMessages, hlog, extract_append, List.mem_append] at hmem
    rcases hmem with hmem | hmem
    · obtain ⟨hshutdown, hattempted⟩ := hreceived message hmem
      refine ⟨hshutdown, fun command reply hmessage => ?_⟩
      rw [hevents]
      exact List.mem_append_left _ (hattempted command reply hmessage)
    · exact hnew message hmem

/-- A step that enqueues nothing leaves the commands before the first `Shutdown` written. -/
theorem servedBeforeShutdown_append {es : List (Entry ε)} (hs : ServedBeforeShutdown s)
    (hlog : s'.log = s.log ++ es) (hnew : extract Event.enqueuedMessage es = []) :
    ServedBeforeShutdown s' := by
  intro message hmem command reply hmessage
  have hsame : s'.enqueuedMessages = s.enqueuedMessages := by
    rw [enqueuedMessages, hlog, extract_append, hnew, List.append_nil, enqueuedMessages]
  rw [events, hlog, List.map_append]
  exact List.mem_append_left _ (hs message (hsame ▸ hmem) command reply hmessage)

theorem noneToCome_append {es : List (Entry ε)} (hs : NoneToCome s) (hlog : s'.log = s.log ++ es)
    (hsenders : s.requestRx.senders = 0 → s'.requestRx.senders = 0) : NoneToCome s' := by
  refine hs.imp hsenders ?_
  rintro ⟨message, hmem, hshutdown⟩
  refine ⟨message, ?_, hshutdown⟩
  rw [enqueuedMessages, hlog, extract_append]
  exact List.mem_append_left _ hmem

/-- A step after the exit, by what it appends to the log. -/
theorem ServedAfterExit.append {es : List (Entry ε)} (hs : ServedAfterExit s)
    (hlog : s'.log = s.log ++ es) (hnew : extract Event.enqueuedMessage es = [])
    (hsenders : s.requestRx.senders = 0 → s'.requestRx.senders = 0) : ServedAfterExit s' := by
  rcases hs with hs | ⟨hserved, hnone⟩
  · left
    rw [events, hlog, List.map_append]
    exact failedFirst_append hs
  · exact .inr ⟨servedBeforeShutdown_append hserved hlog hnew,
      noneToCome_append hnone hlog hsenders⟩

/-- The main loop is left because of a failure. -/
theorem served_of_failed (hs : ServedInLoop s) {es : List (Event ε)}
    (hleft : .lifecycle .shuttingDown ∉ es) (hfailed : ∃ failure ∈ es, Event.failed failure = true)
    (hphase : s'.phase = .leaving) (hevents : s'.events = s.events ++ es) : Served s' := by
  obtain ⟨failure, hmem, hfailed⟩ := hfailed
  unfold Served
  rw [hphase]
  refine ⟨?_, .inl ⟨failure, hevents ▸ List.mem_append_right _ hmem, hfailed⟩⟩
  rw [hevents, List.mem_append, not_or]
  exact ⟨hs.1, hleft⟩

/-- A message enqueued when none is to come comes after the first `Shutdown`. -/
theorem served_enqueued (hserved : ServedBeforeShutdown s) (hnone : NoneToCome s)
    (hsenders : 0 < s.requestRx.senders)
    (hevents : s'.events = s.events ++ [.enqueued message])
    (henqueued : s'.enqueuedMessages = s.enqueuedMessages ++ [message]) :
    ServedBeforeShutdown s' ∧ NoneToCome s' := by
  have hshutdown := hnone.resolve_left (Nat.ne_of_gt hsenders)
  refine ⟨?_, .inr ?_⟩
  · intro message hmem command reply hmessage
    rw [henqueued, beforeShutdown_append hshutdown] at hmem
    rw [hevents]
    exact List.mem_append_left _ (hserved message hmem command reply hmessage)
  · obtain ⟨message, hmem, hshutdown⟩ := hshutdown
    exact ⟨message, by simp [henqueued, hmem], hshutdown⟩

theorem ServedAtExit.enqueue (hs : ServedAtExit s) (hsenders : 0 < s.requestRx.senders)
    (hevents : s'.events = s.events ++ [.enqueued message])
    (henqueued : s'.enqueuedMessages = s.enqueuedMessages ++ [message]) : ServedAtExit s' := by
  obtain ⟨hleft, hs⟩ := hs
  refine ⟨by simp [hevents, hleft], ?_⟩
  rcases hs with ⟨failure, hmem, hfailed⟩ | ⟨hserved, hnone⟩
  · exact .inl ⟨failure, by simp [hevents, hmem], hfailed⟩
  · exact .inr (served_enqueued hserved hnone hsenders hevents henqueued)

theorem ServedAfterExit.enqueue (hs : ServedAfterExit s) (hsenders : 0 < s.requestRx.senders)
    (hevents : s'.events = s.events ++ [.enqueued message])
    (henqueued : s'.enqueuedMessages = s.enqueuedMessages ++ [message]) : ServedAfterExit s' := by
  rcases hs with hs | ⟨hserved, hnone⟩
  · left
    rw [hevents]
    exact failedFirst_append hs
  · exact .inr (served_enqueued hserved hnone hsenders hevents henqueued)

/-- Receiving the first `Shutdown`: everything enqueued before it was received. -/
theorem servedAtExit_of_shutdown {reply : ReplyId} {waiting : List Message} (hs : ServedInLoop s)
    (hchannel : s.receivedMessages ++ .shutdown reply :: waiting = s.enqueuedMessages)
    (hevents : s'.events = s.events ++ [.received (.shutdown reply)])
    (henqueued : s'.enqueuedMessages = s.enqueuedMessages) : ServedAtExit s' := by
  obtain ⟨hleft, hreceived⟩ := hs
  have hbefore : beforeShutdown s'.enqueuedMessages = s.receivedMessages := by
    rw [henqueued, ← hchannel]
    exact beforeShutdown_of_none (fun message hmem => (hreceived message hmem).1) reply
  refine ⟨by simp [hevents, hleft], .inr ⟨?_, .inr ?_⟩⟩
  · intro message hmem command reply hmessage
    rw [hbefore] at hmem
    rw [hevents]
    exact List.mem_append_left _ ((hreceived message hmem).2 command reply hmessage)
  · exact ⟨.shutdown reply, by simp [henqueued, ← hchannel], rfl⟩

/-- What is served depends on the log and on whether a handle is left. -/
theorem served_of_eq (hs : Served s) (hphase : s'.phase = s.phase) (hlog : s'.log = s.log)
    (hsenders : s.requestRx.senders = 0 → s'.requestRx.senders = 0) : Served s' := by
  have hlog' : s'.log = s.log ++ [] := by rw [hlog, List.append_nil]
  have hevents : s'.events = s.events := by rw [events, hlog, events]
  unfold Served at hs ⊢
  rw [hphase]
  cases hcase : s.phase with
  | initializing | loopTop | startingQuery | selecting | sending =>
      simp only [hcase] at hs
      exact hs.append hlog' (by simp) (by simp)
  | leaving =>
      simp only [hcase] at hs
      refine ⟨hevents ▸ hs.1, hs.2.imp (fun h => hevents ▸ h) ?_⟩
      rintro ⟨hserved, hnone⟩
      exact ⟨servedBeforeShutdown_append hserved hlog' rfl, noneToCome_append hnone hlog' hsenders⟩
  | closing | rejecting | cleaningUp | finishing | returned =>
      simp only [hcase] at hs
      exact hs.append hlog' rfl hsenders
  | panicked => trivial

theorem served_enqueue (hs : Served s) (request : Request) (h : s.requestRx.CanPush) :
    Served ({ s with
      requestRx := s.requestRx.push (request.message s.nextReply) h
      nextReply := s.nextReply + 1 }.record [.enqueued (request.message s.nextReply)]) := by
  unfold Served at hs
  cases hphase : s.phase with
  | initializing | loopTop | startingQuery | selecting | sending =>
      rw [hphase] at hs
      exact hs.append rfl (by simp) (by simp [Event.receivedMessage])
  | leaving =>
      rw [hphase] at hs
      exact hs.enqueue h.1 (events_record ..) (extract_append ..)
  | closing | rejecting | cleaningUp | finishing | returned =>
      rw [hphase] at hs
      exact hs.enqueue h.1 (events_record ..) (extract_append ..)
  | panicked => trivial

theorem served_step (hchannel : (∀ panic, s.phase ≠ .panicked panic) →
      s.receivedMessages ++ s.requestRx.queue = s.enqueuedMessages)
    (hs : Served s) (h : Transition config s action s') : Served s' := by
  cases h with
  | reserve h => exact served_of_eq hs rfl rfl id
  | enqueue request hreceives h => exact served_enqueue hs request h
  | cloneHandle h => exact served_of_eq hs rfl rfl fun hno => absurd hno (Nat.ne_of_gt h)
  | dropHandle h => exact served_of_eq hs rfl rfl fun hno => absurd hno (Nat.ne_of_gt h)
  | tick elapsed now h => exact served_of_eq hs rfl rfl id
  | initializeFailed calls error hphase =>
      simp only [Served, hphase] at hs
      exact served_of_failed hs (by simp) ⟨_, List.mem_singleton_self _, rfl⟩ rfl (events_record ..)
  | queryFailed query error hphase =>
      simp only [Served, hphase] at hs
      exact served_of_failed hs (by simp) ⟨_, List.mem_cons_self, rfl⟩ rfl (events_record ..)
  | sendFailed command reply error hphase =>
      simp only [Served, hphase] at hs
      exact served_of_failed hs (by simp) ⟨_, List.mem_cons_self, rfl⟩ rfl (events_record ..)
  | notificationFailed error hphase =>
      simp only [Served, hphase] at hs
      exact served_of_failed hs (by simp) ⟨_, List.mem_singleton_self _, rfl⟩ rfl (events_record ..)
  | initializeNext | initialized | startQueued | select | queryStarted | sent
  | receiveFirstQuery | receiveQueued | receiveRefused | receiveSubscribe | resolved | timedOut =>
      simp only [Served, *] at hs
      exact hs.append rfl (by simp) (by simp [Event.receivedMessage, Message.isShutdown, Attempted])
  | observed notification hphase hanswer =>
      simp only [Served, hphase] at hs
      exact hs.append rfl (by simp) (by simp [Event.receivedMessage])
  | receiveSend command reply waiting hphase hqueue =>
      simp only [Served, hphase] at hs
      refine hs.append rfl (by simp) ?_
      simp [Event.receivedMessage, Message.isShutdown, Attempted, events]
  | receiveShutdown reply waiting hphase hqueue =>
      have hchannel := hchannel (by simp [hphase])
      simp only [Served, hphase] at hs
      exact servedAtExit_of_shutdown hs (hqueue ▸ hchannel) (events_record ..)
        (by simp [Event.enqueuedMessage, enqueuedMessages])
  | handlesDropped hphase hqueue hsenders =>
      have hchannel := hchannel (by simp [hphase])
      rw [hqueue, List.append_nil] at hchannel
      simp only [Served, hphase] at hs
      refine ⟨hs.1, .inr ⟨?_, .inl hsenders⟩⟩
      intro message hmem
      have hreceived : message ∈ s.receivedMessages :=
        hchannel ▸ (List.takeWhile_sublist _).subset hmem
      exact (hs.2 message hreceived).2
  | queryOverflowed => trivial
  | shutDown hphase =>
      simp only [Served, hphase] at hs
      obtain ⟨hleft, hfailed | ⟨hserved, hnone⟩⟩ := hs
      · left
        rw [events_record]
        exact failedFirst_of_failed hleft hfailed
      · exact ServedAfterExit.append (.inr ⟨hserved, hnone⟩) rfl
          (by simp [Event.enqueuedMessage]) id
  | closeRequests hphase =>
      simp only [Served, hphase] at hs
      exact hs.append (List.append_nil _).symm rfl id
  | rejectActive | rejectQueued | rejectMessage | startCleanup | cleanupFailed | cleanupNext
  | cleanedUp | finish =>
      simp only [Served, phase_record, *] at hs ⊢
      exact hs.append rfl (by simp [Event.enqueuedMessage]) id

theorem served (h : Reachable config s) : Served s := by
  refine h.induct (P := Served) ?_ ?_
  · intro now
    exact ⟨by simp [events, runActor], by simp [receivedMessages, runActor, Event.receivedMessage]⟩
  · intro s action s' hreach hs hst
    exact served_step (channel hreach) hs hst

end Served

/-! ## The active query and the queue -/

/-- The query was written and has not been answered. -/
def Outstanding (s : Actor ε) (query : QueryRequest) : Prop :=
  (∃ call, .called call (some (.query query)) ∈ s.events) ∧
    ∀ value, .replied query.reply value ∉ s.events

/-- The query was received while one was active and the queue held `query_capacity` queries. -/
def ReceivedFull (config : ActorConfig) (now : Instant) (schedule : List (Action ε))
    (query : QueryRequest) : Prop :=
  ∃ before after s, schedule = before ++ .receive :: after ∧
    runFrom config now before = some s ∧ s.phase = .selecting ∧
    s.requestRx.queue.head? = some (.query query) ∧ s.pendingQuery ≠ none ∧
    s.queuedQueries.length = config.queryCapacity

section Queue

variable {config : ActorConfig} {s s' : Actor ε} {action : Action ε} {query : QueryRequest}
  {now : Instant} {schedule : List (Action ε)}

theorem queue_bound_step (hs : s.queuedQueries.length ≤ config.queryCapacity)
    (h : Transition config s action s') : s'.queuedQueries.length ≤ config.queryCapacity := by
  cases h with
  | startQueued query rest hphase hpending hqueued
  | rejectQueued query rest hphase hpending hqueued =>
      rw [hqueued, List.length_cons] at hs
      exact Nat.le_of_succ_le hs
  | receiveQueued query waiting hphase hqueue hbusy hroom =>
      simpa [Nat.succ_le_iff] using hroom
  | queryOverflowed => simp [unwind]
  | _ => exact hs

theorem queue_bound (h : Reachable config s) : s.queuedQueries.length ≤ config.queryCapacity :=
  h.induct (fun _ => Nat.zero_le _) fun _ _ _ _ hs hst => queue_bound_step hs hst

/-- In `select!` an unanswered written query is the active one. -/
theorem active_of_outstanding (h : Reachable config s) (hphase : s.phase = .selecting)
    (hquery : Outstanding s query) : s.pendingQuery.map PendingQuery.request = some query := by
  obtain ⟨⟨call, hcalled⟩, hunanswered⟩ := hquery
  have hbooks := books h (by simp [hphase])
  rcases held_or_answered hbooks hcalled rfl with ⟨events, hheld, hmem⟩ | hanswered
  · have hslots := slots h
    rw [Slots, hphase] at hslots
    -- only the ticket of the active query tells of a write
    simp only [held, hphase, heldByWrite, hslots.2, List.nil_append, Option.toList_none,
      List.map_nil, List.append_nil, List.mem_append, List.mem_map, Option.mem_toList] at hheld
    rcases hheld with (⟨active, hactive, hticket⟩ | ⟨queued, -, hticket⟩) | ⟨message, -, hticket⟩
    · obtain ⟨-, rfl⟩ := Prod.mk.inj hticket
      obtain ⟨-, rfl⟩ : _ ∧ query = active.request := by simpa [writing] using hmem
      rw [hactive, Option.map_some]
    · obtain ⟨-, rfl⟩ := Prod.mk.inj hticket
      simp at hmem
    · obtain ⟨-, rfl⟩ := Prod.mk.inj hticket
      simp at hmem
  · obtain ⟨value, hreplied⟩ := hanswered.replied
    exact absurd (mem_story.1 hreplied).1 (hunanswered value)

/-- Only receiving a query finds the queue full. -/
theorem refused_step {reply : ReplyId} (h : Transition config s action s')
    (hs' : .replied reply (.error .queryQueueFull) ∈ s'.events) :
    .replied reply (.error .queryQueueFull) ∈ s.events ∨
      ∃ query, action = .receive ∧ s.phase = .selecting ∧ query.reply = reply ∧
        s.requestRx.queue.head? = some (.query query) ∧
        s'.receivedMessages = s.receivedMessages ++ [.query query] ∧
        ¬ (s.pendingQuery = none ∧ s.queuedQueries = []) ∧
        config.queryCapacity ≤ s.queuedQueries.length := by
  unfold events at hs' ⊢
  cases h with
  | receiveRefused query waiting hphase hqueue hbusy hfull =>
      simp only [log_record, List.map_append, List.mem_append] at hs'
      rcases hs' with hs' | hs'
      · exact .inl hs'
      · right
        obtain rfl : reply = query.reply := by simpa using hs'
        refine ⟨query, rfl, hphase, rfl, by simp [hqueue], ?_, hbusy, hfull⟩
        simp [receivedMessages, Event.receivedMessage]
  | finish hphase =>
      left
      cases hreply : s.shutdownReply <;> split at hs' <;> simpa [hreply] using hs'
  | _ =>
      left
      simpa using hs'

theorem receivedFull_of_refused (hrun : runFrom config now schedule = some s)
    (henqueued : .query query ∈ s.enqueuedMessages)
    (hrefused : .replied query.reply (.error .queryQueueFull) ∈ s.events) :
    ReceivedFull config now schedule query := by
  obtain ⟨before, action, after, t, t', rfl, hbefore, hnot, hstep, hnow, hafter⟩ :=
    StepMachine.exists_step_of_run
      (P := fun s => .replied query.reply (.error .queryQueueFull) ∈ s.events)
      (by simp [events, runActor]) hrun hrefused
  have hreach : Reachable config t := .of_runFrom hbefore
  obtain ⟨refused, rfl, hphase, hreply, hhead, hreceived, hbusy, hfull⟩ :=
    (refused_step (transition_of_step hstep) hnow).resolve_left hnot
  have hslots := slots hreach
  rw [Slots, hphase] at hslots
  refine ⟨before, after, t, rfl, hbefore, hphase, ?_, ?_, ?_⟩
  · -- the refused query is the one meant: identities are unique
    have hrefusal : .query refused ∈ s.enqueuedMessages := by
      refine (received_of_enqueued (.of_runFrom hrun)).subset ?_
      obtain ⟨es, hlog⟩ := log_run hafter
      rw [receivedMessages, hlog, extract_append, ← receivedMessages, hreceived]
      simp
    have hsame := List.inj_on_of_nodup_map (identities_nodup (.of_runFrom hrun)) hrefusal
      henqueued hreply
    rw [hhead, hsame]
  · exact fun hpending => hbusy ⟨hpending, hslots.1 hpending⟩
  · exact Nat.le_antisymm (queue_bound hreach) hfull

theorem refused_of_receivedFull (hrun : runFrom config now schedule = some s)
    (hfull : ReceivedFull config now schedule query) :
    .replied query.reply (.error .queryQueueFull) ∈ s.events := by
  obtain ⟨before, after, t, rfl, hbefore, hphase, hhead, hbusy, hlength⟩ := hfull
  obtain ⟨u, hu, hrun⟩ := StepMachine.run_append_eq_some.1 hrun
  obtain rfl := Option.some.inj (hbefore.symm.trans hu)
  obtain ⟨t', hstep, hafter⟩ := StepMachine.run_cons_eq_some.1 hrun
  obtain ⟨es, hlog⟩ := log_run hafter
  refine mem_events_append hlog ?_
  cases transition_of_step hstep with
  | receiveRefused refused waiting hphase hqueue =>
      obtain rfl : refused = query := by simpa [hqueue] using hhead
      simp
  | receiveQueued refused waiting hphase hqueue hbusy hroom =>
      exact absurd hlength (Nat.ne_of_lt hroom)
  | _ => simp_all

end Queue

/-! ## Serialization -/

/-- The order of the queries and commands of a run, and what waits at its end. -/
structure Serialized (config : ActorConfig) (now : Instant) (schedule : List (Action ε))
    (s : Actor ε) : Prop where
  outstanding_unique : s.phase = .selecting → ∀ query query', Outstanding s query →
    Outstanding s query' → query = query'
  queue_idle : s.phase = .selecting → s.pendingQuery = none → s.queuedQueries = []
  queue_bound : s.queuedQueries.length ≤ config.queryCapacity
  refused_iff : ∀ query, .query query ∈ s.enqueuedMessages →
    (.replied query.reply (.error .queryQueueFull) ∈ s.events ↔
      ReceivedFull config now schedule query)
  queries_once : (s.writtenMessages.filterMap Message.asQuery).Nodup
  queries_in_order : (s.writtenMessages.filterMap Message.asQuery).Sublist
    (s.receivedMessages.filterMap Message.asQuery)
  sends_once : (s.writtenMessages.filter Message.isSend).Nodup
  sends_in_order : (s.writtenMessages.filter Message.isSend).Sublist
    (s.enqueuedMessages.filter Message.isSend)
  sends_attempted : s.phase = .returned →
    FailedFirst s.events ∨ ∀ message ∈ beforeShutdown s.enqueuedMessages, Attempted s message

/-- **Queries are serialized and writes keep their order**, in every run. -/
theorem serialized {config : ActorConfig} {now : Instant} {schedule : List (Action ε)} {s : Actor ε}
    (hrun : runFrom config now schedule = some s) : Serialized config now schedule s := by
  have h : Reachable config s := .of_runFrom hrun
  have hqueries := (List.sublist_append_left _ _).trans (queries_in_order h)
  have hsends := sends_in_order h
  refine ⟨?_, ?_, queue_bound h, ?_, queries_nodup h, hqueries, ?_, ?_, ?_⟩
  · intro hphase query query' hquery hquery'
    have hactive := active_of_outstanding h hphase hquery
    exact Option.some.inj (hactive.symm.trans (active_of_outstanding h hphase hquery'))
  · intro hphase
    have hslots := slots h
    rw [Slots, hphase] at hslots
    exact hslots.1
  · intro query henqueued
    exact ⟨receivedFull_of_refused hrun henqueued, refused_of_receivedFull hrun⟩
  · exact ((received_nodup h).filter _).sublist hsends
  · exact hsends.trans ((received_of_enqueued h).sublist.filter _)
  · intro hret
    have hserved := served h
    rw [Served, hret] at hserved
    exact hserved.imp id And.left

/-- No query may wait. -/
def noQueue : ActorConfig := { ActorConfig.default with queryCapacity := 0 }

/-- A second query is refused while the first is active; the command behind it is written at once.
    -/
def refusedRun : List (Action Unit) :=
  [.callReturned (.ok ()), .callReturned (.ok ()), .callReturned (.ok ()), .proceed, .reserve,
    .enqueue .batteryStatus, .reserve, .enqueue .pieceStatus, .reserve,
    .enqueue (.send Command.enableRealtimeUpdates), .receive, .callReturned (.ok ()), .proceed,
    .receive, .proceed, .receive, .callReturned (.ok ()), .proceed]

theorem refusedRun_serialized :
    ∃ s, runFrom noQueue .zero refusedRun = some s ∧ s.phase = .selecting ∧
      .replied 1 (.error .queryQueueFull) ∈ s.events ∧ Serialized noQueue .zero refusedRun s := by
  have hrun : runFrom noQueue .zero refusedRun = some _ := rfl
  exact ⟨_, hrun, rfl, by decide, serialized hrun⟩

end Actor

end ChessnutMove.Tokio
