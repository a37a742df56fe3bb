import ChessnutMove.Tokio.Broadcast
import ChessnutMove.Tokio.Handle
import ChessnutMove.Tokio.Verdict

set_option autoImplicit false

/-! # What the actor sends on a oneshot

`Gives` lists, for each kind of message, the values the actor can answer it with and what each of
them says about the run. Every reply is one of these and answers a message that entered the channel,
and what it says stays true. A oneshot without a reply is still owned by some place of the actor,
unless its task has panicked. -/

namespace ChessnutMove.Tokio

variable {ε : Type}

/-- The clock, or a handle that is cloned or dropped. -/
def Action.isIdle : Action ε → Bool
  | .cloneHandle | .dropHandle | .tick _ => true
  | _ => false

namespace Actor

/-! ## Oneshots -/

section Oneshots

variable {s : Actor ε} {reply : ReplyId} {value : Reply}

theorem sentOn_eq_none_iff :
    s.sentOn reply = none ↔ ∀ value, .replied reply value ∉ s.events := by
  rw [sentOn, List.findSome?_eq_none_iff]
  constructor
  · intro h value hmem
    simpa using h _ hmem
  · intro h event hmem
    cases event with
    | replied reply' value =>
        refine if_neg ?_
        rintro rfl
        exact h value hmem
    | _ => rfl

theorem replied_of_sentOn (h : s.sentOn reply = some value) : .replied reply value ∈ s.events := by
  obtain ⟨event, hmem, hevent⟩ := List.exists_of_findSome?_eq_some h
  cases event with
  | replied reply' value' =>
      obtain ⟨rfl, rfl⟩ : reply' = reply ∧ value' = value := by simpa using hevent
      exact hmem
  | _ => cases hevent

/-- The oneshots the task owns are those of the requests it holds. -/
theorem replySenders_eq (s : Actor ε) : s.replySenders = (held s).map Prod.fst := by
  have hwrites : s.phase.writes.toList = (heldByWrite (ε := ε) s.phase).map Prod.fst := by
    cases s.phase <;> rfl
  simp [replySenders, held, hwrites, Function.comp_def]

end Oneshots

/-! ## After the end -/

/-- Only the clock and the number of handles differ. -/
structure Idles (s s' : Actor ε) : Prop where
  eq : s' = { s with requestRx := s'.requestRx, now := s'.now }
  queue : s'.requestRx.queue = s.requestRx.queue
  reserved : s'.requestRx.reserved = s.requestRx.reserved
  closed : s'.requestRx.closed = s.requestRx.closed

section Ended

variable {config : ActorConfig} {s s' : Actor ε} {action : Action ε}

theorem Idles.phase (h : Idles s s') : s'.phase = s.phase := by rw [h.eq]
theorem Idles.lifecycle (h : Idles s s') : s'.lifecycle = s.lifecycle := by rw [h.eq]
theorem Idles.result (h : Idles s s') : s'.result = s.result := by rw [h.eq]
theorem Idles.eventTx (h : Idles s s') : s'.eventTx = s.eventTx := by rw [h.eq]
theorem Idles.nextReply (h : Idles s s') : s'.nextReply = s.nextReply := by rw [h.eq]
theorem Idles.events (h : Idles s s') : s'.events = s.events := by rw [h.eq]; rfl

theorem Idles.refl (s : Actor ε) : Idles s s := ⟨rfl, rfl, rfl, rfl⟩

theorem Idles.trans {t : Actor ε} (h : Idles s t) (h' : Idles t s') : Idles s s' := by
  refine ⟨?_, h'.queue.trans h.queue, h'.reserved.trans h.reserved, h'.closed.trans h.closed⟩
  rw [h'.eq, h.eq]

theorem idles_of_isIdle (h : Transition config s action s') (hidle : action.isIdle = true) :
    Idles s s' := by
  cases h with
  | cloneHandle | dropHandle | tick => exact ⟨rfl, rfl, rfl, rfl⟩
  | _ => cases hidle

/-- Once the task has returned or panicked, it does nothing any more and accepts nothing. -/
theorem idles_of_ended (hslots : Slots s) (hended : s.hasEnded = true)
    (h : Transition config s action s') : Idles s s' := by
  have hclosed : s.requestRx.closed = true := by
    unfold hasEnded at hended
    unfold Slots at hslots
    split at hended <;> simp_all
  cases h with
  | reserve h => simp [h.1] at hclosed
  | enqueue request hreceives =>
      cases hphase : s.phase <;> simp_all [Phase.receives, hasEnded]
  | cloneHandle | dropHandle | tick => exact ⟨rfl, rfl, rfl, rfl⟩
  | _ => simp_all [hasEnded]

theorem hasEnded_eq_true_iff : s.hasEnded = true ↔ s.Ended := by
  unfold hasEnded Ended
  split <;> simp_all

/-- Every oneshot that a value was sent on has a complete story, also after a panic. -/
theorem answered_of_sent (h : Reachable config s) {reply : ReplyId} {value : Reply}
    (hmem : .replied reply value ∈ s.events) :
    Answered reply (story Event.about reply s.events) := by
  refine h.induct (P := fun s => ∀ reply value, .replied reply value ∈ s.events →
    Answered reply (story Event.about reply s.events)) ?_ ?_ reply value hmem
  · intro now reply value hmem
    simp [events, runActor] at hmem
  · intro s action s' hreach hs hst reply value hmem
    by_cases hpanic : ∀ panic, s'.phase ≠ .panicked panic
    · exact answered_of_replied (books (hreach.next (step_of_transition hst)) hpanic) hmem
    · by_cases hended : s.hasEnded = true
      · have hidles := idles_of_ended (slots hreach) hended hst
        rw [hidles.events] at hmem ⊢
        exact hs reply value hmem
      · -- the step that panics concerns a query that has no reply
        obtain ⟨panic, hpanic⟩ := not_forall_not.1 hpanic
        cases hst with
        | queryOverflowed query hphase hoverflow =>
            have hbooks := books hreach (by simp [hphase])
            have hheld : (query.reply, writing (.query query) query.command) ∈ held s :=
              (held_writing (by rw [hphase]; rfl)).mem_iff.2 List.mem_cons_self
            have hold : .replied reply value ∈ s.events := by
              simpa [events, unwind] using hmem
            have hne : query.reply ≠ reply := by
              rintro rfl
              exact not_replied_of_held hbooks hheld value hold
            have hstory := hs reply value hold
            rw [events_record, story_append]
            simpa [story, Event.about, Message.reply, hne, events] using hstory
        | _ => simp_all [hasEnded]

end Ended

/-! ## The values sent -/

/-- The answers to a message, and what they say about the state of the actor. -/
inductive Gives (s : Actor ε) : Message → Reply → Prop
  | rejected (message : Message) (hclosed : s.requestRx.closed = true) :
      Gives s message (.error .shuttingDown)
  | sent (command : Command) (reply : ReplyId)
      (hwrite : .returned (.writeCommand command) (some (.send command reply)) (.ok ())
        ∈ s.events) :
      Gives s (.send command reply) (.ok .done)
  | sendFailed (command : Command) (reply : ReplyId) (error : ε)
      (hwrite : .returned (.writeCommand command) (some (.send command reply)) (.error error)
        ∈ s.events)
      (hresult : s.result = .error (.transport error)) :
      Gives s (.send command reply) (.error .transportFailed)
  | refused (query : QueryRequest) : Gives s (.query query) (.error .queryQueueFull)
  | queryFailed (query : QueryRequest) (error : ε)
      (hwrite : .returned (.writeCommand query.command) (some (.query query)) (.error error)
        ∈ s.events)
      (hresult : s.result = .error (.transport error)) :
      Gives s (.query query) (.error .transportFailed)
  | timedOut (query : QueryRequest) : Gives s (.query query) (.error .requestTimedOut)
  | answered (query : QueryRequest) (event : BoardEvent) (value : ReplyValue)
      (hanswer : query.answer event = some value) (hpublished : .published (.ok event) ∈ s.events) :
      Gives s (.query query) (.ok value)
  | subscribed (reply : ReplyId) (stream : EventStream)
      (hsent : stream.subscribedAt ≤ s.eventTx.length) :
      Gives s (.subscribeEvents reply) (.ok (.stream stream))
  | shutDown (reply : ReplyId) (hreturned : s.phase = .returned) :
      Gives s (.shutdown reply) s.shutdownOutcome

section Given

variable {config : ActorConfig} {s s' : Actor ε} {action : Action ε} {es : List (Event ε)}

theorem closed_step (hclosed : s.requestRx.closed = true) (h : Transition config s action s') :
    s'.requestRx.closed = true := by
  cases h with
  | _ => simp_all [unwind, BoundedChannel.cloneSender, BoundedChannel.dropSender]

theorem mem_events_step (h : Transition config s action s') {event : Event ε}
    (hmem : event ∈ s.events) : event ∈ s'.events := by
  obtain ⟨es, hlog⟩ := log_step h
  exact mem_events_append hlog hmem

/-- The first error stays the result. -/
theorem result_eq_step (hreach : Reachable config s) {error : ActorError ε}
    (hresult : s.result = .error error) (h : Transition config s action s') :
    s'.result = .error error := by
  have hloop : ¬ InLoop s := by
    intro hloop
    rw [result_of_inLoop hreach hloop] at hresult
    cases hresult
  unfold InLoop at hloop
  cases h with
  | cleanupFailed => simp [hresult, Except.isOk, Except.toBool]
  | _ => simp_all

theorem length_eventTx_step (h : Transition config s action s') :
    s.eventTx.length ≤ s'.eventTx.length := by
  obtain ⟨es, hes⟩ := publishes_of_transition h
  rw [hes.eventTx_eq, List.length_append]
  exact Nat.le_add_right _ _

/-- What a reply says stays true. -/
theorem Gives.step (hreach : Reachable config s) {message : Message} {value : Reply}
    (hs : Gives s message value) (h : Transition config s action s') : Gives s' message value := by
  cases hs with
  | rejected message hclosed => exact .rejected message (closed_step hclosed h)
  | sent command reply hwrite => exact .sent command reply (mem_events_step h hwrite)
  | sendFailed command reply error hwrite hresult =>
      exact .sendFailed command reply error (mem_events_step h hwrite)
        (result_eq_step hreach hresult h)
  | refused query => exact .refused query
  | queryFailed query error hwrite hresult =>
      exact .queryFailed query error (mem_events_step h hwrite) (result_eq_step hreach hresult h)
  | timedOut query => exact .timedOut query
  | answered query event value hanswer hpublished =>
      exact .answered query event value hanswer (mem_events_step h hpublished)
  | subscribed reply stream hsent =>
      exact .subscribed reply stream (hsent.trans (length_eventTx_step h))
  | shutDown reply hreturned =>
      have hidles := idles_of_ended (slots hreach) (hasEnded_eq_true_iff.2 (.inl hreturned)) h
      have houtcome : s.shutdownOutcome = s'.shutdownOutcome := by
        rw [shutdownOutcome, shutdownOutcome, hidles.result]
      exact houtcome ▸ .shutDown reply (hidles.phase.trans hreturned)

/-- A status was published. -/
theorem Gives.published {message : Message} {value : ReplyValue} (h : Gives s message (.ok value))
    (hdone : value ≠ .done) (hstream : ∀ stream, value ≠ .stream stream) :
    ∃ (query : QueryRequest) (event : BoardEvent), query.answer event = some value ∧
      .published (.ok event) ∈ s.events := by
  generalize hresult : (Except.ok value : Reply) = result at h
  cases h with
  | answered query event value' hanswer hpublished =>
      cases hresult
      exact ⟨query, event, hanswer, hpublished⟩
  | subscribed reply stream hsent =>
      cases hresult
      exact absurd rfl (hstream stream)
  | sent =>
      cases hresult
      exact absurd rfl hdone
  | shutDown =>
      unfold shutdownOutcome at hresult
      split at hresult
      · cases hresult
        exact absurd rfl hdone
      · cases hresult
  | _ => cases hresult

/-- A failure of the transport is retained. -/
theorem Gives.retained {message : Message} (h : Gives s message (.error .transportFailed)) :
    ∃ error, s.result = .error (.transport error) ∧
      ((∃ reply, message = .shutdown reply) ∧ s.phase = .returned ∨
        ∃ command, .returned (.writeCommand command) (some message) (.error error) ∈ s.events) := by
  generalize hresult : (Except.error HandleError.transportFailed : Reply) = result at h
  cases h with
  | sendFailed command reply error hwrite hfailed => exact ⟨error, hfailed, .inr ⟨_, hwrite⟩⟩
  | queryFailed query error hwrite hfailed => exact ⟨error, hfailed, .inr ⟨_, hwrite⟩⟩
  | shutDown reply hreturned =>
      unfold shutdownOutcome at hresult
      cases hfailed : s.result with
      | ok ok =>
          rw [hfailed] at hresult
          cases hresult
      | error error =>
          obtain ⟨error⟩ := error
          exact ⟨error, rfl, .inl ⟨⟨reply, rfl⟩, hreturned⟩⟩
  | _ => cases hresult

/-- Every reply is one of the answers to a message that entered the channel. -/
def Given (s : Actor ε) : Prop :=
  ∀ reply value, .replied reply value ∈ s.events →
    ∃ message, message.reply = reply ∧ .enqueued message ∈ s.events ∧ Gives s message value

/-- What happened to a held request is in the record. -/
theorem mem_events_of_held (hbooks : Books s) {ticket : ReplyId × List (Event ε)}
    (hheld : ticket ∈ held s) {event : Event ε} (hmem : event ∈ ticket.2) : event ∈ s.events := by
  rw [← hbooks.story_eq ticket hheld] at hmem
  exact (mem_story.1 hmem).1

theorem Given.keep (hreach : Reachable config s) (hs : Given s) (h : Transition config s action s')
    {reply : ReplyId} {value : Reply} (hmem : .replied reply value ∈ s.events) :
    ∃ message, message.reply = reply ∧ .enqueued message ∈ s'.events ∧ Gives s' message value := by
  obtain ⟨message, hreply, henqueued, hgives⟩ := hs reply value hmem
  exact ⟨message, hreply, mem_events_step h henqueued, hgives.step hreach h⟩

/-- A step that answers nothing. -/
theorem Given.quiet (hreach : Reachable config s) (hs : Given s)
    (h : Transition config s action s') (hevents : s'.events = s.events ++ es)
    (hes : ∀ reply value, .replied reply value ∉ es) : Given s' := by
  intro reply value hmem
  rw [hevents] at hmem
  exact hs.keep hreach h ((List.mem_append.1 hmem).resolve_right (hes reply value))

/-- A step that answers a held request. -/
theorem Given.answer (hreach : Reachable config s) (hs : Given s)
    (h : Transition config s action s') (hevents : s'.events = s.events ++ es)
    (hpanic : ∀ panic, s.phase ≠ .panicked panic) {ticket : ReplyId × List (Event ε)}
    (hheld : ticket ∈ held s) {message : Message} (henqueued : .enqueued message ∈ ticket.2)
    {value : Reply} (hgives : Gives s' message value)
    (hes : ∀ reply value', .replied reply value' ∈ es → reply = message.reply ∧ value' = value) :
    Given s' := by
  intro reply value' hmem
  rw [hevents] at hmem
  rcases List.mem_append.1 hmem with hmem | hmem
  · exact hs.keep hreach h hmem
  · obtain ⟨rfl, rfl⟩ := hes reply value' hmem
    have hold := mem_events_of_held (books hreach hpanic) hheld henqueued
    exact ⟨message, rfl, mem_events_step h hold, hgives⟩

theorem given_step (hreach : Reachable config s) (hs : Given s)
    (h : Transition config s action s') : Given s' := by
  have hst := h
  cases h with
  | reserve | cloneHandle | dropHandle | tick | handlesDropped | closeRequests =>
      exact hs.quiet hreach hst (List.append_nil _).symm (by simp)
  -- a write ends
  | queryFailed query error hphase =>
      exact hs.answer hreach hst (events_record _ _) (by simp [hphase])
        ((held_writing (by rw [hphase]; rfl)).mem_iff.2 List.mem_cons_self) List.mem_cons_self
        (.queryFailed query error (by simp) rfl) (by simp [Message.reply])
  | sent command reply hphase =>
      exact hs.answer hreach hst (events_record _ _) (by simp [hphase])
        ((held_writing (by rw [hphase]; rfl)).mem_iff.2 List.mem_cons_self) List.mem_cons_self
        (.sent command reply (by simp)) (by simp [Message.reply])
  | sendFailed command reply error hphase =>
      exact hs.answer hreach hst (events_record _ _) (by simp [hphase])
        ((held_writing (by rw [hphase]; rfl)).mem_iff.2 List.mem_cons_self) List.mem_cons_self
        (.sendFailed command reply error (by simp) rfl) (by simp [Message.reply])
  -- a message is answered when it is received
  | receiveRefused query waiting hphase hqueue hbusy hfull =>
      exact hs.answer hreach hst (events_record _ _) (by simp [hphase])
        ((held_pop hqueue).mem_iff.2 List.mem_cons_self) List.mem_cons_self (.refused query)
        (by simp [Message.reply])
  | receiveSubscribe reply waiting hphase hqueue =>
      exact hs.answer hreach hst (events_record _ _) (by simp [hphase])
        ((held_pop hqueue).mem_iff.2 List.mem_cons_self) List.mem_cons_self
        (.subscribed reply ⟨s.eventTx.length⟩ (Nat.le_refl _)) (by simp [Message.reply])
  -- the active query ends
  | resolved notification query value event hphase hpending hanswer hevent =>
      obtain ⟨event', hobserve, hanswer'⟩ := QueryRequest.observe_of_answerOf hanswer
      obtain rfl : event' = event := Except.ok.inj (Option.some.inj (hobserve.symm.trans hevent))
      exact hs.answer hreach hst (events_record _ _) (by simp [hphase])
        ((held_pending hpending).mem_iff.2 List.mem_cons_self) List.mem_cons_self
        (.answered query.request event' value hanswer' (by simp)) (by simp [Message.reply])
  | timedOut query hphase hpending hdeadline =>
      exact hs.answer hreach hst (events_record _ _) (by simp [hphase])
        ((held_pending hpending).mem_iff.2 List.mem_cons_self) List.mem_cons_self
        (.timedOut query.request) (by simp [Message.reply])
  -- what waits is rejected
  | rejectActive query hphase hpending =>
      have hclosed : s.requestRx.closed = true := by simpa [Slots, hphase] using slots hreach
      exact hs.answer hreach hst (events_record _ _) (by simp [hphase])
        ((held_pending hpending).mem_iff.2 List.mem_cons_self) List.mem_cons_self
        (.rejected (.query query.request) hclosed) (by simp [Message.reply])
  | rejectQueued query rest hphase hpending hqueued =>
      have hclosed : s.requestRx.closed = true := by simpa [Slots, hphase] using slots hreach
      exact hs.answer hreach hst (events_record _ _) (by simp [hphase])
        ((held_queued [] rest hqueued).mem_iff.2 List.mem_cons_self) List.mem_cons_self
        (.rejected (.query query) hclosed) (by simp [Message.reply])
  | rejectMessage message waiting hphase hpending hqueued hqueue =>
      have hclosed : s.requestRx.closed = true := by simpa [Slots, hphase] using slots hreach
      exact hs.answer hreach hst (events_record _ _) (by simp [hphase])
        ((held_pop hqueue).mem_iff.2 List.mem_cons_self) List.mem_cons_self
        (.rejected message hclosed) (by simp)
  | finish hphase =>
      rcases Option.eq_none_or_eq_some s.shutdownReply with hreply | ⟨reply, hreply⟩
      · exact hs.quiet hreach hst (events_record _ _) (by simp [hreply])
      · exact hs.answer hreach hst (events_record _ _) (by simp [hphase])
          ((held_shutdown hreply).mem_iff.2 List.mem_cons_self) List.mem_cons_self
          (.shutDown reply rfl) (by simp [hreply, Message.reply, shutdownOutcome])
  | observed notification hphase hanswer =>
      exact hs.quiet hreach hst (events_record _ _) (by cases observe notification <;> simp)
  | queryOverflowed query hphase hoverflow =>
      exact hs.quiet hreach hst (events_record _ _) (by simp)
  | _ => exact hs.quiet hreach hst (events_record _ _) (by simp)

theorem given (h : Reachable config s) : Given s := by
  refine h.induct (P := Given) ?_ ?_
  · intro now reply value hmem
    simp [events, runActor] at hmem
  · intro s action s' hreach hs hst
    exact given_step hreach hs hst

/-- A `Send` is answered in the step in which its write returns. -/
theorem replied_of_returned (h : Reachable config s) {command : Command} {reply : ReplyId}
    {written : Except ε Unit}
    (hmem : .returned (.writeCommand command) (some (.send command reply)) written ∈ s.events) :
    ∃ value, .replied reply value ∈ s.events := by
  refine h.induct (P := fun s =>
    .returned (.writeCommand command) (some (.send command reply)) written ∈ s.events →
      ∃ value, .replied reply value ∈ s.events) ?_ ?_ hmem
  · intro now hmem
    simp [events, runActor] at hmem
  · intro s action s' _ hs hst hmem
    by_cases hold :
        .returned (.writeCommand command) (some (.send command reply)) written ∈ s.events
    · obtain ⟨value, hvalue⟩ := hs hold
      exact ⟨value, mem_events_step hst hvalue⟩
    · cases hst with
      | reserve | cloneHandle | dropHandle | tick | handlesDropped | closeRequests =>
          exact absurd hmem hold
      | sent command' reply' hphase =>
          rw [events_record] at hmem
          have hnew := (List.mem_append.1 hmem).resolve_left hold
          obtain rfl : reply = reply' := by simp_all
          exact ⟨.ok .done, by simp⟩
      | sendFailed command' reply' error hphase =>
          rw [events_record] at hmem
          have hnew := (List.mem_append.1 hmem).resolve_left hold
          obtain rfl : reply = reply' := by simp_all
          exact ⟨.error .transportFailed, by simp⟩
      | observed notification hphase hanswer =>
          rw [events_record] at hmem
          have hnew := (List.mem_append.1 hmem).resolve_left hold
          cases observe notification <;> simp at hnew
      | _ =>
          rw [events_record] at hmem
          have hnew := (List.mem_append.1 hmem).resolve_left hold
          simp at hnew

end Given

end Actor

end ChessnutMove.Tokio
