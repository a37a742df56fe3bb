import ChessnutMove.Tokio.Broadcast
import ChessnutMove.Tokio.Slots

set_option autoImplicit false

/-! # Notifications that change nothing

A malformed notification is published as an error and an acknowledgement is dropped; nothing else
changes. The run with one more such notification is beside the run without it: the same but for the
values sent on the broadcast channel, the log, and the positions in the first that streams handed
out later start at. No guard of a step reads any of these. -/

namespace ChessnutMove.Tokio

variable {ε : Type}

/-! ## Positions of streams -/

/-- The event when this many more values have been published before it. -/
def Event.later (extra : Nat) : Event ε → Event ε
  | .replied reply (.ok (.stream stream)) =>
      .replied reply (.ok (.stream { subscribedAt := stream.subscribedAt + extra }))
  | event => event

def Entry.later (extra : Nat) (entry : Entry ε) : Entry ε :=
  { entry with event := entry.event.later extra }

/-- The stream that an event hands out. -/
def Event.stream : Event ε → Option EventStream
  | .replied _ (.ok (.stream stream)) => some stream
  | _ => none

theorem Event.later_of_no_stream {event : Event ε} (h : event.stream = none) (extra : Nat) :
    event.later extra = event := by
  unfold Event.later
  split
  · cases h
  · rfl

/-! ## What an event shows -/

/-- A transport call with its owner, when it starts and when it returns. -/
def Event.onTransport : Event ε → Option (TransportCall × Option Message × Option (Except ε Unit))
  | .called call owner => some (call, owner, none)
  | .returned call owner result => some (call, owner, some result)
  | _ => none

def Event.lifecycleState : Event ε → Option LifecycleState
  | .lifecycle state => some state
  | _ => none

/-- The answer to a request; to `subscribe_events` it is what the stream receives of the values
    sent. -/
def Event.answer (sent : List Published) : Event ε → Option (ReplyId × (Reply ⊕ List Published))
  | .replied reply (.ok (.stream stream)) => some (reply, .inr (stream.received sent))
  | .replied reply value => some (reply, .inl value)
  | _ => none

section Later

variable {event : Event ε} {extra : Nat}

theorem Event.onTransport_later (event : Event ε) :
    (event.later extra).onTransport = event.onTransport := by
  unfold Event.later
  split <;> rfl

theorem Event.lifecycleState_later (event : Event ε) :
    (event.later extra).lifecycleState = event.lifecycleState := by
  unfold Event.later
  split <;> rfl

theorem EventStream.received_later {stream : EventStream} {before added values : List Published}
    (h : before.length ≤ stream.subscribedAt) :
    EventStream.received { subscribedAt := stream.subscribedAt + added.length }
      (before ++ added ++ values) = stream.received (before ++ values) := by
  obtain ⟨late, hlate⟩ := Nat.exists_eq_add_of_le h
  have hlength : before.length + late + added.length = (before ++ added).length + late := by
    rw [List.length_append, Nat.add_right_comm]
  simp only [received, hlate, hlength, List.drop_length_add_append]

theorem Event.answer_later {before added values : List Published}
    (h : ∀ stream, event.stream = some stream → before.length ≤ stream.subscribedAt) :
    (event.later added.length).answer (before ++ added ++ values)
      = event.answer (before ++ values) := by
  unfold Event.later
  split
  · next reply stream =>
      simp only [answer, EventStream.received_later (h stream rfl)]
  · next hother =>
      unfold answer
      split
      · next reply stream => exact absurd rfl (hother reply stream)
      · rfl
      · rfl

end Later

/-! ## Notifications without an event -/

/-- The notification is an acknowledgement, or malformed; with the values that are published for
    it. -/
inductive NoEvent (notification : Notification) : List Published → Prop
  | acknowledged (h : decodeNotification notification = .ok .realtimeUpdatesAcknowledged) :
      NoEvent notification []
  | malformed (error : DecodeNotificationError)
      (h : decodeNotification notification = .error error) :
      NoEvent notification [.error error]

/-- What is recorded when such a notification is received, until the task is in `select!` again. -/
def ignoring (notification : Notification) (added : List Published) : List (Event ε) :=
  .notified (.ok notification) :: (added.map .published ++ [.nextNotification])

theorem NoEvent.observe_eq {notification : Notification} {added : List Published}
    (h : NoEvent notification added) : (observe notification).toList = added := by
  cases h with
  | acknowledged h => rw [observe, h]; rfl
  | malformed error h => rw [observe, h]; rfl

theorem NoEvent.answerOf_eq {notification : Notification} {added : List Published}
    (h : NoEvent notification added) (query : QueryRequest) :
    query.answerOf notification = none := by
  cases h with
  | acknowledged h => rw [QueryRequest.answerOf, h]
  | malformed error h => rw [QueryRequest.answerOf, h]

namespace Actor

/-! ## Steps alongside each other -/

/-- From `s` to `s'` and from `t` to `t'` the same happens; streams handed out in between start at
    the end of what has been sent. -/
structure Alongside (extra : Nat) (s s' t t' : Actor ε) : Prop where
  rest : t' = { s' with eventTx := t'.eventTx, log := t'.log }
  sent : ∃ values, s'.eventTx = s.eventTx ++ values ∧ t'.eventTx = t.eventTx ++ values
  logged : ∃ es, s'.log = s.log ++ es ∧ t'.log = t.log ++ es.map (Entry.later extra) ∧
    ∀ stream ∈ extract Event.stream es, stream.subscribedAt = s.eventTx.length

section Alongside

variable {config : ActorConfig} {extra : Nat} {s s' t w : Actor ε} {action : Action ε}
  {es : List (Event ε)} {sent : List Published} {log : List (Entry ε)}

/-- A step that records events and publishes values, and hands out no stream. -/
theorem alongside_publish {values : List Published} (hstreams : es.filterMap Event.stream = [])
    (hsent : w.eventTx = s.eventTx ++ values) (hlog : w.log = s.log) :
    Alongside extra s (w.record es) { s with eventTx := sent, log := log }
      ({ w with eventTx := sent ++ values, log := log }.record es) := by
  have hsame : (es.map (⟨w.now, ·⟩)).map (Entry.later extra)
      = es.map (⟨w.now, ·⟩ : Event ε → Entry ε) := by
    rw [List.map_map]
    refine List.map_congr_left fun event hmem => ?_
    have hnone := List.filterMap_eq_nil_iff.1 hstreams event hmem
    exact congrArg (Entry.mk w.now) (Event.later_of_no_stream hnone extra)
  refine ⟨rfl, ⟨values, hsent, rfl⟩, es.map (⟨w.now, ·⟩), ?_, ?_, ?_⟩
  · rw [log_record, hlog]
  · rw [hsame]
    rfl
  · simp [hstreams]

theorem alongside_record (hstreams : es.filterMap Event.stream = [])
    (hsent : w.eventTx = s.eventTx) (hlog : w.log = s.log) :
    Alongside extra s (w.record es) { s with eventTx := sent, log := log }
      ({ w with eventTx := sent, log := log }.record es) := by
  rw [← List.append_nil s.eventTx] at hsent
  have halong : Alongside extra s (w.record es) { s with eventTx := sent, log := log }
      ({ w with eventTx := sent ++ [], log := log }.record es) :=
    alongside_publish hstreams hsent hlog
  rwa [List.append_nil] at halong

/-- A step that records nothing. -/
theorem alongside_quiet (hsent : w.eventTx = s.eventTx) (hlog : w.log = s.log) :
    Alongside extra s w { s with eventTx := sent, log := log }
      { w with eventTx := sent, log := log } := by
  refine ⟨rfl, ⟨[], ?_, ?_⟩, [], ?_, ?_, ?_⟩
  · rw [hsent, List.append_nil]
  · exact (List.append_nil sent).symm
  · rw [hlog, List.append_nil]
  · exact (List.append_nil log).symm
  · simp

/-- **No step depends on what has been sent or recorded.** From a state that differs only in these,
    the same action is possible and the same happens. -/
theorem transition_alongside (h : Transition config s action s')
    (ht : t = { s with eventTx := t.eventTx, log := t.log })
    (hextra : t.eventTx.length = s.eventTx.length + extra) :
    ∃ t', Transition config t action t' ∧ Alongside extra s s' t t' := by
  obtain ⟨sent, log, rfl⟩ : ∃ sent log, t = { s with eventTx := sent, log := log } := ⟨_, _, ht⟩
  cases h with
  | reserve h =>
      refine ⟨_, .reserve (by exact h), ?_⟩
      exact alongside_quiet rfl rfl
  | enqueue request hreceives h =>
      refine ⟨_, .enqueue request (by exact hreceives) (by exact h), ?_⟩
      exact alongside_record rfl rfl rfl
  | cloneHandle h =>
      refine ⟨_, .cloneHandle h, ?_⟩
      exact alongside_quiet rfl rfl
  | dropHandle h =>
      refine ⟨_, .dropHandle h, ?_⟩
      exact alongside_quiet rfl rfl
  | tick elapsed now h =>
      refine ⟨_, .tick elapsed now h, ?_⟩
      exact alongside_quiet rfl rfl
  | handlesDropped hphase hqueue hsenders =>
      refine ⟨_, .handlesDropped hphase hqueue hsenders, ?_⟩
      exact alongside_quiet rfl rfl
  | initializeFailed calls error hphase =>
      refine ⟨_, .initializeFailed calls error hphase, ?_⟩
      exact alongside_record rfl rfl rfl
  | initializeNext first next rest hphase =>
      refine ⟨_, .initializeNext first next rest hphase, ?_⟩
      exact alongside_record rfl rfl rfl
  | initialized last hphase =>
      refine ⟨_, .initialized last hphase, ?_⟩
      exact alongside_record rfl rfl rfl
  | startQueued query rest hphase hpending hqueued =>
      refine ⟨_, .startQueued query rest hphase hpending hqueued, ?_⟩
      exact alongside_record rfl rfl rfl
  | select hphase hready =>
      refine ⟨_, .select hphase hready, ?_⟩
      exact alongside_record rfl rfl rfl
  | queryFailed query error hphase =>
      refine ⟨_, .queryFailed query error hphase, ?_⟩
      exact alongside_record rfl rfl rfl
  | queryOverflowed query hphase hoverflow =>
      refine ⟨_, .queryOverflowed query hphase hoverflow, ?_⟩
      exact alongside_record rfl rfl rfl
  | queryStarted query deadline hphase hdeadline =>
      refine ⟨_, .queryStarted query deadline hphase hdeadline, ?_⟩
      exact alongside_record rfl rfl rfl
  | sent command reply hphase =>
      refine ⟨_, .sent command reply hphase, ?_⟩
      exact alongside_record rfl rfl rfl
  | sendFailed command reply error hphase =>
      refine ⟨_, .sendFailed command reply error hphase, ?_⟩
      exact alongside_record rfl rfl rfl
  | receiveSend command reply waiting hphase hqueue =>
      refine ⟨_, .receiveSend command reply waiting hphase hqueue, ?_⟩
      exact alongside_record rfl rfl rfl
  | receiveFirstQuery query waiting hphase hqueue hpending hqueued =>
      refine ⟨_, .receiveFirstQuery query waiting hphase hqueue hpending hqueued, ?_⟩
      exact alongside_record rfl rfl rfl
  | receiveQueued query waiting hphase hqueue hbusy hroom =>
      refine ⟨_, .receiveQueued query waiting hphase hqueue hbusy hroom, ?_⟩
      exact alongside_record rfl rfl rfl
  | receiveRefused query waiting hphase hqueue hbusy hfull =>
      refine ⟨_, .receiveRefused query waiting hphase hqueue hbusy hfull, ?_⟩
      exact alongside_record rfl rfl rfl
  | receiveShutdown reply waiting hphase hqueue =>
      refine ⟨_, .receiveShutdown reply waiting hphase hqueue, ?_⟩
      exact alongside_record rfl rfl rfl
  | notificationFailed error hphase =>
      refine ⟨_, .notificationFailed error hphase, ?_⟩
      exact alongside_record rfl rfl rfl
  | timedOut query hphase hpending hdeadline =>
      refine ⟨_, .timedOut query hphase hpending hdeadline, ?_⟩
      exact alongside_record rfl rfl rfl
  | shutDown hphase =>
      refine ⟨_, .shutDown hphase, ?_⟩
      exact alongside_record rfl rfl rfl
  | closeRequests hphase =>
      refine ⟨_, .closeRequests hphase, ?_⟩
      exact alongside_quiet rfl rfl
  | rejectActive query hphase hpending =>
      refine ⟨_, .rejectActive query hphase hpending, ?_⟩
      exact alongside_record rfl rfl rfl
  | rejectQueued query rest hphase hpending hqueued =>
      refine ⟨_, .rejectQueued query rest hphase hpending hqueued, ?_⟩
      exact alongside_record rfl rfl rfl
  | rejectMessage message waiting hphase hpending hqueued hqueue =>
      refine ⟨_, .rejectMessage message waiting hphase hpending hqueued hqueue, ?_⟩
      exact alongside_record rfl rfl rfl
  | startCleanup hphase hpending hqueued hqueue =>
      refine ⟨_, .startCleanup hphase hpending hqueued hqueue, ?_⟩
      exact alongside_record rfl rfl rfl
  | cleanupFailed calls error hphase =>
      refine ⟨_, .cleanupFailed calls error hphase, ?_⟩
      exact alongside_record rfl rfl rfl
  | cleanupNext first next rest hphase =>
      refine ⟨_, .cleanupNext first next rest hphase, ?_⟩
      exact alongside_record rfl rfl rfl
  | cleanedUp last hphase =>
      refine ⟨_, .cleanedUp last hphase, ?_⟩
      exact alongside_record rfl rfl rfl
  | finish hphase =>
      refine ⟨_, .finish hphase, ?_⟩
      refine alongside_record ?_ rfl rfl
      cases s.shutdownReply <;> cases s.result <;> rfl
  | resolved notification query value event hphase hpending hanswer hevent =>
      refine ⟨_, .resolved notification query value event hphase hpending hanswer hevent, ?_⟩
      refine alongside_publish ?_ rfl rfl
      cases value with
      | stream stream => exact absurd hanswer QueryRequest.answerOf_ne_stream
      | _ => rfl
  | observed notification hphase hanswer =>
      refine ⟨_, .observed notification hphase hanswer, ?_⟩
      refine alongside_publish ?_ rfl rfl
      cases observe notification <;> rfl
  -- a stream starts at the end of what has been sent
  | receiveSubscribe reply waiting hphase hqueue =>
      refine ⟨_, .receiveSubscribe reply waiting hphase hqueue, ?_⟩
      refine ⟨rfl, ⟨[], (List.append_nil _).symm, (List.append_nil _).symm⟩, _, rfl, ?_, ?_⟩
      · simp [record, Entry.later, Event.later, hextra]
      · simp [Event.stream]

end Alongside

/-! ## Runs beside each other -/

/-- `u` and `u'` continue the same run from `s`, to `u'` after more values and entries than to
    `u`. -/
structure Beside (s : Actor ε) (added : List Published) (inserted : List (Entry ε))
    (u u' : Actor ε) : Prop where
  rest : u' = { u with eventTx := u'.eventTx, log := u'.log }
  sent : ∃ values, u.eventTx = s.eventTx ++ values ∧ u'.eventTx = s.eventTx ++ added ++ values
  logged : ∃ es, u.log = s.log ++ es ∧
    u'.log = s.log ++ inserted ++ es.map (Entry.later added.length) ∧
      ∀ stream ∈ extract Event.stream es, s.eventTx.length ≤ stream.subscribedAt

/-- The continuation `u'` of `s` that received one more notification is the continuation `u`, but
    for the added values. -/
structure Undisturbed (s : Actor ε) (added : List Published) (u u' : Actor ε) : Prop where
  /-- Phase, active query and deadline, queue, lifecycle state and exit result are among the
      rest. -/
  state : u' = { u with eventTx := u'.eventTx, log := u'.log }
  published : ∃ values, u.eventTx = s.eventTx ++ values ∧ u'.eventTx = s.eventTx ++ added ++ values
  transport : extract Event.onTransport u'.log = extract Event.onTransport u.log
  lifecycle : extract Event.lifecycleState u'.log = extract Event.lifecycleState u.log
  /-- The replies up to `s` are the same, and so is what every later reply is worth. -/
  replies : ∃ es es', u.log = s.log ++ es ∧ u'.log = s.log ++ es' ∧
    extract (Event.answer u'.eventTx) es' = extract (Event.answer u.eventTx) es

section Runs

variable {config : ActorConfig} {s u u' v : Actor ε} {added : List Published}
  {inserted : List (Entry ε)}

theorem beside_step {action : Action ε} (h : Beside s added inserted u u')
    (hst : step config u action = some v) :
    ∃ v', step config u' action = some v' ∧ Beside s added inserted v v' := by
  obtain ⟨values, hsent, hsent'⟩ := h.sent
  obtain ⟨es, hlog, hlog', hstreams⟩ := h.logged
  have hextra : u'.eventTx.length = u.eventTx.length + added.length := by
    simp only [hsent, hsent', List.length_append]
    omega
  obtain ⟨v', hst', halong⟩ := transition_alongside (transition_of_step hst) h.rest hextra
  obtain ⟨more, hmore, hmore'⟩ := halong.sent
  obtain ⟨fs, hfs, hfs', hlater⟩ := halong.logged
  refine ⟨v', step_of_transition hst', halong.rest, ⟨values ++ more, ?_, ?_⟩, es ++ fs, ?_, ?_, ?_⟩
  · rw [hmore, hsent, List.append_assoc]
  · rw [hmore', hsent', List.append_assoc]
  · rw [hfs, hlog, List.append_assoc]
  · rw [hfs', hlog', List.map_append, List.append_assoc]
  · intro stream hmem
    rw [extract_append, List.mem_append] at hmem
    rcases hmem with hmem | hmem
    · exact hstreams stream hmem
    · rw [hlater stream hmem, hsent, List.length_append]
      exact Nat.le_add_right _ _

/-- A notification without an event brings the task back to `select!`: there is no queued query to
    start. -/
theorem run_noEvent (h : Reachable config s) (hphase : s.phase = .selecting)
    {notification : Notification} (hno : NoEvent notification added) :
    StepMachine.run (step config) s [.notification (.ok notification), .proceed]
      = some ({ s with eventTx := s.eventTx ++ added }.record
          (ignoring notification added)) := by
  have hslots := slots h
  rw [Slots, hphase] at hslots
  have hobserved : Transition config s _ _ :=
    .observed notification hphase fun query _ => hno.answerOf_eq query.request
  rw [hno.observe_eq] at hobserved
  refine StepMachine.run_cons_eq_some.2 ⟨_, step_of_transition hobserved,
    StepMachine.run_cons_eq_some.2 ⟨_, step_of_transition (.select rfl hslots.1), ?_⟩⟩
  rw [StepMachine.run_nil, ignoring, ← List.cons_append, ← record_record, Option.some.injEq]
  simp only [record, hphase]

theorem beside_noEvent (events : List (Event ε)) :
    Beside s added (events.map (⟨s.now, ·⟩)) s
      ({ s with eventTx := s.eventTx ++ added }.record events) := by
  refine ⟨rfl, ⟨[], ?_, ?_⟩, [], ?_, ?_, ?_⟩
  · exact (List.append_nil _).symm
  · exact (List.append_nil _).symm
  · exact (List.append_nil _).symm
  · exact (List.append_nil _).symm
  · simp

/-! ## What is the same -/

section Same

variable {es : List (Entry ε)} {before values : List Published}

/-- A function that passes over the streams finds the same after more values. -/
theorem extract_later {β : Type} {f : Event ε → Option β} {k : Nat}
    (hf : ∀ event, f (event.later k) = f event) :
    extract f (es.map (Entry.later k)) = extract f es := by
  rw [extract_map]
  exact List.filterMap_congr fun entry _ => hf entry.event

theorem extract_answer_later
    (hstreams : ∀ stream ∈ extract Event.stream es, before.length ≤ stream.subscribedAt) :
    extract (Event.answer (before ++ added ++ values)) (es.map (Entry.later added.length))
      = extract (Event.answer (before ++ values)) es := by
  rw [extract_map]
  refine List.filterMap_congr fun entry hmem => Event.answer_later fun stream hstream => ?_
  exact hstreams stream (List.mem_filterMap.2 ⟨entry, hmem, hstream⟩)

/-- Only the reception itself is recorded for a notification without an event. -/
theorem extract_ignoring {β : Type} {f : Event ε → Option β} {notification : Notification}
    (hnotified : f (.notified (.ok notification)) = none) (hnext : f .nextNotification = none)
    (hpublished : ∀ value, f (.published value) = none) (now : Instant) :
    extract f ((ignoring notification added).map (⟨now, ·⟩)) = [] := by
  simp [ignoring, hnotified, hnext, hpublished]

end Same

theorem undisturbed_of_beside {notification : Notification}
    (h : Beside s added ((ignoring notification added).map (⟨s.now, ·⟩)) u u') :
    Undisturbed s added u u' := by
  obtain ⟨values, hsent, hsent'⟩ := h.sent
  obtain ⟨es, hlog, hlog', hstreams⟩ := h.logged
  rw [List.append_assoc] at hlog'
  refine ⟨h.rest, ⟨values, hsent, hsent'⟩, ?_, ?_, es, _, hlog, hlog', ?_⟩
  · rw [hlog, hlog', extract_append, extract_append, extract_append,
      extract_ignoring rfl rfl (fun _ => rfl), extract_later Event.onTransport_later,
      List.nil_append]
  · rw [hlog, hlog', extract_append, extract_append, extract_append,
      extract_ignoring rfl rfl (fun _ => rfl), extract_later Event.lifecycleState_later,
      List.nil_append]
  · rw [hsent, hsent', extract_append, extract_ignoring rfl rfl (fun _ => rfl), List.nil_append]
    exact extract_answer_later hstreams

/-- **Notifications without an event interfere with nothing.** A notification is only received in
    `select!`. A run that is in `select!` after `as` and continues with `bs` remains a run when an
    acknowledgement or a malformed notification is received in between, and at the end of every
    `bs` all else is as it would have been. -/
theorem noninterference (config : ActorConfig) (now : Instant) (as bs : List (Action ε))
    (s u : Actor ε) (notification : Notification) (added : List Published)
    (hs : runFrom config now as = some s) (hphase : s.phase = .selecting)
    (hu : StepMachine.run (step config) s bs = some u) (hno : NoEvent notification added) :
    ∃ u', runFrom config now (as ++ [.notification (.ok notification), .proceed] ++ bs) = some u' ∧
      Undisturbed s added u u' := by
  have hrun := run_noEvent (.of_runFrom hs) hphase hno
  obtain ⟨u', hrun', hbeside⟩ := StepMachine.run_simulates (fun _ _ _ _ => beside_step)
    (beside_noEvent (ignoring notification added)) hu
  refine ⟨u', ?_, undisturbed_of_beside hbeside⟩
  have hignored := StepMachine.run_append_eq_some.2 ⟨s, hs, hrun⟩
  exact StepMachine.run_append_eq_some.2 ⟨_, hignored, hrun'⟩

/-- A run to the `select!` in which one query is active and one is queued. -/
def queuedRun : List (Action Unit) :=
  [.callReturned (.ok ()), .callReturned (.ok ()), .callReturned (.ok ()), .proceed, .reserve,
    .enqueue .batteryStatus, .receive, .callReturned (.ok ()), .proceed, .reserve,
    .enqueue .pieceStatus, .receive, .proceed]

/-- Its continuation with a subscriber, the answer to the first query and the start of the
    second. -/
def answeredRun : List (Action Unit) :=
  [.reserve, .enqueue .subscribeEvents, .receive, .proceed,
    .notification (.ok ⟨.commandResponse, [0x41, 0x03, 0x0c, 0x01, 74]⟩), .proceed,
    .callReturned (.ok ()), .proceed]

theorem queuedRun_noninterference :
    ∃ s u u', runFrom ActorConfig.default .zero queuedRun = some s ∧
      runFrom ActorConfig.default .zero
        (queuedRun ++ [.notification (.ok ⟨.position, []⟩), .proceed] ++ answeredRun) = some u' ∧
      Undisturbed s [.error (.position (.notificationTooShort ⟨34, 0⟩))] u u' := by
  have hs : runFrom ActorConfig.default .zero queuedRun = some _ := rfl
  obtain ⟨u', hu', hundisturbed⟩ := noninterference ActorConfig.default .zero queuedRun answeredRun
    _ _ ⟨.position, []⟩ _ hs rfl rfl (.malformed _ rfl)
  exact ⟨_, _, u', hs, hu', hundisturbed⟩

end Runs

end Actor

end ChessnutMove.Tokio
