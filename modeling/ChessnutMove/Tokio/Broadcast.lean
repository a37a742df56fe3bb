import ChessnutMove.Library.History
import ChessnutMove.Tokio.Steps
import ChessnutMove.Transport.Session

set_option autoImplicit false

/-! # What event streams receive

The values sent on the broadcast channel are what the notifications of the run make observable, in
order; a subscriber is handed the ones sent after its request was handled. That is a simulation of
a sequential session: `AsyncBoard::next_event`, called again and again on a transport that
delivers the same notifications, returns the same values. -/

namespace ChessnutMove.Tokio

variable {ε : Type}

/-- The notification an event brought. -/
def Event.notification : Event ε → Option Notification
  | .notified (.ok notification) => some notification
  | _ => none

/-- The value an event sent on the broadcast channel. -/
def Event.publishedValue : Event ε → Option Published
  | .published value => some value
  | _ => none

/-- What a subscriber that does not lag receives of the values sent so far. -/
def EventStream.received (stream : EventStream) (sent : List Published) : List Published :=
  sent.drop stream.subscribedAt

namespace Actor

/-- The notifications the transport returned. -/
def notifications (s : Actor ε) : List Notification := s.events.filterMap Event.notification

section Step

variable {config : ActorConfig} {s s' : Actor ε} {action : Action ε}

/-- Every subscription starts after the values published before it. -/
def Subscribed (s : Actor ε) : Prop :=
  AtEach (fun before event => ∀ reply stream, event = .replied reply (.ok (.stream stream)) →
    stream.subscribedAt = (before.filterMap Event.publishedValue).length) s.events

/-- What event streams see of a step that records `es`. -/
structure Publishes (s s' : Actor ε) (es : List (Event ε)) : Prop where
  events_eq : s'.events = s.events ++ es
  eventTx_eq : s'.eventTx = s.eventTx ++ es.filterMap Event.publishedValue
  /-- What is published is what the notification of the step makes observable. -/
  observed : es.filterMap Event.publishedValue
    = (es.filterMap Event.notification).filterMap observe
  /-- A stream starts behind what has been sent so far. -/
  subscribed : AtEach (fun before event => ∀ reply stream,
    event = .replied reply (.ok (.stream stream)) →
      stream.subscribedAt = (s.eventTx ++ before.filterMap Event.publishedValue).length) es

theorem publishes_of_transition (h : Transition config s action s') : ∃ es, Publishes s s' es := by
  cases h with
  | reserve | cloneHandle | dropHandle | tick | handlesDropped | closeRequests =>
      exact ⟨[], (List.append_nil _).symm, (List.append_nil _).symm, rfl, atEach_nil⟩
  | receiveSubscribe reply waiting hphase hqueue =>
      refine ⟨_, events_record .., (List.append_nil _).symm, rfl, ?_⟩
      simp [Event.publishedValue, List.filterMap_cons]
  | resolved notification query value event hphase hpending hanswer hevent =>
      have hvalue : ∀ stream, value ≠ .stream stream := by
        intro stream hstream
        exact QueryRequest.answerOf_ne_stream (hstream ▸ hanswer)
      refine ⟨_, events_record .., rfl, ?_, ?_⟩
      · simp [Event.publishedValue, Event.notification, List.filterMap_cons, hevent]
      · simp [hvalue]
  | observed notification hphase hanswer =>
      cases hobserve : observe notification with
      | none =>
          refine ⟨_, events_record .., rfl, ?_, ?_⟩
          · simp [Event.publishedValue, Event.notification, List.filterMap_cons, hobserve]
          · simp
      | some value =>
          refine ⟨_, events_record .., rfl, ?_, ?_⟩
          · simp [Event.publishedValue, Event.notification, List.filterMap_cons, hobserve]
          · simp
  | finish hphase =>
      cases hreply : s.shutdownReply with
      | none =>
          refine ⟨_, events_record .., (List.append_nil _).symm, rfl, ?_⟩
          simp
      | some reply =>
          refine ⟨_, events_record .., (List.append_nil _).symm, rfl, ?_⟩
          cases hresult : s.result <;> simp
  | _ =>
      refine ⟨_, events_record .., (List.append_nil _).symm, rfl, ?_⟩
      simp

theorem observed_step (hs : s.eventTx = s.notifications.filterMap observe)
    (h : Transition config s action s') : s'.eventTx = s'.notifications.filterMap observe := by
  obtain ⟨es, hes⟩ := publishes_of_transition h
  unfold notifications at hs ⊢
  rw [hes.eventTx_eq, hes.events_eq, List.filterMap_append, List.filterMap_append, hs, hes.observed]

theorem published_step (hs : s.events.filterMap Event.publishedValue = s.eventTx)
    (h : Transition config s action s') :
    s'.events.filterMap Event.publishedValue = s'.eventTx := by
  obtain ⟨es, hes⟩ := publishes_of_transition h
  rw [hes.eventTx_eq, hes.events_eq, List.filterMap_append, hs]

theorem subscribed_step (hpublished : s.events.filterMap Event.publishedValue = s.eventTx)
    (hs : Subscribed s) (h : Transition config s action s') : Subscribed s' := by
  obtain ⟨es, hes⟩ := publishes_of_transition h
  unfold Subscribed
  rw [hes.events_eq, atEach_append]
  refine ⟨hs, ?_⟩
  simpa only [List.filterMap_append, hpublished] using hes.subscribed

theorem published_of_reachable (h : Reachable config s) :
    s.events.filterMap Event.publishedValue = s.eventTx :=
  h.induct (fun _ => rfl) fun _ _ _ _ hs hst => published_step hs hst

theorem subscribed_of_reachable (h : Reachable config s) : Subscribed s := by
  refine h.induct ?_ ?_
  · intro now
    simp [Subscribed, events, runActor]
  · intro s action s' hreach hs hst
    exact subscribed_step (published_of_reachable hreach) hs hst

end Step

/-! ## The simulation -/

/-- What the broadcast channel and its subscribers see of a run. -/
structure Broadcast (s : Actor ε) : Prop where
  /-- The values sent are recorded as published, each once. -/
  published : s.events.filterMap Event.publishedValue = s.eventTx
  /-- They are what the notifications make observable, in order. -/
  observed : s.eventTx = s.notifications.filterMap observe
  /-- A subscriber receives what is published after its request was handled. -/
  subscribed : ∀ before reply stream after,
    s.events = before ++ .replied reply (.ok (.stream stream)) :: after →
      stream.received s.eventTx = after.filterMap Event.publishedValue
  /-- A sequential session on the same notifications returns the same values. -/
  sequential : ∀ {σ ε' : Type} (t : Transport σ ε') (board : BoardState σ),
    Delivers t s.notifications board →
      ∃ fuel last, AsyncBoard.nextEvents t fuel s.eventTx.length board
        = some (s.eventTx.map (Except.mapError .decode), last)

/-- **Event streams lose, duplicate and reorder nothing**, whatever requests and queries run
    beside them. -/
theorem broadcast (config : ActorConfig) (s : Actor ε) (h : Reachable config s) : Broadcast s := by
  have hpublished := published_of_reachable h
  have hobserved : s.eventTx = s.notifications.filterMap observe :=
    h.induct (fun _ => rfl) fun _ _ _ _ hs hst => observed_step hs hst
  refine ⟨hpublished, hobserved, ?_, ?_⟩
  · intro before reply stream after heq
    have hat := subscribed_of_reachable h before _ after heq reply stream rfl
    rw [EventStream.received, ← hpublished, heq, hat, List.filterMap_append, List.drop_left]
    rfl
  · intro σ ε' t board hdelivers
    obtain ⟨last, hlast⟩ := AsyncBoard.nextEvents_of_delivers hdelivers
    rw [hobserved]
    exact ⟨_, last, hlast⟩

/-- A run with a subscriber, a query, an acknowledgement, the answer and a malformed notification.
    -/
def subscriberRun : List (Action Unit) :=
  [.callReturned (.ok ()), .callReturned (.ok ()), .callReturned (.ok ()), .proceed, .reserve,
    .enqueue .subscribeEvents, .receive, .proceed, .reserve, .enqueue .batteryStatus, .receive,
    .callReturned (.ok ()), .proceed, .notification (.ok ⟨.commandResponse, [0x23]⟩), .proceed,
    .notification (.ok ⟨.commandResponse, [0x41, 0x03, 0x0c, 0x01, 74]⟩), .proceed,
    .notification (.ok ⟨.position, []⟩)]

theorem subscriberRun_broadcast :
    ∃ s, runFrom ActorConfig.default .zero subscriberRun = some s ∧ s.eventTx.length = 2 ∧
      Broadcast s := by
  have hrun : runFrom ActorConfig.default .zero subscriberRun = some _ := rfl
  exact ⟨_, hrun, rfl, broadcast ActorConfig.default _ (.of_runFrom hrun)⟩

end Actor

end ChessnutMove.Tokio
