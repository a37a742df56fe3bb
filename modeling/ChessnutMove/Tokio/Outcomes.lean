import ChessnutMove.Tokio.Accounting

set_option autoImplicit false

/-! # How a written query ends

`Active` ties the active slot to the log: the log splits at the write of the active query, the
deadline is the clock reading of that write plus the timeout, and no notification processed since
carries an answer to it. Every successful query write is in one of three situations (`Fate`): its
query is active, or has been concluded in one of the documented ways, or was the write after which
the deadline could not be computed. -/

namespace ChessnutMove.Tokio

variable {ε : Type}

/-- The write of the query has succeeded. -/
def QueryRequest.written (query : QueryRequest) : Event ε :=
  .returned (.writeCommand query.command) (some (.query query)) (.ok ())

/-- No notification among the entries carries an answer to the query. -/
def Quiet (query : QueryRequest) (entries : List (Entry ε)) : Prop :=
  ∀ entry ∈ entries, ∀ notification, entry.event = .notified (.ok notification) →
    query.answerOf notification = none

/-- The log splits into what precedes the write of the query at a clock reading, the entries
    between, the entries that end it, and the rest. -/
def SplitsAt (log : List (Entry ε)) (query : QueryRequest) (written : Instant)
    (between ending : List (Entry ε)) : Prop :=
  ∃ before after, log = before ++ ⟨written, query.written⟩ :: (between ++ ending ++ after)

/-! ## The documented outcomes -/

/-- The query was answered with the payload of the first notification of its own kind processed
    after its write, in the step that processed it: the reply is the next entry, at the same
    clock reading. -/
def AnsweredOk (log : List (Entry ε)) (query : QueryRequest) (written : Instant) : Prop :=
  ∃ between time notification value,
    SplitsAt log query written between
      [⟨time, .notified (.ok notification)⟩, ⟨time, .replied query.reply (.ok value)⟩] ∧
    Quiet query between ∧ query.answerOf notification = some value

/-- The query was answered `RequestTimedOut`, at a clock reading not before its write plus the
    timeout, and no notification of its kind was processed between. -/
def AnsweredTimedOut (timeout : Duration) (log : List (Entry ε)) (query : QueryRequest)
    (written : Instant) : Prop :=
  ∃ between time,
    SplitsAt log query written between [⟨time, .replied query.reply (.error .requestTimedOut)⟩] ∧
    Quiet query between ∧ written.nanos + timeout.nanos ≤ time.nanos

/-- The query was answered `ShuttingDown` after the actor had left its main loop, and no
    notification of its kind was processed between. -/
def AnsweredShuttingDown (log : List (Entry ε)) (query : QueryRequest) (written : Instant) : Prop :=
  ∃ between time,
    SplitsAt log query written between [⟨time, .replied query.reply (.error .shuttingDown)⟩] ∧
    Quiet query between ∧ ∃ left ∈ between, left.event = .lifecycle .shuttingDown

section Append

variable {log es : List (Entry ε)} {query : QueryRequest} {written : Instant}

theorem SplitsAt.append {between ending : List (Entry ε)}
    (h : SplitsAt log query written between ending) :
    SplitsAt (log ++ es) query written between ending := by
  obtain ⟨before, after, rfl⟩ := h
  exact ⟨before, after ++ es, by simp⟩

theorem AnsweredOk.append (h : AnsweredOk log query written) :
    AnsweredOk (log ++ es) query written := by
  obtain ⟨between, time, notification, value, hsplit, hrest⟩ := h
  exact ⟨between, time, notification, value, hsplit.append, hrest⟩

theorem AnsweredTimedOut.append {timeout : Duration}
    (h : AnsweredTimedOut timeout log query written) :
    AnsweredTimedOut timeout (log ++ es) query written := by
  obtain ⟨between, time, hsplit, hrest⟩ := h
  exact ⟨between, time, hsplit.append, hrest⟩

theorem AnsweredShuttingDown.append (h : AnsweredShuttingDown log query written) :
    AnsweredShuttingDown (log ++ es) query written := by
  obtain ⟨between, time, hsplit, hrest⟩ := h
  exact ⟨between, time, hsplit.append, hrest⟩

end Append

namespace Actor

/-! ## The active query -/

/-- The query written at a clock reading is active, and nothing has answered it since. -/
def Active (config : ActorConfig) (s : Actor ε) (query : QueryRequest) (written : Instant) : Prop :=
  ∃ deadline before since,
    s.pendingQuery = some ⟨query, deadline⟩ ∧
    deadline.nanos = written.nanos + config.requestTimeout.nanos ∧
    s.log = before ++ ⟨written, query.written⟩ :: since ∧ Quiet query since ∧
    (s.phase = .closing ∨ s.phase = .rejecting →
      ∃ left ∈ since, left.event = .lifecycle .shuttingDown)

/-- One of the documented outcomes. -/
def Concluded (config : ActorConfig) (log : List (Entry ε)) (query : QueryRequest)
    (written : Instant) : Prop :=
  AnsweredOk log query written ∨ AnsweredTimedOut config.requestTimeout log query written ∨
    AnsweredShuttingDown log query written

theorem Concluded.append {config : ActorConfig} {log es : List (Entry ε)} {query : QueryRequest}
    {written : Instant} (h : Concluded config log query written) :
    Concluded config (log ++ es) query written := by
  rcases h with h | h | h
  · exact .inl h.append
  · exact .inr (.inl h.append)
  · exact .inr (.inr h.append)

section Step

variable {config : ActorConfig} {s s' : Actor ε} {action : Action ε} {query : QueryRequest}
  {written : Instant}

/-- A query stays active through a step that leaves it in its slot and brings no answer to it. -/
theorem Active.frame {es : List (Entry ε)} (h : Active config s query written)
    (hpending : s'.pendingQuery = s.pendingQuery) (hlog : s'.log = s.log ++ es)
    (hquiet : Quiet query es)
    (hphase : s'.phase = .closing ∨ s'.phase = .rejecting →
      (s.phase = .closing ∨ s.phase = .rejecting) ∨
        ∃ left ∈ es, left.event = .lifecycle .shuttingDown) :
    Active config s' query written := by
  obtain ⟨deadline, before, since, hactive, hdeadline, hsplit, hsince, hleft⟩ := h
  refine ⟨deadline, before, since ++ es, hpending.trans hactive, hdeadline, ?_, ?_, ?_⟩
  · rw [hlog, hsplit, List.append_assoc, List.cons_append]
  · intro entry hentry
    rcases List.mem_append.1 hentry with hentry | hentry
    · exact hsince entry hentry
    · exact hquiet entry hentry
  · intro hrejecting
    rcases hphase hrejecting with hphase | ⟨left, hmem, hleft⟩
    · obtain ⟨left, hmem, hleft⟩ := hleft hphase
      exact ⟨left, List.mem_append_left _ hmem, hleft⟩
    · exact ⟨left, List.mem_append_right _ hmem, hleft⟩

theorem Active.pending (h : Active config s query written) : s.pendingQuery ≠ none := by
  obtain ⟨deadline, before, since, hactive, -⟩ := h
  simp [hactive]

theorem active_step (hslots : Slots s) (hs : Active config s query written)
    (h : Transition config s action s') :
    Active config s' query written ∨ Concluded config s'.log query written := by
  have hsome := hs.pending
  unfold Slots at hslots
  cases h with
  | reserve | cloneHandle | dropHandle | tick | handlesDropped | closeRequests =>
      left
      refine hs.frame rfl (List.append_nil _).symm (by simp [Quiet]) ?_
      simp_all
  | resolved notification active value event hphase hpending hanswer hevent =>
      obtain ⟨deadline, before, since, hactive, -, hsplit, hquiet, -⟩ := hs
      obtain rfl := Option.some.inj (hpending.symm.trans hactive)
      right
      left
      refine ⟨since, s.now, notification, value, ⟨before, [⟨s.now, .published (.ok event)⟩], ?_⟩,
        hquiet, hanswer⟩
      simp [hsplit]
  | timedOut active hphase hpending helapsed =>
      obtain ⟨deadline, before, since, hactive, hdeadline, hsplit, hquiet, -⟩ := hs
      obtain rfl := Option.some.inj (hpending.symm.trans hactive)
      right
      right
      left
      refine ⟨since, s.now, ⟨before, [], ?_⟩, hquiet, hdeadline ▸ helapsed⟩
      simp [hsplit]
  | rejectActive active hphase hpending =>
      obtain ⟨deadline, before, since, hactive, -, hsplit, hquiet, hleft⟩ := hs
      obtain rfl := Option.some.inj (hpending.symm.trans hactive)
      right
      right
      right
      refine ⟨since, s.now, ⟨before, [], ?_⟩, hquiet, hleft (.inr hphase)⟩
      simp [hsplit]
  | observed notification hphase hanswer =>
      obtain ⟨deadline, before, since, hactive, -⟩ := id hs
      left
      refine hs.frame rfl rfl ?_ (by simp)
      simp [Quiet, hanswer _ hactive]
  -- the other steps of the main loop keep the query where it is
  | enqueue | select | sent | sendFailed | receiveSend | receiveQueued | receiveRefused
  | receiveSubscribe | receiveShutdown | notificationFailed | shutDown =>
      left
      refine hs.frame rfl rfl (by simp [Quiet]) ?_
      simp_all
  -- in all other phases no query is active
  | _ => simp_all

/-! ## The fate of a written query -/

/-- The query is active, or concluded, or the task panicked computing its deadline. -/
inductive Fate (config : ActorConfig) (s : Actor ε) (query : QueryRequest) (written : Instant) :
    Prop
  | active (h : Active config s query written)
  | concluded (hfits : written.Fits config.requestTimeout)
      (h : Concluded config s.log query written)
  | overflowed (hphase : s.phase = .panicked .deadlineOverflow)
      (hfits : ¬ written.Fits config.requestTimeout)
      (hreply : ∀ value, .replied query.reply value ∉ s.events)

theorem Active.fits (h : Active config s query written) : written.Fits config.requestTimeout := by
  obtain ⟨deadline, before, since, -, hdeadline, -⟩ := h
  rw [Instant.Fits, ← hdeadline]
  exact deadline.bound

/-- The write of the query has succeeded at a clock reading. -/
def Written (s : Actor ε) (query : QueryRequest) (time : Instant) : Prop :=
  ⟨time, query.written⟩ ∈ s.log

/-- Only the successful return of its write makes a query written, and active unless the deadline
    cannot be computed. -/
theorem written_step (h : Transition config s action s') (hs' : Written s' query written) :
    Written s query written ∨
      written = s.now ∧ s.phase = .startingQuery query ∧
        s'.log = s.log ++ [⟨s.now, query.written⟩] ∧
        ((∃ deadline, s.now.checkedAdd config.requestTimeout = some deadline ∧
            s'.pendingQuery = some ⟨query, deadline⟩ ∧ s'.phase = .loopTop) ∨
          s.now.checkedAdd config.requestTimeout = none ∧
            s'.phase = .panicked .deadlineOverflow) := by
  unfold Written at hs' ⊢
  cases h with
  | reserve | cloneHandle | dropHandle | tick | handlesDropped | closeRequests => exact .inl hs'
  | queryStarted started deadline hphase hdeadline =>
      rcases List.mem_append.1 hs' with hs' | hs'
      · exact .inl hs'
      · right
        simp_all [QueryRequest.written]
  | queryOverflowed started hphase hoverflow =>
      rcases List.mem_append.1 hs' with hs' | hs'
      · exact .inl hs'
      · right
        simp_all [QueryRequest.written, unwind]
  | _ =>
      left
      simpa [QueryRequest.written] using hs'

theorem fate_step (hslots : Slots s) (hs : Fate config s query written)
    (h : Transition config s action s') : Fate config s' query written := by
  cases hs with
  | active hs =>
      rcases active_step hslots hs h with hs' | hs'
      · exact .active hs'
      · exact .concluded hs.fits hs'
  | concluded hfits hs =>
      obtain ⟨es, hlog⟩ := log_step h
      exact .concluded hfits (hlog ▸ hs.append)
  | overflowed hphase hfits hreply =>
      refine .overflowed (panicked_step hphase h) hfits fun value hmem => hreply value ?_
      cases h with
      | reserve | cloneHandle | dropHandle | tick => exact hmem
      | _ => simp_all [events]

/-- While its write is under way a query has no reply. -/
theorem not_replied_of_startingQuery (h : Reachable config s)
    (hphase : s.phase = .startingQuery query) (value : Reply) :
    .replied query.reply value ∉ s.events := by
  have hbooks := books h (by simp [hphase])
  have hheld : (query.reply, writing (.query query) query.command) ∈ held s := by
    simp [held, hphase, heldByWrite]
  exact not_replied_of_held hbooks hheld value

/-- **The fate of every successful query write.** -/
theorem fate_of_written (h : Reachable config s) (hw : Written s query written) :
    Fate config s query written := by
  refine h.induct (P := fun s => Written s query written → Fate config s query written) ?_ ?_ hw
  · intro now hw
    simp [Written, runActor, QueryRequest.written] at hw
  · intro s action s' hreach hs hst hw
    rcases written_step hst hw with hw | ⟨rfl, hphase, hlog, hcases⟩
    · exact fate_step (slots hreach) (hs hw) hst
    · rcases hcases with ⟨deadline, hdeadline, hpending, hphase'⟩ | ⟨hoverflow, hphase'⟩
      · refine .active ⟨deadline, s.log, [], hpending, ?_, hlog, by simp [Quiet], ?_⟩
        · exact Instant.checkedAdd_eq_some_iff.1 hdeadline
        · simp [hphase']
      · refine .overflowed hphase' (Instant.checkedAdd_eq_none_iff.1 hoverflow) ?_
        intro value hmem
        have hnone := not_replied_of_startingQuery hreach hphase value
        simp_all [events, QueryRequest.written]

/-- The only panic is the one of the deadline, after a write whose deadline does not exist. -/
theorem panicked_cause (h : Reachable config s) {panic : Panic}
    (hphase : s.phase = .panicked panic) :
    panic = .deadlineOverflow ∧
      ∃ query written, Written s query written ∧ ¬ written.Fits config.requestTimeout := by
  refine h.induct (P := fun s => s.phase = .panicked panic → panic = .deadlineOverflow ∧
    ∃ query written, Written s query written ∧ ¬ written.Fits config.requestTimeout) ?_ ?_ hphase
  · intro now hphase
    cases hphase
  · intro s action s' _ hs hst hphase
    obtain ⟨es, hlog⟩ := log_step hst
    by_cases hbefore : s.phase = .panicked panic
    · obtain ⟨hpanic, query, written, hw, hfits⟩ := hs hbefore
      refine ⟨hpanic, query, written, ?_, hfits⟩
      rw [Written, hlog]
      exact List.mem_append_left _ hw
    · cases hst with
      | queryOverflowed query hstarting hoverflow =>
          refine ⟨(Phase.panicked.inj hphase).symm, query, s.now, ?_,
            Instant.checkedAdd_eq_none_iff.1 hoverflow⟩
          simp [Written, QueryRequest.written, unwind]
      | reserve | enqueue | cloneHandle | dropHandle | tick => exact absurd hphase hbefore
      | _ => simp_all

theorem replied_of_answeredOk (h : AnsweredOk s.log query written) :
    ∃ value, .replied query.reply (.ok value) ∈ s.events := by
  obtain ⟨between, time, notification, value, ⟨before, after, hlog⟩, -⟩ := h
  exact ⟨value, by simp [events, hlog]⟩

theorem replied_of_answeredTimedOut {timeout : Duration}
    (h : AnsweredTimedOut timeout s.log query written) :
    .replied query.reply (.error .requestTimedOut) ∈ s.events := by
  obtain ⟨between, time, ⟨before, after, hlog⟩, -⟩ := h
  simp [events, hlog]

theorem replied_of_answeredShuttingDown (h : AnsweredShuttingDown s.log query written) :
    .replied query.reply (.error .shuttingDown) ∈ s.events := by
  obtain ⟨between, time, ⟨before, after, hlog⟩, -⟩ := h
  simp [events, hlog]

theorem replied_of_concluded (h : Concluded config s.log query written) :
    ∃ value, .replied query.reply value ∈ s.events := by
  rcases h with h | h | h
  · obtain ⟨value, hmem⟩ := replied_of_answeredOk h
    exact ⟨_, hmem⟩
  · exact ⟨_, replied_of_answeredTimedOut h⟩
  · exact ⟨_, replied_of_answeredShuttingDown h⟩

/-- A query gets one reply. -/
theorem reply_unique (h : Reachable config s) (hret : s.phase = .returned) {reply : ReplyId}
    {value value' : Reply} (hmem : .replied reply value ∈ s.events)
    (hmem' : .replied reply value' ∈ s.events) : value = value' := by
  have hanswered := answered_of_replied (books h (by simp [hret])) hmem
  exact hanswered.reply_unique (mem_story.2 ⟨hmem, rfl⟩) (mem_story.2 ⟨hmem', rfl⟩)

end Step

/-! ## Exactly one outcome -/

/-- Exactly one of three statements holds. -/
def ExactlyOne (p q r : Prop) : Prop := (p ∧ ¬ q ∧ ¬ r) ∨ (¬ p ∧ q ∧ ¬ r) ∨ (¬ p ∧ ¬ q ∧ r)

theorem ExactlyOne.or {p q r : Prop} (h : ExactlyOne p q r) : p ∨ q ∨ r := by
  rcases h with ⟨hp, -⟩ | ⟨-, hq, -⟩ | ⟨-, -, hr⟩
  · exact .inl hp
  · exact .inr (.inl hq)
  · exact .inr (.inr hr)

/-- Every written query has exactly one of the documented outcomes. -/
def OutcomesDocumented (config : ActorConfig) (s : Actor ε) : Prop :=
  ∀ query written, Written s query written →
    ExactlyOne (AnsweredOk s.log query written)
      (AnsweredTimedOut config.requestTimeout s.log query written)
      (AnsweredShuttingDown s.log query written)

/-- Every deadline computed in the run lies in the range of instants, and so is one that tokio's
    timer is assumed to accept. -/
def DeadlinesFit (config : ActorConfig) (s : Actor ε) : Prop :=
  ∀ query written, Written s query written → written.Fits config.requestTimeout

section Ended

variable {config : ActorConfig} {s : Actor ε} {query : QueryRequest} {written : Instant}

theorem exactlyOne_of_concluded (h : Reachable config s) (hret : s.phase = .returned)
    (hs : Concluded config s.log query written) :
    ExactlyOne (AnsweredOk s.log query written)
      (AnsweredTimedOut config.requestTimeout s.log query written)
      (AnsweredShuttingDown s.log query written) := by
  have hunique := @reply_unique ε config s h hret query.reply
  have hok : AnsweredOk s.log query written →
      ¬ AnsweredTimedOut config.requestTimeout s.log query written := by
    intro hok htimed
    obtain ⟨value, hmem⟩ := replied_of_answeredOk hok
    cases hunique hmem (replied_of_answeredTimedOut htimed)
  have hok' : AnsweredOk s.log query written → ¬ AnsweredShuttingDown s.log query written := by
    intro hok hshut
    obtain ⟨value, hmem⟩ := replied_of_answeredOk hok
    cases hunique hmem (replied_of_answeredShuttingDown hshut)
  have htimed : AnsweredTimedOut config.requestTimeout s.log query written →
      ¬ AnsweredShuttingDown s.log query written := by
    intro htimed hshut
    cases hunique (replied_of_answeredTimedOut htimed) (replied_of_answeredShuttingDown hshut)
  rcases hs with hs | hs | hs
  · exact .inl ⟨hs, hok hs, hok' hs⟩
  · exact .inr (.inl ⟨fun h => hok h hs, hs, htimed hs⟩)
  · exact .inr (.inr ⟨fun h => hok' h hs, fun h => htimed h hs, hs⟩)

theorem not_active_of_ended (h : Reachable config s) (hended : s.Ended) :
    ¬ Active config s query written := by
  intro hactive
  have hslots := slots h
  rcases hended with hphase | ⟨panic, hphase⟩
  · rw [Slots, hphase] at hslots
    exact hactive.pending hslots.1
  · rw [Slots, hphase] at hslots
    exact hactive.pending hslots.1

/-- A run that has ended and computed only deadlines that exist has returned. -/
theorem returned_of_deadlinesFit (h : Reachable config s) (hended : s.Ended)
    (hfit : DeadlinesFit config s) : s.phase = .returned := by
  rcases hended with hphase | ⟨panic, hphase⟩
  · exact hphase
  · obtain ⟨-, query, written, hw, hfits⟩ := panicked_cause h hphase
    exact absurd (hfit query written hw) hfits

theorem outcomesDocumented_iff (h : Reachable config s) (hended : s.Ended) :
    OutcomesDocumented config s ↔ DeadlinesFit config s := by
  constructor
  · intro hdoc query written hw
    cases fate_of_written h hw with
    | active hactive => exact hactive.fits
    | concluded hfits => exact hfits
    | overflowed hphase hfits hreply =>
        exfalso
        obtain ⟨value, hmem⟩ := replied_of_concluded (hdoc query written hw).or
        exact hreply value hmem
  · intro hfit query written hw
    have hret := returned_of_deadlinesFit h hended hfit
    cases fate_of_written h hw with
    | active hactive => exact absurd hactive (not_active_of_ended h hended)
    | concluded hfits hs => exact exactlyOne_of_concluded h hret hs
    | overflowed hphase => rw [hret] at hphase; cases hphase

end Ended

/-! ## What completes the active query -/

/-- What a step from `s` may do to the active query: leave it with its deadline, or complete it by a
    command response of its own kind, by the timer at its deadline, or while rejecting. -/
def CompletesOnly (s : Actor ε) (action : Action ε) (s' : Actor ε) (active : PendingQuery) : Prop :=
  s'.pendingQuery = some active ∨
    (∃ notification value, action = .notification (.ok notification) ∧
      notification.source = .commandResponse ∧
      active.request.answerOf notification = some value) ∨
    (action = .deadlineElapsed ∧ active.deadline.nanos ≤ s.now.nanos) ∨
    s.phase = .rejecting

theorem completesOnly_of_transition {config : ActorConfig} {s s' : Actor ε} {action : Action ε}
    {active : PendingQuery} (hslots : Slots s) (hactive : s.pendingQuery = some active)
    (h : Transition config s action s') : CompletesOnly s action s' active := by
  unfold CompletesOnly
  unfold Slots at hslots
  cases h with
  | resolved notification query value event hphase hpending hanswer hevent =>
      obtain rfl := Option.some.inj (hpending.symm.trans hactive)
      right
      left
      exact ⟨notification, value, rfl, QueryRequest.source_of_answerOf hanswer, hanswer⟩
  | timedOut query hphase hpending hdeadline =>
      obtain rfl := Option.some.inj (hpending.symm.trans hactive)
      right
      right
      left
      exact ⟨rfl, hdeadline⟩
  | rejectActive query hphase hpending =>
      right
      right
      right
      exact hphase
  | _ => simp_all

/-- **When every written query has exactly one of the documented outcomes**: in every run that has
    ended, exactly if every deadline computed in it exists. In every run nothing but a response of
    its own kind, its timer or the end of the main loop completes the active query or changes its
    deadline, and the assertions of `resolve_query` hold. -/
theorem query_outcomes_iff (config : ActorConfig) :
    (∀ s : Actor ε, Reachable config s → s.Ended →
      (OutcomesDocumented config s ↔ DeadlinesFit config s)) ∧
    (∀ (s : Actor ε) action s' active, Reachable config s → step config s action = some s' →
      s.pendingQuery = some active → CompletesOnly s action s' active) ∧
    ∀ (s : Actor ε) panic, Reachable config s → s.phase = .panicked panic →
      panic = .deadlineOverflow := by
  refine ⟨?_, ?_, ?_⟩
  · intro s h hended
    exact outcomesDocumented_iff h hended
  · intro s action s' active h hst hactive
    exact completesOnly_of_transition (slots h) hactive (transition_of_step hst)
  · intro s panic h hphase
    exact (panicked_cause h hphase).1

/-- The default configuration with the largest timeout. -/
def unboundedTimeout : ActorConfig :=
  { ActorConfig.default with requestTimeout := ⟨2 ^ 64 * nanosPerSecond - 1, by decide⟩ }

/-- The first query of a run is written. -/
def firstQueryRun : List (Action Unit) :=
  [.callReturned (.ok ()), .callReturned (.ok ()), .callReturned (.ok ()), .proceed, .reserve,
    .enqueue .batteryStatus, .receive, .callReturned (.ok ())]

/-- With the largest timeout the first written query panics the task and gets no reply. -/
theorem unboundedTimeout_loses_query :
    ∃ s, runFrom unboundedTimeout .zero firstQueryRun = some s ∧ s.Ended ∧
      ¬ OutcomesDocumented unboundedTimeout s := by
  obtain ⟨s, hrun, hphase, hlog⟩ : ∃ s, runFrom unboundedTimeout .zero firstQueryRun = some s ∧
      s.phase = .panicked .deadlineOverflow ∧
      s.log.drop 12 = [⟨.zero, .returned (.writeCommand Command.readBatteryLevel)
        (some (.query (.battery 0))) (.ok ())⟩] ∧ s.repliedIds = [] :=
    ⟨_, rfl, rfl, rfl, rfl⟩
  refine ⟨s, hrun, .inr ⟨_, hphase⟩, fun hdoc => ?_⟩
  have hw : Written s (.battery 0) .zero :=
    List.mem_of_mem_drop (hlog.1 ▸ List.mem_singleton_self _)
  have hconcluded : Concluded unboundedTimeout s.log (.battery 0) .zero := (hdoc _ _ hw).or
  obtain ⟨value, hmem⟩ := replied_of_concluded hconcluded
  have hreplied : (QueryRequest.battery 0).reply ∈ s.repliedIds :=
    List.mem_filterMap.2 ⟨_, hmem, rfl⟩
  rw [hlog.2] at hreplied
  cases hreplied

end Actor

end ChessnutMove.Tokio
