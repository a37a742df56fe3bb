import ChessnutMove.Tokio.Inbox
import ChessnutMove.Tokio.Outcomes

set_option autoImplicit false

/-! # Timeouts and responses that wait

Every notification is stamped with the clock reading at which it arrives. A response may have
arrived before the deadline of its query and still wait when the timer branch is taken: behind
other notifications, or because the task was in a command write. `Fair` is the condition on a step
that excludes this, and a run answers `RequestTimedOut` only to queries without a response in time
exactly if all its steps are fair. -/

namespace ChessnutMove.Tokio

variable {ε : Type}

namespace Actor

/-! ## The timer -/

section Timer

variable {config : ActorConfig} {s s' : Actor ε} {action : Action ε} {query : QueryRequest}
  {deadline written : Instant}

theorem now_step (h : Transition config s action s') : s.now.nanos ≤ s'.now.nanos := by
  cases h with
  | tick elapsed now hnow => exact hnow ▸ Nat.le_add_right _ _
  | _ => exact Nat.le_refl _

/-- A query enters the active slot when its write returns, with the clock reading plus the timeout
    as its deadline. -/
theorem pending_step (h : Transition config s action s')
    (hpending : s'.pendingQuery = some ⟨query, deadline⟩) :
    s.pendingQuery = some ⟨query, deadline⟩ ∨
      s'.log = s.log ++ [⟨s.now, query.written⟩] ∧
        deadline.nanos = s.now.nanos + config.requestTimeout.nanos := by
  cases h with
  | queryStarted started deadline' hphase hdeadline =>
      right
      obtain ⟨rfl, rfl⟩ : started = query ∧ deadline' = deadline := by simpa using hpending
      exact ⟨rfl, Instant.checkedAdd_eq_some_iff.1 hdeadline⟩
  | resolved | timedOut | rejectActive | queryOverflowed => cases hpending
  | _ => exact .inl hpending

/-- Only the timer of the active query answers `RequestTimedOut`. -/
theorem timedOut_step {reply : ReplyId} (h : Transition config s action s')
    (hs' : .replied reply (.error .requestTimedOut) ∈ s'.events) :
    .replied reply (.error .requestTimedOut) ∈ s.events ∨
      action = .deadlineElapsed ∧ ∃ active, s.pendingQuery = some active ∧
        active.request.reply = reply ∧ active.deadline.nanos ≤ s.now.nanos := by
  unfold events at hs' ⊢
  cases h with
  | timedOut active hphase hpending hdeadline =>
      simp only [log_record, List.map_append, List.mem_append] at hs'
      rcases hs' with hs' | hs'
      · exact .inl hs'
      · right
        obtain rfl : reply = active.request.reply := by simpa using hs'
        exact ⟨rfl, active, hpending, rfl, hdeadline⟩
  | finish hphase =>
      left
      cases hreply : s.shutdownReply <;> split at hs' <;> simpa [hreply] using hs'
  | _ =>
      left
      simpa using hs'

/-- The active query was written, and its deadline is the clock reading of that write plus the
    timeout. -/
theorem active_of_pending (h : Reachable config s)
    (hpending : s.pendingQuery = some ⟨query, deadline⟩) :
    ∃ written, Written s query written ∧
      deadline.nanos = written.nanos + config.requestTimeout.nanos := by
  refine h.induct (P := fun s => s.pendingQuery = some ⟨query, deadline⟩ →
    ∃ written, Written s query written ∧
      deadline.nanos = written.nanos + config.requestTimeout.nanos) ?_ ?_ hpending
  · intro now hpending
    cases hpending
  · intro s action s' _ hs hst hpending
    unfold Written at hs ⊢
    rcases pending_step hst hpending with hpending | ⟨hlog, hdeadline⟩
    · obtain ⟨written, hw, hdeadline⟩ := hs hpending
      obtain ⟨es, hlog⟩ := log_step hst
      exact ⟨written, hlog ▸ List.mem_append_left _ hw, hdeadline⟩
    · exact ⟨s.now, by simp [hlog], hdeadline⟩

/-- The active query is the only written one with its oneshot, and was written once. -/
theorem eq_of_pending (h : Reachable config s) {active : PendingQuery}
    (hpending : s.pendingQuery = some active) (hreply : active.request.reply = query.reply)
    (hw : Written s query written) :
    active.request = query ∧
      active.deadline.nanos = written.nanos + config.requestTimeout.nanos := by
  cases fate_of_written h hw with
  | active hactive =>
      obtain ⟨deadline, before, since, hactive, hdeadline, -⟩ := hactive
      obtain rfl := Option.some.inj (hpending.symm.trans hactive)
      exact ⟨rfl, hdeadline⟩
  | concluded hfits hconcluded =>
      obtain ⟨value, hmem⟩ := replied_of_concluded hconcluded
      exact absurd (hreply ▸ hmem) (not_replied_of_pending h hpending value)
  | overflowed hphase =>
      have hslots := slots h
      rw [Slots, hphase] at hslots
      simp [hpending] at hslots

/-- The timer does not answer before the deadline. -/
theorem deadline_le_now (h : Reachable config s) (hw : Written s query written)
    (htimedOut : .replied query.reply (.error .requestTimedOut) ∈ s.events) :
    written.nanos + config.requestTimeout.nanos ≤ s.now.nanos := by
  refine h.induct (P := fun s => Written s query written →
    .replied query.reply (.error .requestTimedOut) ∈ s.events →
      written.nanos + config.requestTimeout.nanos ≤ s.now.nanos) ?_ ?_ hw htimedOut
  · intro now hw
    simp [Written, runActor, QueryRequest.written] at hw
  · intro s action s' hreach hs hst hw htimedOut
    have hnow := now_step hst
    rcases written_step hst hw with hw | ⟨-, hphase, hlog, -⟩
    · rcases timedOut_step hst htimedOut with htimedOut | ⟨-, active, hpending, hreply, helapsed⟩
      · exact Nat.le_trans (hs hw htimedOut) hnow
      · obtain ⟨-, hdeadline⟩ := eq_of_pending hreach hpending hreply hw
        omega
    · -- the write has just succeeded: the query cannot have been answered
      have hnone := not_replied_of_startingQuery hreach hphase (.error .requestTimedOut)
      simp_all [events, QueryRequest.written]

end Timer

end Actor

/-- Any request, and any notification, stamped with the clock reading at which it arrives. -/
def clocked : Environment ε Instant where
  issues _ := true
  sends t arrival := arrival.stamp = t.actor.now

namespace Inbox

/-! ## What the inbox keeps -/

/-- Nothing came from the future, and a response to the active query that arrived after its write
    still waits. -/
structure Custody (config : ActorConfig) (t : Inbox ε Instant) : Prop where
  arrived_past : ∀ arrival ∈ t.arrived, arrival.stamp.nanos ≤ t.actor.now.nanos
  answer_waits : ∀ query deadline, t.actor.pendingQuery = some ⟨query, deadline⟩ →
    ∀ arrival ∈ t.arrived, (query.answerOf arrival.notification).isSome →
      deadline.nanos < arrival.stamp.nanos + config.requestTimeout.nanos → arrival ∈ t.waiting

section Invariant

variable {config : ActorConfig} {t t' : Inbox ε Instant} {action : InboxAction ε Instant}

theorem custody_step (hs : Custody config t) (h : Transition clocked config t action t') :
    Custody config t' := by
  cases h with
  | arrive arrival hsends =>
      have hstamp : arrival.stamp = t.actor.now := of_decide_eq_true hsends
      refine ⟨?_, ?_⟩
      · intro arrival' hmem
        rcases List.mem_append.1 hmem with hmem | hmem
        · exact hs.arrived_past arrival' hmem
        · rw [List.mem_singleton.1 hmem, hstamp]
          exact Nat.le_refl _
      · intro query deadline hpending arrival' hmem hanswer hlate
        rcases List.mem_append.1 hmem with hmem | hmem
        · have hwaits := hs.answer_waits query deadline hpending arrival' hmem hanswer hlate
          exact List.mem_append_left _ hwaits
        · exact List.mem_append_right _ hmem
  | take oldest rest actor hwaiting h =>
      have hnow := Actor.now_step h
      refine ⟨?_, ?_⟩
      · intro arrival hmem
        exact Nat.le_trans (hs.arrived_past arrival hmem) hnow
      · intro query deadline hpending arrival hmem hanswer hlate
        cases h with
        | resolved => cases hpending
        | observed notification hphase hobserved =>
            have hnone := hobserved _ hpending
            have hwaits := hs.answer_waits query deadline hpending arrival hmem hanswer hlate
            rw [hwaiting] at hwaits
            rcases List.mem_cons.1 hwaits with rfl | hwaits
            · simp [hnone] at hanswer
            · exact hwaits
  | act action actor hother hissues h =>
      have hnow := Actor.now_step h
      refine ⟨?_, ?_⟩
      · intro arrival hmem
        exact Nat.le_trans (hs.arrived_past arrival hmem) hnow
      · intro query deadline hpending arrival hmem hanswer hlate
        rcases Actor.pending_step h hpending with hpending | ⟨-, hdeadline⟩
        · exact hs.answer_waits query deadline hpending arrival hmem hanswer hlate
        · -- the deadline was computed just now, so the response came before the write returned
          have hpast := hs.arrived_past arrival hmem
          omega

theorem custody (h : Reachable clocked config t) : Custody config t := by
  refine h.induct (P := Custody config) ?_ ?_
  · intro now
    refine ⟨?_, ?_⟩
    · intro arrival hmem
      cases hmem
    · intro query deadline hpending
      cases hpending
  · intro t action t' _ hs hst
    exact custody_step hs hst

end Invariant

/-! ## Timeouts -/

/-- A response of the query's kind that arrived after its write and before its deadline. -/
def InTime (config : ActorConfig) (query : QueryRequest) (written : Instant)
    (arrival : Arrival Instant) : Prop :=
  (query.answerOf arrival.notification).isSome ∧ written.nanos < arrival.stamp.nanos ∧
    arrival.stamp.nanos < written.nanos + config.requestTimeout.nanos

/-- A query is answered `RequestTimedOut` only if no response to it arrived in time. -/
def Justified (config : ActorConfig) (t : Inbox ε Instant) : Prop :=
  ∀ query written, Actor.Written t.actor query written →
    .replied query.reply (.error .requestTimedOut) ∈ t.actor.events →
    ∀ arrival ∈ t.arrived, ¬ InTime config query written arrival

/-- The timer branch is not taken while a response to the active query waits that arrived in time.
    -/
def Fair (config : ActorConfig) (t : Inbox ε Instant) (action : InboxAction ε Instant) : Prop :=
  action = .act .deadlineElapsed →
    ∀ query written deadline, t.actor.pendingQuery = some ⟨query, deadline⟩ →
      deadline.nanos = written.nanos + config.requestTimeout.nanos →
      ∀ arrival ∈ t.waiting, ¬ InTime config query written arrival

section Timeouts

variable {config : ActorConfig} {t t' : Inbox ε Instant} {action : InboxAction ε Instant}

/-- A step of the actor, with the inbox of before. -/
theorem justified_act (hreach : Reachable clocked config t) (hs : Justified config t) {a : Action ε}
    (hfair : Fair config t (.act a)) (h : Actor.Transition config t.actor a t'.actor)
    (harrived : t'.arrived = t.arrived) : Justified config t' := by
  intro query written hw htimedOut arrival hmem hin
  rw [harrived] at hmem
  rcases Actor.written_step h hw with hw | ⟨-, hphase, hlog, -⟩
  · rcases Actor.timedOut_step h htimedOut with htimedOut | ⟨rfl, active, hpending, hreply, -⟩
    · exact hs query written hw htimedOut arrival hmem hin
    · obtain ⟨rfl, hdeadline⟩ := Actor.eq_of_pending hreach.actor hpending hreply hw
      have hwaits := (custody hreach).answer_waits _ _ hpending arrival hmem hin.1 (by
        have hlate := hin.2.1
        omega)
      exact hfair rfl _ _ _ hpending hdeadline arrival hwaits hin
  · -- the write has just succeeded: the query cannot have been answered
    have hnone := Actor.not_replied_of_startingQuery hreach.actor hphase (.error .requestTimedOut)
    simp_all [Actor.events, QueryRequest.written]

/-- A fair step keeps the timeouts justified. -/
theorem justified_step (hreach : Reachable clocked config t) (hs : Justified config t)
    (hfair : Fair config t action) (h : Transition clocked config t action t') :
    Justified config t' := by
  cases h with
  | arrive arrival' hsends =>
      intro query written hw htimedOut arrival hmem hin
      rcases List.mem_append.1 hmem with hmem | hmem
      · exact hs query written hw htimedOut arrival hmem hin
      · -- what arrives after the timer answered arrives after the deadline
        have hnow := Actor.deadline_le_now hreach.actor hw htimedOut
        obtain rfl := List.mem_singleton.1 hmem
        have hstamp : arrival.stamp = t.actor.now := of_decide_eq_true hsends
        exact absurd hin.2.2 (Nat.not_lt_of_le (hstamp ▸ hnow))
  | take oldest rest actor hwaiting h => exact justified_act hreach hs hfair h rfl
  | act action actor hother hissues h => exact justified_act hreach hs hfair h rfl

/-- The timeouts of a state were justified before its last step. -/
theorem justified_back (h : Transition clocked config t action t') (hs' : Justified config t') :
    Justified config t := by
  obtain ⟨⟨es, hlog⟩, more, harrived⟩ := grows h
  intro query written hw htimedOut arrival hmem
  refine hs' query written ?_ ?_ arrival (harrived ▸ List.mem_append_left _ hmem)
  · rw [Actor.Written, hlog]
    exact List.mem_append_left _ hw
  · exact Actor.mem_events_append hlog htimedOut

/-- A step to a state with justified timeouts is fair. -/
theorem fair_of_justified (hreach : Reachable clocked config t)
    (h : Transition clocked config t action t') (hs' : Justified config t') :
    Fair config t action := by
  rintro rfl query written deadline hpending hdeadline arrival hwaits
  obtain ⟨written', hw, hdeadline'⟩ := Actor.active_of_pending hreach.actor hpending
  obtain rfl : written' = written := Instant.ext (by omega)
  have harrived := (waiting_suffix hreach).subset hwaits
  cases h with
  | act action actor hother hissues h =>
      refine hs' query written' ?_ ?_ arrival harrived
      · obtain ⟨es, hlog⟩ := Actor.log_step h
        rw [Actor.Written]
        show _ ∈ actor.log
        exact hlog ▸ List.mem_append_left _ hw
      · cases h with
        | timedOut active hphase hactive =>
            obtain rfl := Option.some.inj (hpending.symm.trans hactive)
            simp

/-- **When a timeout means that no response arrived in time**: in a run, exactly if all its steps
    are fair. -/
theorem justified_iff_fair {now : Instant} {schedule : List (InboxAction ε Instant)}
    (hrun : runFrom clocked config now schedule = some t) :
    Justified config t ↔
      StepMachine.Along (step clocked config) (Fair config) (start config now) schedule := by
  have hstart : Reachable clocked config (start config now) := reachable_start (ε := ε) now
  constructor
  · intro hjustified
    refine (StepMachine.along_of_run (I := Reachable clocked config) (P := Justified config)
      ?_ ?_ ?_ hstart hrun hjustified).2
    · intro t action t' hreach hst
      exact hreach.next hst
    · intro t action t' hst
      exact justified_back (transition_of_step hst)
    · intro t action t' hreach hst
      exact fair_of_justified hreach (transition_of_step hst)
  · intro hfair
    refine (StepMachine.run_preserves_along
      (P := fun t => Reachable clocked config t ∧ Justified config t)
      ?_ ⟨hstart, ?_⟩ hrun hfair).2
    · rintro t action t' ⟨hreach, hs⟩ hfair hst
      exact ⟨hreach.next hst, justified_step hreach hs hfair (transition_of_step hst)⟩
    · intro query written hw
      simp [Actor.Written, start, Actor.runActor, QueryRequest.written] at hw

end Timeouts

/-- The board stays silent until the timer fires. -/
def silentRun : List (InboxAction Unit Instant) :=
  queryWaits ++ [.act (.tick ActorConfig.default.requestTimeout), .act .deadlineElapsed]

theorem silentRun_justified :
    ∃ t, runFrom clocked ActorConfig.default .zero silentRun = some t ∧
      .replied 0 (.error .requestTimedOut) ∈ t.actor.events ∧
      StepMachine.Along (step clocked ActorConfig.default) (Fair ActorConfig.default)
        (start ActorConfig.default .zero) silentRun := by
  have hrun : runFrom clocked ActorConfig.default .zero silentRun = some _ := rfl
  refine ⟨_, hrun, by decide, (justified_iff_fair hrun).1 ?_⟩
  intro query written hw htimedOut arrival hmem
  cases hmem

/-- The response arrives one second after the query, while a command write keeps the actor for six;
    back in `select!` it takes the timer branch. -/
def deafRun : List (InboxAction Unit Instant) :=
  queryWaits ++ [.act .reserve, .act (.enqueue (.send Command.enableRealtimeUpdates)),
    .act .receive, .act (.tick (.fromSecs 1 (by decide))),
    .arrive ⟨⟨nanosPerSecond, by decide⟩, ⟨.commandResponse, [0x41, 0x03, 0x0c, 0x01, 74]⟩⟩,
    .act (.tick ActorConfig.default.requestTimeout), .act (.callReturned (.ok ())),
    .act .proceed, .act .deadlineElapsed]

/-- A query times out although its response arrived four seconds before the deadline. -/
theorem deafRun_not_justified :
    ∃ t, runFrom clocked ActorConfig.default .zero deafRun = some t ∧
      ¬ Justified ActorConfig.default t := by
  obtain ⟨t, hrun, hw, htimedOut, harrived⟩ :
      ∃ t, runFrom clocked ActorConfig.default .zero deafRun = some t ∧
        ⟨.zero, QueryRequest.written (.battery 0)⟩ ∈ t.actor.log ∧
        .replied 0 (.error .requestTimedOut) ∈ t.actor.events ∧
        t.arrived = [⟨⟨nanosPerSecond, by decide⟩,
          ⟨.commandResponse, [0x41, 0x03, 0x0c, 0x01, 74]⟩⟩] :=
    ⟨_, rfl, by decide, by decide, rfl⟩
  refine ⟨t, hrun, fun hjustified => ?_⟩
  refine hjustified (.battery 0) .zero hw htimedOut _ (harrived ▸ List.mem_singleton_self _) ?_
  exact ⟨by decide, by decide, by decide⟩

end Inbox

end ChessnutMove.Tokio
