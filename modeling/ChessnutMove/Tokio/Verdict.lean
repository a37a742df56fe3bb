import ChessnutMove.Tokio.Board
import ChessnutMove.Tokio.Grammar

set_option autoImplicit false

/-! # How a run ends

The actor can fail in its main loop and again in the cleanup, and four observers learn of it:
whoever awaits the task, the lifecycle watch, the caller of `shutdown` and the caller whose write
failed. The first error decides what all of them see. -/

namespace ChessnutMove.Tokio

variable {ε : Type}

/-- The error that a transport call or `next_notification` returned. -/
def Event.transportError : Event ε → Option ε
  | .returned _ _ (.error error) => some error
  | .notified (.error error) => some error
  | _ => none

/-- The request that an event answers with `TransportFailed`. -/
def Event.failedReply : Event ε → Option ReplyId
  | .replied reply (.error .transportFailed) => some reply
  | _ => none

/-- The value that an event sends on a oneshot. -/
def Event.replyTo (reply : ReplyId) : Event ε → Option Reply
  | .replied reply' value => if reply' = reply then some value else none
  | _ => none

/-- The `Shutdown` request that an event takes out of the channel. -/
def Event.shutdownReceived : Event ε → Option ReplyId
  | .received (.shutdown reply) => some reply
  | _ => none

/-- The result that the errors of a run, in order, call for: the first one counts. -/
def resultOf : List ε → Except (ActorError ε) Unit
  | [] => .ok ()
  | error :: _ => .error (.transport error)

theorem resultOf_snoc (errors : List ε) (error : ε) :
    resultOf (errors ++ [error])
      = if (resultOf errors).isOk then .error (.transport error) else resultOf errors := by
  cases errors <;> rfl

namespace Actor

/-- The errors the transport returned, in order. -/
def transportErrors (s : Actor ε) : List ε := extract Event.transportError s.log

/-- The requests answered `TransportFailed`. -/
def failedReplies (s : Actor ε) : List ReplyId := extract Event.failedReply s.log

/-- The values sent on a oneshot. -/
def repliesTo (s : Actor ε) (reply : ReplyId) : List Reply := extract (Event.replyTo reply) s.log

/-- The reply to the `Shutdown` that ended the main loop. -/
def shutdownOutcome (s : Actor ε) : Reply :=
  if s.result.isOk then .ok .done else .error .transportFailed

/-- The final lifecycle state. -/
def finalState (s : Actor ε) : LifecycleState := if s.result.isOk then .stopped else .faulted

section Step

variable {config : ActorConfig} {s s' : Actor ε} {action : Action ε}

/-! ## The result -/

theorem result_of_inLoop (h : Reachable config s) (hloop : InLoop s) : s.result = .ok () := by
  have hs := shape h
  unfold InLoop at hloop
  unfold Shape at hs
  split at hs
  · obtain ⟨first, hresult, -⟩ := hs
    exact hresult
  · exact hs.2
  · exact hs.2
  · obtain ⟨before, -, hresult, -⟩ := hs
    exact hresult
  · obtain ⟨before, -, hresult, -⟩ := hs
    exact hresult
  all_goals simp_all

theorem result_step (h : Reachable config s) (hs : s.result = resultOf s.transportErrors)
    (hst : Transition config s action s') : s'.result = resultOf s'.transportErrors := by
  have hloop := result_of_inLoop h
  unfold InLoop at hloop
  unfold transportErrors at hs ⊢
  cases hst with
  | initializeFailed calls error hphase | queryFailed query error hphase
  | sendFailed command reply error hphase | notificationFailed error hphase =>
      -- the loop has seen no error so far
      rw [hphase] at hloop
      rw [hs] at hloop
      simp [Event.transportError, resultOf_snoc, hloop]
  | cleanupFailed calls error hphase => simp [Event.transportError, resultOf_snoc, hs]
  | _ => simp_all [Event.transportError, unwind]

theorem result_eq (h : Reachable config s) : s.result = resultOf s.transportErrors :=
  h.induct (fun _ => rfl) fun _ _ _ hreach hs hst => result_step hreach hs hst

/-! ## Failed requests -/

theorem failedReplies_of_inLoop (h : Reachable config s) (hloop : InLoop s) :
    s.failedReplies = [] := by
  rw [failedReplies, extract_eq_filterMap, List.filterMap_eq_nil_iff]
  intro event hmem
  unfold Event.failedReply
  split
  · next reply => exact absurd (loopErrors h hloop reply _ hmem) (by simp)
  · rfl

/-- One request at most has been or will be answered `TransportFailed`. -/
theorem failed_step (h : Reachable config s)
    (hs : (s.failedReplies ++ s.shutdownReply.toList).length ≤ 1)
    (hst : Transition config s action s') :
    (s'.failedReplies ++ s'.shutdownReply.toList).length ≤ 1 := by
  have hloop := failedReplies_of_inLoop h
  have hslots := slots h
  unfold InLoop failedReplies at hloop
  unfold Slots at hslots
  unfold failedReplies at hs ⊢
  cases hst with
  | finish hphase =>
      cases hreply : s.shutdownReply with
      | none => simpa [Event.failedReply, hreply] using hs
      | some reply =>
          cases hresult : s.result <;> simp_all [Event.failedReply]
  | observed notification hphase hanswer =>
      cases observe notification <;> simpa [Event.failedReply] using hs
  | _ => simp_all [Event.failedReply, unwind]

theorem failed (h : Reachable config s) : s.failedReplies.length ≤ 1 := by
  have hboth : (s.failedReplies ++ s.shutdownReply.toList).length ≤ 1 :=
    h.induct (P := fun s => (s.failedReplies ++ s.shutdownReply.toList).length ≤ 1)
      (fun _ => Nat.zero_le 1) fun _ _ _ hreach hs hst => failed_step hreach hs hst
  rw [List.length_append] at hboth
  omega

/-! ## The `Shutdown` that ends the main loop -/

/-- Every `Shutdown` received here is answered `ShuttingDown`. -/
def Rejects (events : List (Event ε)) : Prop :=
  ∀ reply, .received (.shutdown reply) ∈ events → .replied reply (.error .shuttingDown) ∈ events

/-- The record of a run that has announced its shutdown, which a `Shutdown` was the reason of or
    not: before, and since then. -/
structure Announced (reason : Option ReplyId) (events since : List (Event ε)) : Prop where
  splits : ∃ before, events = before ++ .lifecycle .shuttingDown :: since ∧
    .lifecycle .shuttingDown ∉ before ∧
    before.filterMap Event.shutdownReceived = reason.toList
  rejects : Rejects since

/-- What has become of the `Shutdown` requests, by phase. -/
def Told (s : Actor ε) : Prop :=
  match s.phase with
  | .leaving => .lifecycle .shuttingDown ∉ s.events ∧
      s.events.filterMap Event.shutdownReceived = s.shutdownReply.toList
  | .closing | .rejecting | .cleaningUp _ | .finishing =>
      ∃ since, Announced s.shutdownReply s.events since
  | .returned => ∃ reason since, s.lifecycle = s.finalState ∧
      Announced reason s.events (since ++ .lifecycle s.lifecycle ::
        reason.toList.map fun reply => .replied reply s.shutdownOutcome)
  | _ => True

theorem told_of_inLoop (h : Reachable config s) (hloop : InLoop s) :
    .lifecycle .shuttingDown ∉ s.events ∧ s.events.filterMap Event.shutdownReceived = [] := by
  have hserved : ServedInLoop s := by
    have hserved := served h
    unfold InLoop at hloop
    unfold Served at hserved
    split at hserved <;> simp_all
  refine ⟨hserved.1, List.filterMap_eq_nil_iff.2 fun event hmem => ?_⟩
  unfold Event.shutdownReceived
  split
  · next reply =>
      have hreceived : Message.shutdown reply ∈ s.receivedMessages := by
        rw [receivedMessages, extract_eq_filterMap]
        exact List.mem_filterMap.2 ⟨_, hmem, rfl⟩
      exact absurd (hserved.2 _ hreceived).1 (by simp [Message.isShutdown])
  · rfl

theorem Rejects.append {events es : List (Event ε)} (h : Rejects events) (hes : Rejects es) :
    Rejects (events ++ es) := by
  intro reply hmem
  rcases List.mem_append.1 hmem with hmem | hmem
  · exact List.mem_append_left _ (h reply hmem)
  · exact List.mem_append_right _ (hes reply hmem)

theorem Announced.append {reason : Option ReplyId} {events since es : List (Event ε)}
    (h : Announced reason events since) (hes : Rejects es) :
    Announced reason (events ++ es) (since ++ es) := by
  obtain ⟨⟨before, rfl, hbefore, hreason⟩, hrejects⟩ := h
  exact ⟨⟨before, by simp, hbefore, hreason⟩, hrejects.append hes⟩

/-- The task leaves the main loop, recording nothing but these events. -/
theorem told_leaving {es : List (Event ε)} (hs : .lifecycle .shuttingDown ∉ s.events ∧
      s.events.filterMap Event.shutdownReceived = [])
    (hphase : s'.phase = .leaving) (hevents : s'.events = s.events ++ es)
    (hquiet : .lifecycle .shuttingDown ∉ es)
    (hreason : es.filterMap Event.shutdownReceived = s'.shutdownReply.toList) : Told s' := by
  unfold Told
  rw [hphase]
  refine ⟨?_, ?_⟩
  · rw [hevents, List.mem_append, not_or]
    exact ⟨hs.1, hquiet⟩
  · rw [hevents, List.filterMap_append, hs.2, List.nil_append, hreason]

/-- A step between the announcement and the final state. -/
theorem told_later {es : List (Event ε)} (hs : ∃ since, Announced s.shutdownReply s.events since)
    (htold : Told s' = ∃ since, Announced s'.shutdownReply s'.events since)
    (hreply : s'.shutdownReply = s.shutdownReply) (hevents : s'.events = s.events ++ es)
    (hes : Rejects es) : Told s' := by
  obtain ⟨since, hannounced⟩ := hs
  rw [htold, hreply, hevents]
  exact ⟨since ++ es, hannounced.append hes⟩

theorem told_step (h : Reachable config s) (hs : Told s) (hst : Transition config s action s') :
    Told s' := by
  have hslots := slots h
  have hloop := told_of_inLoop h
  unfold InLoop at hloop
  unfold Slots at hslots
  cases hst with
  | enqueue request hreceives hpush =>
      unfold Told at hs ⊢
      cases hphase : s.phase with
      | leaving =>
          rw [hphase] at hs
          refine ⟨?_, ?_⟩
          · rw [events_record, List.mem_append, not_or]
            exact ⟨hs.1, by simp⟩
          · rw [events_record, List.filterMap_append]
            exact (List.append_nil _).trans hs.2
      | closing | rejecting =>
          rw [hphase] at hs
          obtain ⟨since, hannounced⟩ := hs
          simp only [phase_record, events_record]
          exact ⟨_, hannounced.append (by simp [Rejects])⟩
      | _ => simp_all [Phase.receives]
  | reserve | cloneHandle | dropHandle | tick => exact hs
  -- the main loop is left
  | initializeFailed calls error hphase | queryFailed query error hphase
  | sendFailed command reply error hphase | notificationFailed error hphase =>
      rw [hphase] at hloop hslots
      exact told_leaving (hloop trivial) rfl (events_record _ _) (by simp)
        (by simp [Event.shutdownReceived, hslots])
  | receiveShutdown reply waiting hphase hqueue =>
      rw [hphase] at hloop
      exact told_leaving (hloop trivial) rfl (events_record _ _) (by simp)
        (by simp [Event.shutdownReceived])
  | handlesDropped hphase hqueue hsenders =>
      rw [hphase] at hloop hslots
      exact told_leaving (hloop trivial) rfl (List.append_nil _).symm (by simp) (by simp [hslots])
  | shutDown hphase =>
      unfold Told at hs
      rw [hphase] at hs
      exact ⟨[], ⟨s.events, events_record _ _, hs.1, hs.2⟩, by simp [Rejects]⟩
  | closeRequests hphase =>
      simp only [Told, hphase] at hs
      exact told_later hs rfl rfl (List.append_nil _).symm (by simp [Rejects])
  -- what waits is rejected
  | rejectActive query hphase hpending | rejectQueued query rest hphase hpending hqueued =>
      simp only [Told, hphase] at hs
      exact told_later hs (by simp only [Told, phase_record, hphase]) rfl (events_record _ _)
        (by simp [Rejects])
  | rejectMessage message waiting hphase hpending hqueued hqueue =>
      simp only [Told, hphase] at hs
      refine told_later hs (by simp only [Told, phase_record, hphase]) rfl (events_record _ _) ?_
      intro reply hmem
      obtain rfl : Message.shutdown reply = message := by simpa using hmem
      simp [Message.reply]
  -- the cleanup
  | startCleanup hphase | cleanupFailed calls error hphase | cleanupNext first next rest hphase
  | cleanedUp last hphase =>
      simp only [Told, hphase] at hs
      exact told_later hs rfl rfl (events_record _ _) (by simp [Rejects])
  | finish hphase =>
      simp only [Told, hphase] at hs
      obtain ⟨since, hannounced⟩ := hs
      refine ⟨s.shutdownReply, since, rfl, ?_⟩
      rw [events_record]
      refine hannounced.append ?_
      simp [Rejects]
  -- the main loop goes on, or panics
  | _ => trivial

theorem told (h : Reachable config s) : Told s :=
  h.induct (P := Told) (fun _ => trivial) fun _ _ _ hreach hs hst => told_step hreach hs hst

/-! ## Single replies -/

theorem length_repliesTo (s : Actor ε) (reply : ReplyId) :
    (s.repliesTo reply).length = s.repliedIds.count reply := by
  rw [repliesTo, extract_eq_filterMap, repliedIds]
  induction s.events with
  | nil => rfl
  | cons event events ih =>
      cases event with
      | replied reply' value =>
          by_cases hreply : reply' = reply
          · subst hreply
            simp [Event.replyTo, Event.repliedId, ih]
          · simp [Event.replyTo, Event.repliedId, ih, hreply]
      | _ => exact ih

/-- Once the task has returned, a value sent on a oneshot is the only one. -/
theorem repliesTo_eq (h : Reachable config s) (hret : s.phase = .returned) {reply : ReplyId}
    {value : Reply} (hmem : .replied reply value ∈ s.events) : s.repliesTo reply = [value] := by
  have hvalue : value ∈ s.repliesTo reply := by
    rw [repliesTo, extract_eq_filterMap]
    exact List.mem_filterMap.2 ⟨_, hmem, if_pos rfl⟩
  have hlength : (s.repliesTo reply).length ≤ 1 := by
    rw [length_repliesTo, count_repliedIds h hret]
    split <;> omega
  have hpositive := List.length_pos_of_mem hvalue
  obtain ⟨only, honly⟩ := List.length_eq_one_iff.1 (Nat.le_antisymm hlength hpositive)
  rw [honly] at hvalue ⊢
  rw [List.mem_singleton.1 hvalue]

/-- A message that entered the channel has been received when the task returns. -/
theorem received_of_returned (h : Reachable config s) (hret : s.phase = .returned)
    {message : Message} (hmem : .enqueued message ∈ s.events) : .received message ∈ s.events := by
  have hslots := slots h
  rw [Slots, hret] at hslots
  have hchannel := channel h (by simp [hret])
  rw [hslots.2.2.1, List.append_nil] at hchannel
  have henqueued := mem_enqueuedMessages.2 hmem
  rw [← hchannel, receivedMessages, extract_eq_filterMap] at henqueued
  obtain ⟨event, hevent, hreceived⟩ := List.mem_filterMap.1 henqueued
  cases event <;> cases hreceived
  exact hevent

end Step

/-! ## The end of a run -/

/-- What the four observers of a run learn of its end. -/
structure Verdict (s : Actor ε) : Prop where
  /-- The result is the first error that the transport returned, or success if there was none. -/
  result : s.result = resultOf s.transportErrors
  /-- The final lifecycle state is that of the result. -/
  lifecycle : s.lifecycle = if s.result.isOk then .stopped else .faulted
  /-- If a `Shutdown` was received in the main loop, it is answered last, after the final state, and
      as the result is; every other one is answered `ShuttingDown`. -/
  shutdown : ∃ (reason : Option ReplyId) (before since : List (Event ε)),
    s.events = before ++ .lifecycle .shuttingDown :: (since ++ .lifecycle s.lifecycle ::
      reason.toList.map fun reply => .replied reply s.shutdownOutcome) ∧
    .lifecycle .shuttingDown ∉ before ∧
    before.filterMap Event.shutdownReceived = reason.toList ∧
    (∀ reply ∈ reason, s.repliesTo reply = [s.shutdownOutcome]) ∧
    ∀ reply ∉ reason, .enqueued (.shutdown reply) ∈ s.events →
      s.repliesTo reply = [.error .shuttingDown]
  /-- One request at most is answered `TransportFailed`. -/
  failed : s.failedReplies.length ≤ 1

/-- **The observers of a run agree on its end, and the first error decides it.** -/
theorem verdict (config : ActorConfig) (s : Actor ε) (h : Reachable config s)
    (hret : s.phase = .returned) : Verdict s := by
  have htold := told h
  simp only [Told, hret] at htold
  obtain ⟨reason, since, hlifecycle, ⟨⟨before, hevents, hbefore, hreason⟩, hrejects⟩⟩ := htold
  refine ⟨result_eq h, hlifecycle, ⟨reason, before, since, hevents, hbefore, hreason, ?_, ?_⟩,
    failed h⟩
  · intro reply hreply
    refine repliesTo_eq h hret ?_
    rw [hevents]
    simp [Option.mem_def.1 hreply]
  · intro reply hreply henqueued
    have hreceived := received_of_returned h hret henqueued
    refine repliesTo_eq h hret ?_
    rw [hevents, List.mem_append] at hreceived ⊢
    rcases hreceived with hin | hsince
    · -- it was received in the main loop
      have hmem : reply ∈ before.filterMap Event.shutdownReceived :=
        List.mem_filterMap.2 ⟨_, hin, rfl⟩
      rw [hreason, Option.mem_toList] at hmem
      exact absurd hmem hreply
    · rcases List.mem_cons.1 hsince with heq | hsince
      · cases heq
      · exact .inr (List.mem_cons_of_mem _ (hrejects reply hsince))

/-- A query, a command and a second query beside a `Shutdown`; the last cleanup call fails. -/
theorem shutdownRun_verdict :
    ∃ s, runFrom ActorConfig.default .zero shutdownRun = some s ∧
      s.result = .error (.transport ()) ∧ Verdict s := by
  have hrun : runFrom ActorConfig.default .zero shutdownRun = some _ := rfl
  exact ⟨_, hrun, rfl, verdict ActorConfig.default _ (.of_runFrom hrun) rfl⟩

end Actor

end ChessnutMove.Tokio
