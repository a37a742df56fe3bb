import ChessnutMove.Tokio.Progress
import ChessnutMove.Tokio.RealTime

set_option autoImplicit false

/-! # Stopping

Publishing `ShuttingDown` is final: from then on the task only rejects what waits and cleans up, and
every call that has no message in the channel fails, if it returns. The channel closes in the next
step; after that no place in it is given, but a place given before can still be used. What
`shutdown` returns tells how the task ended. An aborted task keeps still where it was cancelled and
cleans nothing up. -/

namespace ChessnutMove.Tokio

variable {ε : Type}

/-- The task has closed the request channel, or dropped it while unwinding. -/
def Phase.isClosed : Phase → Bool
  | .rejecting | .cleaningUp _ | .finishing | .returned | .panicked _ => true
  | .initializing _ | .loopTop | .startingQuery _ | .selecting | .sending _ _ | .leaving
  | .closing => false

/-- Events that can follow a stop: messages that the task can still reject, their rejections,
    cleanup calls, the final state and the answer to `shutdown`. -/
def Event.isClosing : Event ε → Bool
  | .enqueued _ | .received _ | .returned _ none _ => true
  | .called call none => shutdownTransport.toList.contains call
  | .replied _ value =>
      [.error .shuttingDown, .ok .done, .error .transportFailed].contains value
  | .lifecycle state => [LifecycleState.stopped, .faulted].contains state
  | _ => false

/-- The caller was told that the actor stops or has stopped. -/
def Call.IsTurnedAway (call : Call) : Prop :=
  ∃ reply, call.stage = .completed reply (.error .shuttingDown) ∨
    call.stage = .completed reply (.error .actorStopped)

/-! ## Traces without errors -/

theorem Attempt.eq_succeeding {calls : List TransportCall} {events : List (Event ε)} {ok : Bool}
    (h : Attempt calls events ok) (herrors : ∀ event ∈ events, event.transportError = none) :
    ok = true ∧ events = succeeding calls := by
  induction h with
  | nil => exact ⟨rfl, rfl⟩
  | failed call rest error => simp [Event.transportError] at herrors
  | next call h ih =>
      obtain ⟨hok, heq⟩ := ih fun event hmem => herrors event (by simp [hmem])
      exact ⟨hok, by simp [heq]⟩

theorem Loop.ok_of_errors {events : List (Event ε)} {ok : Bool} (h : Loop events ok)
    (herrors : ∀ event ∈ events, event.transportError = none) : ok = true := by
  cases h with
  | nil => rfl
  | snoc h hitem =>
      cases hitem with
      | notificationFailed error =>
          have herror := herrors (.notified (.error error)) (by simp)
          cases herror
      | writeFailed command owner error =>
          have herror := herrors (.returned (.writeCommand command) (some owner) (.error error))
            (by simp)
          cases herror
      | _ => rfl

theorem Left.ok_of_errors {events : List (Event ε)} {ok : Bool} (h : Left events ok)
    (herrors : ∀ event ∈ events, event.transportError = none) : ok = true := by
  cases h with
  | failed h => exact (h.eq_succeeding fun event hmem => herrors event (by simp [hmem])).1
  | ran h hloop => exact hloop.ok_of_errors fun event hmem => herrors event (by simp [hmem])

/-- A complete trace without errors ends with the whole cleanup and `Stopped`. -/
theorem Word.cleaned_up {trace : List (Event ε)} (h : Word trace)
    (herrors : ∀ event ∈ trace, event.transportError = none) :
    ∃ before, trace = before ++ .lifecycle .shuttingDown :: succeeding shutdownTransport.toList ++
      [.lifecycle .stopped] := by
  cases h with
  | mk hleft hcleanup =>
      obtain ⟨rfl, rfl⟩ := hcleanup.eq_succeeding fun event hmem => herrors event (by simp [hmem])
      obtain rfl := hleft.ok_of_errors fun event hmem => herrors event (by simp [hmem])
      exact ⟨_, rfl⟩

namespace Actor

section Step

variable {config : ActorConfig} {s s' : Actor ε} {action : Action ε}

/-- The channel is closed in these phases only. -/
theorem closed_iff (h : Reachable config s) :
    s.requestRx.closed = true ↔ s.phase.isClosed = true := by
  refine h.induct (P := fun s => s.requestRx.closed = true ↔ s.phase.isClosed = true) ?_ ?_
  · intro now
    simp [runActor, Phase.isClosed]
  · intro s action s' _ hs hst
    cases hst with
    | reserve | enqueue | cloneHandle | dropHandle | tick => exact hs
    | _ => simp_all [Phase.isClosed, unwind]

/-- The calls that a cleanup still makes are some of its own. -/
theorem cleanup_of_shape (h : Reachable config s) {calls : Calls}
    (hphase : s.phase = .cleaningUp calls) :
    ∀ call ∈ calls.toList, call ∈ shutdownTransport.toList := by
  have hs := shape h
  simp only [Shape, hphase] at hs
  obtain ⟨left, first, -, hcalls, -⟩ := hs
  intro call hmem
  rw [hcalls]
  exact List.mem_append_right first hmem

/-- A reply of a task that stops is a rejection, or the answer to the `shutdown` it stops for. -/
def Winds (s : Actor ε) (event : Event ε) : Prop :=
  event.isClosing = true ∧ ∀ reply value, event = .replied reply value →
    value = .error .shuttingDown ∨ s.shutdownReply = some reply

/-- A task that stops only winds up. -/
theorem winds_step (hreach : Reachable config s) (hstopping : s.phase.isStopping = true)
    (h : Transition config s action s') :
    ∃ es, s'.events = s.events ++ es ∧ ∀ event ∈ es, Winds s event := by
  cases h with
  | reserve | cloneHandle | dropHandle | tick | closeRequests =>
      exact ⟨[], (List.append_nil _).symm, by simp⟩
  | enqueue request hreceives hpush =>
      exact ⟨_, events_record _ _, by simp [Winds, Event.isClosing]⟩
  | rejectActive query hphase hpending | rejectQueued query rest hphase hpending hqueued
  | rejectMessage message waiting hphase hpending hqueued hqueue =>
      exact ⟨_, events_record _ _, by simp [Winds, Event.isClosing]⟩
  | startCleanup hphase | cleanupFailed calls error hphase | cleanedUp last hphase =>
      exact ⟨_, events_record _ _, by simp [Winds, Event.isClosing, Calls.toList]⟩
  | cleanupNext first next rest hphase =>
      have hnext := cleanup_of_shape hreach hphase next (by simp [Calls.toList])
      exact ⟨_, events_record _ _, by simp [Winds, Event.isClosing, hnext]⟩
  | finish hphase =>
      refine ⟨_, events_record _ _, ?_⟩
      cases hreply : s.shutdownReply <;> cases hresult : s.result <;>
        simp [Winds, Event.isClosing, Except.isOk, Except.toBool, hreply]
  | _ => simp_all [Phase.isStopping]

/-- A task that stops publishes nothing and stops for nobody else. -/
theorem still_of_stopping (hstopping : s.phase.isStopping = true)
    (h : Transition config s action s') : s'.eventTx = s.eventTx ∧
      (s'.shutdownReply = s.shutdownReply ∨ s'.shutdownReply = none) := by
  cases h with
  | resolved | observed | receiveShutdown | queryOverflowed => simp_all [Phase.isStopping]
  | finish => exact ⟨rfl, .inr rfl⟩
  | _ => exact ⟨rfl, .inl rfl⟩

/-- A `shutdown` that the task stops for is in the record. -/
theorem shutdownReply_lt (h : Reachable config s) {reply : ReplyId}
    (hreply : s.shutdownReply = some reply) : reply < s.nextReply := by
  have hbooks := books h fun panic hphase => by
    have hslots := slots h
    simp [Slots, hphase, hreply] at hslots
  have hheld := (held_shutdown hreply).mem_iff.2 List.mem_cons_self
  exact about_lt h (mem_events_of_held hbooks hheld List.mem_cons_self) rfl

end Step

end Actor

namespace Runtime

section Step

variable {config : ActorConfig} {s s' : Runtime ε} {action : RuntimeAction ε}
  {schedule : List (RuntimeAction ε)}

/-! ## A stop is final -/

theorem isStopping_of_requestClosed (h : Reachable config s) (hclosed : s.requestClosed = true) :
    s.isStopping = true := by
  rcases Bool.or_eq_true_iff.1 hclosed with hcancelled | hclosed
  · rw [isStopping, hcancelled, Bool.true_or]
  · have hphase := (Actor.closed_iff h.actor).1 hclosed
    rw [isStopping]
    cases hcase : s.actor.phase <;> simp_all [Phase.isClosed, Phase.isStopping]

/-- What a caller was told is so. -/
theorem isStopping_of_turnedAway (h : Reachable config s) {call : Call} (hmem : call ∈ s.calls)
    (hcall : call.IsTurnedAway) : s.isStopping = true := by
  obtain ⟨reply, hstage⟩ := hcall
  have houtcome : ∃ error, (error = .shuttingDown ∨ error = .actorStopped) ∧
      Outcome s reply (.error error) := by
    rcases hstage with hstage | hstage
    · exact ⟨_, .inl rfl, explained h call hmem _ _ hstage⟩
    · exact ⟨_, .inr rfl, explained h call hmem _ _ hstage⟩
  obtain ⟨error, herror, houtcome⟩ := houtcome
  generalize hresult : (Except.error error : Reply) = result at houtcome
  cases houtcome with
  | answered reply value hsent =>
      obtain ⟨message, -, -, hgives⟩ := Actor.given h.actor _ _ hsent
      cases hgives with
      | rejected message hclosed =>
          exact isStopping_of_requestClosed h (by rw [requestClosed, hclosed, Bool.or_true])
      | shutDown =>
          unfold Actor.shutdownOutcome at hresult
          rcases herror with rfl | rfl <;> split at hresult <;> cases hresult
      | _ => rcases herror with rfl | rfl <;> cases hresult
  | abandoned reply hlost hsilent =>
      exact isStopping_of_requestClosed h (requestClosed_of_isOver h (isOver_of_isLost hlost))
  | shuttingDown hstopping => exact hstopping
  | actorStopped hclosed => exact isStopping_of_requestClosed h hclosed

/-- What a run from a system that stops adds to it. -/
structure StaysStopping (s s' : Runtime ε) : Prop where
  stopping : s'.isStopping = true
  /-- The task only rejects what waits and cleans up. -/
  winds : ∃ es, s'.actor.events = s.actor.events ++ es ∧ ∀ event ∈ es, s.actor.Winds event
  eventTx : s'.actor.eventTx = s.actor.eventTx
  shutdownReply : s'.actor.shutdownReply = s.actor.shutdownReply ∨ s'.actor.shutdownReply = none

theorem StaysStopping.trans {u : Runtime ε} (h : StaysStopping s s') (h' : StaysStopping s' u) :
    StaysStopping s u := by
  obtain ⟨es, hes, hwinds⟩ := h.winds
  obtain ⟨es', hes', hwinds'⟩ := h'.winds
  have hreply : ∀ reply, s'.actor.shutdownReply = some reply →
      s.actor.shutdownReply = some reply := by
    intro reply hsome
    rcases h.shutdownReply with hsame | hnone
    · exact hsame ▸ hsome
    · cases hnone.symm.trans hsome
  refine ⟨h'.stopping, ⟨es ++ es', ?_, ?_⟩, h'.eventTx.trans h.eventTx, ?_⟩
  · rw [hes', hes, List.append_assoc]
  · intro event hmem
    rcases List.mem_append.1 hmem with hmem | hmem
    · exact hwinds event hmem
    · obtain ⟨hclosing, hreplies⟩ := hwinds' event hmem
      exact ⟨hclosing, fun reply value hevent =>
        (hreplies reply value hevent).imp id (hreply reply)⟩
  · rcases h'.shutdownReply with hsame | hnone
    · exact h.shutdownReply.imp hsame.trans hsame.trans
    · exact .inr hnone

theorem staysStopping_of_idles (hstopping : s'.isStopping = true)
    (hidles : Actor.Idles s.actor s'.actor) : StaysStopping s s' := by
  refine ⟨hstopping, ⟨[], ?_, by simp⟩, hidles.eventTx, .inl (by rw [hidles.eq])⟩
  rw [hidles.events, List.append_nil]

theorem staysStopping_step (hreach : Reachable config s) (hstopping : s.isStopping = true)
    (h : Transition config s action s') : StaysStopping s s' := by
  have hstopping' := isStopping_step hstopping h
  rcases actor_step h with heq | ⟨a, hstep, hidle⟩
  · exact staysStopping_of_idles hstopping' (heq ▸ .refl s.actor)
  · rcases Bool.or_eq_true_iff.1 hstopping with hcancelled | hstopping
    · exact staysStopping_of_idles hstopping' (Actor.idles_of_isIdle hstep (hidle hcancelled))
    · obtain ⟨heventTx, hreply⟩ := Actor.still_of_stopping hstopping hstep
      exact ⟨hstopping', Actor.winds_step hreach.actor hstopping hstep, heventTx, hreply⟩

/-- The calls that hold no place in `s` have none in `t`, and no message entered the channel for
    them in between. -/
def NoPlace (s t : Runtime ε) : Prop :=
  ∀ i : Nat, (∀ request, s.calls[i]? ≠ some ⟨request, .reserved⟩) →
    (∀ request, t.calls[i]? ≠ some ⟨request, .reserved⟩) ∧
      ∀ reply, ReplyAt t.calls i reply → ReplyAt s.calls i reply

/-- In a closed channel no place is given. -/
theorem noPlace_step {t t' : Runtime ε} (hclosed : t.requestClosed = true) (ht : NoPlace s t)
    (h : Transition config t action t') : NoPlace s t' := by
  have hset : ∀ {k : Nat} {old new : Call}, t.calls[k]? = some old →
      t'.calls = t.calls.set k new → new.stage ≠ .reserved →
        new.stage.reply = old.stage.reply → NoPlace s t' := by
    intro k old new hold hcalls hplace hreply i hi
    obtain ⟨hnone, hkept⟩ := ht i hi
    refine ⟨fun request hget => ?_, fun reply hat => hkept reply ?_⟩
    · rcases eq_or_getElem?_of_set (hcalls ▸ hget) with heq | hget
      · exact hplace (congrArg Call.stage heq.symm)
      · exact hnone request hget
    · rw [hcalls] at hat
      exact (replyAt_set_same hold hreply).1 hat
  cases h with
  | call request hsenders =>
      intro i hi
      obtain ⟨hnone, hkept⟩ := ht i hi
      refine ⟨fun request hget => ?_, fun reply hat => hkept reply (replyAt_append.1 hat)⟩
      rcases eq_or_getElem?_of_append hget with heq | hget
      · cases heq
      · exact hnone request hget
  | admitted k request hold | turnedAway k request error hold | unsent k request hold
  | late k request hold | stranded k request hold | answered k request reply value hold
  | abandoned k request reply hold | lost k request hold =>
      exact hset hold rfl (by simp) rfl
  | dropCall k old hold => exact hset hold rfl (by simp) rfl
  | reserved k request actor hold hopen => simp [hclosed] at hopen
  | enqueued k request actor hold =>
      intro i hi
      obtain ⟨hnone, hkept⟩ := ht i hi
      have hne : k ≠ i := by
        rintro rfl
        exact hnone request hold
      refine ⟨fun request hget => hnone request ?_, fun reply hat => hkept reply ?_⟩
      · exact (List.getElem?_set_ne hne).symm.trans hget
      · have hat := (replyAt_set hold).1 hat
        rwa [if_neg hne.symm] at hat
  | actor | recv | abort | cancel => exact ht

/-- What everybody can rely on once the actor stops. -/
structure StopIsFinal (s s' : Runtime ε) : Prop where
  stopping : s'.isStopping = true
  /-- No command is written and nothing is published any more. -/
  closing : ∃ es, s'.actor.events = s.actor.events ++ es ∧ ∀ event ∈ es, event.isClosing = true
  published : s'.actor.eventTx = s.actor.eventTx
  /-- Once the channel is closed, the only messages that still enter it are those of calls that hold
      a place in it. -/
  entered : s.requestClosed = true → s'.requestClosed = true ∧
    ∀ i reply, ReplyAt s'.calls i reply →
      ReplyAt s.calls i reply ∨ ∃ request, s.calls[i]? = some ⟨request, .reserved⟩
  /-- A call without a message in the channel, and every later one, gets nothing but
      `ShuttingDown` or `ActorStopped`, and no stream. -/
  turnedAway : ∀ (i : Nat) (call : Call), s'.calls[i]? = some call →
    (∀ old : Call, s.calls[i]? = some old → old.stage.reply = none) →
      ∀ reply result, call.stage = .completed reply result →
        result = .error .shuttingDown ∨ result = .error .actorStopped

/-- **A stop is final.** Once `ShuttingDown` was published, or some caller was told of the stop,
    nothing more is done for any caller. -/
theorem stop_is_final (h : Reachable config s)
    (hstop : s.isStopping = true ∨ ∃ call ∈ s.calls, call.IsTurnedAway)
    (hrun : StepMachine.run (step config) s schedule = some s') : StopIsFinal s s' := by
  have hstopping : s.isStopping = true := by
    rcases hstop with hstopping | ⟨call, hmem, hcall⟩
    · exact hstopping
    · exact isStopping_of_turnedAway h hmem hcall
  have hall : Reachable config s' ∧ StaysStopping s s' ∧
      (s.requestClosed = true → s'.requestClosed = true ∧ NoPlace s s') ∧
      Later (fun k => ∀ reply, ¬ ReplyAt s.calls k reply) s.actor.nextReply s' := by
    refine StepMachine.run_preserves (P := fun t => Reachable config t ∧ StaysStopping s t ∧
      (s.requestClosed = true → t.requestClosed = true ∧ NoPlace s t) ∧
      Later (fun k => ∀ reply, ¬ ReplyAt s.calls k reply) s.actor.nextReply t) ?_ ?_ hrun
    · rintro t a t' ⟨ht, hstays, hclosed, hlater⟩ hst
      have htrans := transition_of_step hst
      refine ⟨ht.next hst, hstays.trans (staysStopping_step ht hstays.stopping htrans),
        fun hs => ?_, later_step hlater htrans⟩
      obtain ⟨htclosed, hnone⟩ := hclosed hs
      exact ⟨requestClosed_step htclosed htrans, noPlace_step htclosed hnone htrans⟩
    · refine ⟨h, ⟨hstopping, ⟨[], (List.append_nil _).symm, by simp⟩, rfl, .inl rfl⟩,
        fun hclosed => ⟨hclosed, fun i hi => ⟨hi, fun reply hat => hat⟩⟩, Nat.le_refl _, ?_⟩
      intro k reply hk hat
      exact absurd hat (hk reply)
  obtain ⟨hreach', hstays, hclosed, -, hlater⟩ := hall
  obtain ⟨es, hes, hwinds⟩ := hstays.winds
  refine ⟨hstays.stopping, ⟨es, hes, fun event hmem => (hwinds event hmem).1⟩, hstays.eventTx,
    fun hs => ⟨(hclosed hs).1, fun i reply hat => ?_⟩, ?_⟩
  · by_cases hplace : ∃ request, s.calls[i]? = some ⟨request, .reserved⟩
    · exact .inr hplace
    · exact .inl (((hclosed hs).2 i (not_exists.1 hplace)).2 reply hat)
  · intro i call hcall hold reply result hstage
    cases explained hreach' call (List.mem_of_getElem? hcall) reply result hstage with
    | shuttingDown => exact .inl rfl
    | actorStopped | abandoned => exact .inr rfl
    | answered reply _ hsent =>
        -- the oneshot is a later one, so the answer is a rejection
        have hlate : s.actor.nextReply ≤ reply := by
          refine hlater i reply ?_ ⟨call, hcall, by rw [hstage]; rfl⟩
          rintro reply' ⟨old, hget, hreply⟩
          rw [hold old hget] at hreply
          cases hreply
        rw [hes] at hsent
        rcases List.mem_append.1 hsent with hsent | hsent
        · exact absurd (Actor.about_lt h.actor hsent rfl) (Nat.not_lt.2 hlate)
        · rcases (hwinds _ hsent).2 reply result rfl with hresult | hreply
          · exact .inl hresult
          · exact absurd (Actor.shutdownReply_lt h.actor hreply) (Nat.not_lt.2 hlate)

/-- A further call is turned away before the channel closes, and the command that holds a place in
    it comes just in time to be rejected. -/
def turnedAwayRun : List (RuntimeAction Unit) :=
  [.call .pieceStatus, .sendMessage 2, .sendReturned 0, .actor .proceed, .actor .proceed,
    .receiveReply 0]

theorem strandedRun_stop_is_final :
    ∃ s s', runFrom ActorConfig.default 64 .zero (strandedRun.take 13) = some s ∧
      s.actor.phase = .closing ∧
      StepMachine.run (step ActorConfig.default) s turnedAwayRun = some s' ∧
      s'.calls[0]? = some ⟨.send Command.stopAutoMove,
        .completed (some 1) (.error .shuttingDown)⟩ ∧
      s'.calls[2]? = some ⟨.pieceStatus, .completed none (.error .shuttingDown)⟩ ∧
      StopIsFinal s s' := by
  have hrun : runFrom ActorConfig.default 64 .zero (strandedRun.take 13) = some _ := rfl
  have hreach := Reachable.of_runFrom (.allocating (2 ^ 64 - 1) 1024) (by decide) (by decide) hrun
  refine ⟨_, _, hrun, rfl, rfl, rfl, rfl, ?_⟩
  exact stop_is_final hreach (.inl rfl) (show StepMachine.run _ _ turnedAwayRun = _ from rfl)

/-! ## The end is final -/

theorem isAwait_of_cancelled (h : Reachable config s) (hcancelled : s.cancelled = true) :
    s.actor.phase.isAwait = true := by
  refine h.induct (P := fun s => s.cancelled = true → s.actor.phase.isAwait = true) ?_ ?_ hcancelled
  · intro retained now _ _ hcancelled
    cases hcancelled
  · intro s action s' hreach hs hst hcancelled
    cases hold : s.cancelled with
    | true =>
        have hover : s.isOver = true := by rw [isOver, hold, Bool.true_or]
        rw [(idles_of_isOver hreach hover hst).phase]
        exact hs hold
    | false =>
        cases hst with
        | cancel hrequested hawait => exact hawait
        | _ =>
            have hsame : s.cancelled = true := hcancelled
            simp [hold] at hsame

/-- Awaiting a task that is gone gives its result. -/
theorem join_eq (s : Runtime ε) :
    s.join = if s.cancelled then some (.error .cancelled)
      else if s.actor.phase = .returned then some (.ok s.actor.result)
      else if s.isOver then some (.error .panicked) else none := by
  unfold join isOver Actor.hasEnded
  split
  · rfl
  · next hcancelled => cases hphase : s.actor.phase <;> simp_all

/-- A call that returns `ShuttingDown` without a message in the channel saw that state. -/
def SawShuttingDown (s s' : Runtime ε) : Prop :=
  ∀ (i : Nat) (call : Call), s'.calls[i]? = some call →
    call.stage = .completed none (.error .shuttingDown) →
      (∃ old : Call, s.calls[i]? = some old ∧ old.stage = call.stage) ∨
        s.actor.lifecycle = .shuttingDown

theorem sawShuttingDown_set {t t' : Runtime ε} (ht : SawShuttingDown s t) {i : Nat} {call : Call}
    (hcalls : t'.calls = t.calls.set i call)
    (hcall : call.stage = .completed none (.error .shuttingDown) →
      s.actor.lifecycle = .shuttingDown) : SawShuttingDown s t' := by
  intro k other hget hstage
  rcases eq_or_getElem?_of_set (hcalls ▸ hget) with rfl | hget
  · exact .inr (hcall hstage)
  · exact ht k other hget hstage

theorem sawShuttingDown_step {t t' : Runtime ε} (hlifecycle : t.actor.lifecycle = s.actor.lifecycle)
    (ht : SawShuttingDown s t) (h : Transition config t action t') : SawShuttingDown s t' := by
  cases h with
  | call request hsenders =>
      intro k other hget hstage
      rcases eq_or_getElem?_of_append hget with rfl | hget
      · cases hstage
      · exact ht k other hget hstage
  | turnedAway i request error hcall hshut =>
      refine sawShuttingDown_set ht rfl ?_
      rintro ⟨⟩
      rcases hshut with ⟨hshut, -⟩ | ⟨-, herror⟩
      · exact hlifecycle ▸ hshut
      · cases herror
  | admitted | unsent | reserved | enqueued | late | stranded | answered | abandoned | lost
  | dropCall =>
      exact sawShuttingDown_set ht rfl (by simp)
  | actor | recv | abort | cancel => exact ht

/-- What everybody can rely on once the task is gone. -/
structure EndIsFinal (s s' : Runtime ε) : Prop where
  /-- Awaiting it always gives the same. -/
  join : s'.join = s.join ∧ s'.isFinished = true
  /-- The clock and the handles apart, nothing of the actor changes. -/
  idles : Actor.Idles s.actor s'.actor
  /-- A final lifecycle state was published exactly if the task returned. -/
  lifecycle : (∃ result, s.join = some (.ok result)) ↔
    s.actor.lifecycle = .stopped ∨ s.actor.lifecycle = .faulted
  /-- A call that returns afterwards gets the answer that it had, or learns of the end. -/
  calls : ∀ (i : Nat) (call : Call) reply result, s'.calls[i]? = some call →
    call.stage = .completed reply result →
    (∀ old : Call, s.calls[i]? = some old → old.stage.isLive = true) →
      (∃ r, reply = some r ∧ .replied r result ∈ s.actor.events) ∨
      result = .error .actorStopped ∨
      result = .error .shuttingDown ∧ reply = none ∧ s.actor.lifecycle = .shuttingDown

/-- The task is aborted while its first write is under way. -/
def abortedRun : List (RuntimeAction Unit) := waitingRun ++ [.abort, .cancel]

/-- The task has returned, and no message that it could receive is without its answer. -/
structure Settled (s : Runtime ε) (result : Except (ActorError ε) Unit) : Prop where
  join : s.join = some (.ok result)
  lifecycle : s.actor.lifecycle = if result.isOk then .stopped else .faulted
  answered : ∀ message, .enqueued message ∈ s.actor.events →
    ∃ value, s.actor.repliesTo message.reply = [value]

/-- The commands sent before the first `shutdown` were written. -/
def Flushed (s : Actor ε) : Prop :=
  ∀ command reply, .send command reply ∈ Actor.beforeShutdown s.enqueuedMessages →
    .returned (.writeCommand command) (some (.send command reply)) (.ok ()) ∈ s.events ∧
      s.repliesTo reply = [.ok .done]

/-- What the result of `shutdown` tells. -/
structure ShutdownTells (s : Runtime ε) (result : Reply) : Prop where
  /-- `Ok`: no transport call failed, the cleanup is complete and the commands were written. -/
  ok : result = .ok .done → Settled s (.ok ()) ∧ s.actor.transportErrors = [] ∧
    (∃ before, Actor.trace s.actor.log = before ++ .lifecycle .shuttingDown ::
      succeeding shutdownTransport.toList ++ [.lifecycle .stopped]) ∧ Flushed s.actor
  /-- `TransportFailed`: awaiting the task gives the first error of the transport. -/
  failed : result = .error .transportFailed → ∃ error,
    Settled s (.error (.transport error)) ∧ s.actor.transportErrors.head? = some error
  /-- Whatever it returns, the actor stops. -/
  stopping : s.isStopping = true

theorem settled_of_returned (h : Reachable config s) (hret : s.actor.phase = .returned) :
    Settled s s.actor.result := by
  have hcancelled : s.cancelled = false := by
    cases hcancelled : s.cancelled with
    | false => rfl
    | true =>
        have hawait := isAwait_of_cancelled h hcancelled
        rw [hret] at hawait
        cases hawait
  refine ⟨?_, ?_, ?_⟩
  · rw [join_eq, hcancelled, hret]
    rfl
  · have htold := Actor.told h.actor
    simp only [Actor.Told, hret] at htold
    obtain ⟨reason, since, hlifecycle, -⟩ := htold
    exact hlifecycle
  · intro message hmem
    obtain ⟨hanswered, -⟩ := Actor.exists_answered h.actor hret hmem
    obtain ⟨value, hvalue⟩ := hanswered.replied
    exact ⟨value, repliesTo_of_replied h.actor (mem_story.1 hvalue).1⟩

theorem transportErrors_eq_nil {s : Actor ε} :
    s.transportErrors = [] ↔ ∀ event ∈ s.events, event.transportError = none := by
  rw [Actor.transportErrors, Actor.extract_eq_filterMap, List.filterMap_eq_nil_iff]

/-- Without errors the cleanup is complete. -/
theorem cleaned_up_of_returned (h : Reachable config s) (hret : s.actor.phase = .returned)
    (herrors : ∀ event ∈ s.actor.events, event.transportError = none) :
    ∃ before, Actor.trace s.actor.log = before ++ .lifecycle .shuttingDown ::
      succeeding shutdownTransport.toList ++ [.lifecycle .stopped] := by
  have hword := Actor.shape h.actor
  rw [Actor.Shape, hret] at hword
  exact hword.cleaned_up fun event hmem => herrors event (List.mem_of_mem_filter hmem)

/-- Without errors, a command that was written was written successfully. -/
theorem flushed_of_returned (h : Reachable config s) (hret : s.actor.phase = .returned)
    (herrors : ∀ event ∈ s.actor.events, event.transportError = none) : Flushed s.actor := by
  have hserved : Actor.FailedFirst s.actor.events ∨ Actor.ServedBeforeShutdown s.actor := by
    have hserved := Actor.served h.actor
    rw [Actor.Served, hret] at hserved
    exact hserved.imp id And.left
  have hattempted : Actor.ServedBeforeShutdown s.actor := by
    refine hserved.resolve_left ?_
    rintro ⟨before, failure, after, hevents, hfailed, -⟩
    have hnone := herrors failure (by simp [hevents])
    unfold Actor.Event.failed at hfailed
    unfold Event.transportError at hnone
    split at hfailed <;> simp_all
  intro command reply hmem
  have hcalled := hattempted _ hmem command reply rfl
  have henqueued := Actor.mem_enqueuedMessages.1 ((List.takeWhile_prefix _).subset hmem)
  obtain ⟨hanswered, hstory⟩ := Actor.exists_answered h.actor hret henqueued
  obtain ⟨value, hvalue⟩ := hanswered.replied
  have hreplied := (mem_story.1 hvalue).1
  obtain ⟨message, hreply, hsent, hgives⟩ := Actor.given h.actor reply value hreplied
  obtain rfl := enqueued_unique h.actor henqueued hsent hreply.symm
  have htruthful : Truthful s (.send command) (some reply) value :=
    truthful_of_gives h henqueued hreplied hgives
  cases hgives with
  | rejected message hclosed =>
      exact absurd hcalled (htruthful.unwritten (.inr ⟨⟨command, rfl⟩, rfl⟩) reply rfl _)
  | sent command reply hwrite => exact ⟨hwrite, repliesTo_of_replied h.actor hreplied⟩
  | sendFailed command reply error hwrite hresult => cases herrors _ hwrite

/-- Where the result of `shutdown` comes from. -/
theorem shutdown_outcome (h : Reachable config s) {call : Call} (hmem : call ∈ s.calls)
    (hrequest : call.request = .shutdown) {reply : Option ReplyId} {result : Reply}
    (hstage : call.stage = .completed reply result) :
    s.actor.phase = .returned ∧ result = s.actor.shutdownOutcome ∨
      s.isStopping = true ∧ (result = .error .shuttingDown ∨ result = .error .actorStopped) := by
  cases explained h call hmem reply result hstage with
  | answered reply _ hsent =>
      have hreply : call.stage.reply = some reply := by rw [hstage]; rfl
      have hgives := gives_of_replied h hmem hreply hsent
      rw [hrequest] at hgives
      cases hgives with
      | rejected message hclosed =>
          have hclosed : s.requestClosed = true := by rw [requestClosed, hclosed, Bool.or_true]
          exact .inr ⟨isStopping_of_requestClosed h hclosed, .inl rfl⟩
      | shutDown reply hret => exact .inl ⟨hret, rfl⟩
  | abandoned reply hlost hsilent =>
      have hclosed := requestClosed_of_isOver h (isOver_of_isLost hlost)
      exact .inr ⟨isStopping_of_requestClosed h hclosed, .inr rfl⟩
  | shuttingDown hstopping => exact .inr ⟨hstopping, .inl rfl⟩
  | actorStopped hclosed => exact .inr ⟨isStopping_of_requestClosed h hclosed, .inr rfl⟩

/-- `shutdown` returns `Ok` after a run without errors only. -/
theorem no_errors_of_shutdown (h : Reachable config s) {call : Call} (hmem : call ∈ s.calls)
    (hrequest : call.request = .shutdown) {reply : Option ReplyId}
    (hstage : call.stage = .completed reply (.ok .done)) :
    s.actor.phase = .returned ∧ ∀ event ∈ s.actor.events, event.transportError = none := by
  rcases shutdown_outcome h hmem hrequest hstage with ⟨hret, houtcome⟩ | ⟨-, hresult⟩
  · refine ⟨hret, transportErrors_eq_nil.1 ?_⟩
    rw [Actor.shutdownOutcome, Actor.result_eq h.actor] at houtcome
    cases hnone : s.actor.transportErrors with
    | nil => rfl
    | cons error errors =>
        rw [hnone] at houtcome
        cases houtcome
  · rcases hresult with hresult | hresult <;> cases hresult

/-- **What `shutdown` returns tells how the task ended.** -/
theorem shutdown_tells (h : Reachable config s) {call : Call} (hmem : call ∈ s.calls)
    (hrequest : call.request = .shutdown) {reply : Option ReplyId} {result : Reply}
    (hstage : call.stage = .completed reply result) : ShutdownTells s result := by
  rcases shutdown_outcome h hmem hrequest hstage with ⟨hret, rfl⟩ | ⟨hstopping, hresult⟩
  · have hsettled := settled_of_returned h hret
    have hfirst := Actor.result_eq h.actor
    have hstopping : s.isStopping = true := by rw [isStopping, hret]; exact Bool.or_true _
    unfold Actor.shutdownOutcome
    rw [hfirst] at hsettled ⊢
    cases hnone : s.actor.transportErrors with
    | nil =>
        have herrors := transportErrors_eq_nil.1 hnone
        rw [hnone] at hsettled
        refine ⟨fun _ => ⟨hsettled, hnone, cleaned_up_of_returned h hret herrors,
          flushed_of_returned h hret herrors⟩, ?_, hstopping⟩
        rintro ⟨⟩
    | cons error errors =>
        rw [hnone] at hsettled
        refine ⟨?_, fun _ => ⟨error, hsettled, by rw [hnone]; rfl⟩, hstopping⟩
        rintro ⟨⟩
  · refine ⟨?_, ?_, hstopping⟩
    · rintro rfl
      rcases hresult with hresult | hresult <;> cases hresult
    · rintro rfl
      rcases hresult with hresult | hresult <;> cases hresult

theorem sessionRun_shutdown_tells :
    ∃ s, runFrom ActorConfig.default 64 .zero sessionRun = some s ∧
      (⟨.shutdown, .completed (some 1) (.ok .done)⟩ : Call) ∈ s.calls ∧
      ShutdownTells s (.ok .done) := by
  have hrun : runFrom ActorConfig.default 64 .zero sessionRun = some _ := rfl
  have hreach := Reachable.of_runFrom (.allocating (2 ^ 64 - 1) 1024) (by decide) (by decide) hrun
  refine ⟨_, hrun, List.mem_of_getElem? (i := 1) rfl, ?_⟩
  exact shutdown_tells hreach (List.mem_of_getElem? (i := 1) rfl) rfl rfl

end Step

end Runtime

end ChessnutMove.Tokio
