import ChessnutMove.Tokio.Replies

set_option autoImplicit false

/-! # What the callers get

Every oneshot that the actor can receive belongs to one call, and the message that carries it is
that call's. A call that has returned either got the one value the actor sent on its oneshot, or
learned that the task is gone, or its message never reached the task: it was turned away, or it
entered the channel after the task looked there for the last time. -/

namespace ChessnutMove.Tokio

variable {ε : Type}

/-- `ShuttingDown` was published, or the task panicked. -/
def Phase.isStopping : Phase → Bool
  | .closing | .rejecting | .cleaningUp _ | .finishing | .returned | .panicked _ => true
  | .initializing _ | .loopTop | .startingQuery _ | .selecting | .sending _ _ | .leaving => false

/-! ## Documented results -/

/-- The kind of value that a method returns. -/
def Request.returns : Request → ReplyValue → Bool
  | .send _, .done | .batteryStatus, .batteryStatus _ | .pieceStatus, .pieceStatus _
  | .subscribeEvents, .stream _ | .shutdown, .done => true
  | _, _ => false

/-- The errors that the documentation of a method lists. -/
def Request.errors : Request → List HandleError
  | .send _ => [.shuttingDown, .actorStopped, .transportFailed]
  | .batteryStatus | .pieceStatus =>
      [.queryQueueFull, .requestTimedOut, .transportFailed, .shuttingDown, .actorStopped]
  | .subscribeEvents => [.shuttingDown, .actorStopped]
  | .shutdown => [.transportFailed, .shuttingDown, .actorStopped]

/-- A result that the documentation of the method allows. -/
def Request.documents (request : Request) : Reply → Bool
  | .ok value => request.returns value
  | .error error => request.errors.contains error

theorem Request.documents_of_gives {s : Actor ε} {request : Request} {reply : ReplyId}
    {value : Reply} (h : s.Gives (request.message reply) value) :
    request.documents value = true := by
  generalize hmessage : request.message reply = message at h
  cases h with
  | answered query event value hanswer =>
      cases request <;> cases hmessage <;> cases event <;> cases hanswer <;> rfl
  | shutDown =>
      unfold Actor.shutdownOutcome
      cases request <;> cases hmessage
      split <;> rfl
  | _ => cases request <;> cases hmessage <;> rfl

theorem Request.documents_closed (request : Request) :
    request.documents (.error .shuttingDown) = true ∧
      request.documents (.error .actorStopped) = true := by
  cases request <;> exact ⟨rfl, rfl⟩

namespace Runtime

/-! ## Oneshots of calls -/

theorem eq_or_getElem?_of_set {calls : List Call} {i k : Nat} {call new : Call}
    (h : (calls.set k new)[i]? = some call) : call = new ∨ calls[i]? = some call := by
  rw [List.getElem?_set] at h
  split at h
  · split at h
    · exact .inl (Option.some.inj h).symm
    · cases h
  · exact .inr h

theorem eq_or_getElem?_of_append {calls : List Call} {i : Nat} {call new : Call}
    (h : (calls ++ [new])[i]? = some call) : call = new ∨ calls[i]? = some call := by
  rw [List.getElem?_append] at h
  split at h
  · exact .inr h
  · exact .inl (List.mem_singleton.1 (List.mem_of_getElem? h))

/-- The call at an index uses a oneshot. -/
def ReplyAt (calls : List Call) (i : Nat) (reply : ReplyId) : Prop :=
  ∃ call, calls[i]? = some call ∧ call.stage.reply = some reply

section ReplyAt

variable {calls : List Call} {i k : Nat} {reply : ReplyId} {call call' : Call}

theorem replyAt_append {request : Request} :
    ReplyAt (calls ++ [⟨request, .called⟩]) k reply ↔ ReplyAt calls k reply := by
  unfold ReplyAt
  rw [List.getElem?_append]
  split
  · rfl
  · next hlt =>
      rw [List.getElem?_eq_none (Nat.le_of_not_lt hlt)]
      constructor
      · rintro ⟨call, hcall, hreply⟩
        obtain rfl := List.mem_singleton.1 (List.mem_of_getElem? hcall)
        cases hreply
      · rintro ⟨call, hcall, -⟩
        cases hcall

theorem replyAt_set (hcall : calls[i]? = some call) :
    ReplyAt (calls.set i call') k reply
      ↔ if k = i then call'.stage.reply = some reply else ReplyAt calls k reply := by
  have hlt := (List.getElem?_eq_some_iff.1 hcall).1
  unfold ReplyAt
  rw [List.getElem?_set]
  by_cases hk : k = i
  · rw [if_pos hk.symm, if_pos hk, if_pos hlt]
    simp
  · rw [if_neg (Ne.symm hk), if_neg hk]

/-- A call that keeps its oneshot. -/
theorem replyAt_set_same (hcall : calls[i]? = some call)
    (hsame : call'.stage.reply = call.stage.reply) :
    ReplyAt (calls.set i call') k reply ↔ ReplyAt calls k reply := by
  rw [replyAt_set hcall]
  split
  · next hk =>
      subst hk
      rw [hsame]
      exact ⟨fun hreply => ⟨call, hcall, hreply⟩, fun ⟨call₁, hcall₁, hreply⟩ =>
        Option.some.inj (hcall.symm.trans hcall₁) ▸ hreply⟩
  · rfl

end ReplyAt

/-- The oneshots of the actor and those of the calls are the same, each in one place. -/
structure Issued (s : Runtime ε) : Prop where
  lt : ∀ i reply, ReplyAt s.calls i reply → reply < s.actor.nextReply
  unique : ∀ i k reply, ReplyAt s.calls i reply → ReplyAt s.calls k reply → i = k
  exists_call : ∀ reply < s.actor.nextReply, ∃ i, ReplyAt s.calls i reply
  /-- The message in the record is the call's own. -/
  enqueued : ∀ call ∈ s.calls, ∀ reply, call.stage.reply = some reply →
    .enqueued (call.request.message reply) ∈ s.actor.events

section Step

variable {config : ActorConfig} {s s' : Runtime ε} {action : RuntimeAction ε}

/-- A step that changes no oneshot. -/
theorem Issued.of_same (hs : Issued s)
    (hat : ∀ k reply, ReplyAt s'.calls k reply ↔ ReplyAt s.calls k reply)
    (hnext : s'.actor.nextReply = s.actor.nextReply)
    (hevents : ∀ event ∈ s.actor.events, event ∈ s'.actor.events)
    (hmem : ∀ call ∈ s'.calls, ∀ reply, call.stage.reply = some reply →
      ∃ call' ∈ s.calls, call'.request = call.request ∧ call'.stage.reply = some reply) :
    Issued s' := by
  refine ⟨?_, ?_, ?_, ?_⟩
  · intro i reply h
    exact hnext ▸ hs.lt i reply ((hat i reply).1 h)
  · intro i k reply hi hk
    exact hs.unique i k reply ((hat i reply).1 hi) ((hat k reply).1 hk)
  · intro reply hlt
    obtain ⟨i, hi⟩ := hs.exists_call reply (hnext ▸ hlt)
    exact ⟨i, (hat i reply).2 hi⟩
  · intro call hcall reply hreply
    obtain ⟨call', hcall', hrequest, hreply'⟩ := hmem call hcall reply hreply
    exact hevents _ (hrequest ▸ hs.enqueued call' hcall' reply hreply')

/-- A call moves on and keeps its oneshot. -/
theorem Issued.set_same (hs : Issued s) {i : Nat} {call call' : Call}
    (hcall : s.calls[i]? = some call) (hcalls : s'.calls = s.calls.set i call')
    (hnext : s'.actor.nextReply = s.actor.nextReply) (hevents : s'.actor.events = s.actor.events)
    (hrequest : call'.request = call.request) (hsame : call'.stage.reply = call.stage.reply) :
    Issued s' := by
  refine hs.of_same ?_ hnext (fun event hmem => hevents ▸ hmem) ?_
  · intro k reply
    rw [hcalls]
    exact replyAt_set_same hcall hsame
  · intro other hother reply hreply
    rw [hcalls] at hother
    rcases List.mem_or_eq_of_mem_set hother with hother | rfl
    · exact ⟨other, hother, rfl, hreply⟩
    · exact ⟨call, List.mem_of_getElem? hcall, hrequest.symm, hsame ▸ hreply⟩

theorem nextReply_step {s s' : Actor ε} {action : Action ε}
    (hother : ∀ request, action ≠ .enqueue request)
    (h : Actor.Transition config s action s') : s'.nextReply = s.nextReply := by
  cases h with
  | enqueue request => exact absurd rfl (hother request)
  | _ => rfl

theorem reserve_eq {s s' : Actor ε} (h : Actor.Transition config s .reserve s') :
    ∃ hreserve, s' = { s with requestRx := s.requestRx.reserve hreserve } := by
  cases h with
  | reserve hreserve => exact ⟨hreserve, rfl⟩

theorem ne_enqueue_of_allows {action : Action ε} (h : s.allows action = true) (request : Request) :
    action ≠ .enqueue request := by
  rintro rfl
  cases h

theorem issued_step (hs : Issued s) (h : Transition config s action s') : Issued s' := by
  cases h with
  | actor action actor hallows h =>
      refine hs.of_same (fun k reply => Iff.rfl)
        (nextReply_step (ne_enqueue_of_allows hallows) h) (fun event => Actor.mem_events_step h) ?_
      intro call hcall reply hreply
      exact ⟨call, hcall, rfl, hreply⟩
  | call request hsenders =>
      refine hs.of_same (fun k reply => replyAt_append) rfl (fun event hmem => hmem) ?_
      intro call hcall reply hreply
      rcases List.mem_append.1 hcall with hcall | hcall
      · exact ⟨call, hcall, rfl, hreply⟩
      · obtain rfl := List.mem_singleton.1 hcall
        cases hreply
  | admitted i request hcall | turnedAway i request error hcall | unsent i request hcall
  | late i request hcall | stranded i request hcall | answered i request reply value hcall
  | abandoned i request reply hcall | lost i request hcall =>
      exact hs.set_same hcall rfl rfl rfl rfl rfl
  | dropCall i call hcall hdrop => exact hs.set_same hcall rfl rfl rfl rfl rfl
  | reserved i request actor hcall hopen h =>
      obtain ⟨hreserve, rfl⟩ := reserve_eq h
      exact hs.set_same hcall rfl rfl rfl rfl rfl
  | enqueued i request actor hcall hlives h =>
      have henqueued : .enqueued (request.message s.actor.nextReply) ∈ actor.events := by
        cases h with
        | enqueue request hreceives hpush => simp
      have hnext : actor.nextReply = s.actor.nextReply + 1 := by
        cases h with
        | enqueue request hreceives hpush => rfl
      have hat : ∀ k reply, ReplyAt (s.calls.set i ⟨request, .awaiting s.actor.nextReply⟩) k reply ↔
          if k = i then s.actor.nextReply = reply else ReplyAt s.calls k reply := by
        intro k reply
        rw [replyAt_set hcall]
        simp [Stage.reply]
      have hfresh : ∀ reply, ¬ ReplyAt s.calls i reply := by
        rintro reply ⟨call, hcall', hreply⟩
        cases Option.some.inj (hcall.symm.trans hcall')
        cases hreply
      refine ⟨?_, ?_, ?_, ?_⟩
      · intro k reply hk
        show reply < actor.nextReply
        rw [calls_setStage, hat] at hk
        rw [hnext]
        split at hk
        · next hreply => exact hk ▸ Nat.lt_succ_self s.actor.nextReply
        · exact Nat.lt_succ_of_lt (hs.lt k reply hk)
      · intro k k' reply hk hk'
        rw [calls_setStage, hat] at hk hk'
        split at hk
        · next heq =>
            split at hk'
            · next heq' => rw [heq, heq']
            · exact absurd (hs.lt k' reply hk') (hk ▸ Nat.lt_irrefl s.actor.nextReply)
        · split at hk'
          · exact absurd (hs.lt k reply hk) (hk' ▸ Nat.lt_irrefl s.actor.nextReply)
          · exact hs.unique k k' reply hk hk'
      · intro reply hlt
        replace hlt : reply < actor.nextReply := hlt
        rw [hnext] at hlt
        by_cases hold : reply < s.actor.nextReply
        · obtain ⟨k, hk⟩ := hs.exists_call reply hold
          have hne : k ≠ i := by
            rintro rfl
            exact hfresh reply hk
          exact ⟨k, (hat k reply).2 (by rwa [if_neg hne])⟩
        · refine ⟨i, (hat i reply).2 ?_⟩
          rw [if_pos rfl]
          exact Nat.le_antisymm (Nat.le_of_not_lt hold) (Nat.le_of_lt_succ hlt)
      · intro call hmem reply hreply
        rcases List.mem_or_eq_of_mem_set hmem with hmem | rfl
        · exact Actor.mem_events_step h (hs.enqueued call hmem reply hreply)
        · obtain rfl := Option.some.inj hreply
          exact henqueued
  | recv | abort | cancel => exact ⟨hs.lt, hs.unique, hs.exists_call, hs.enqueued⟩

theorem issued (h : Reachable config s) : Issued s := by
  refine h.induct (P := Issued) ?_ ?_
  · intro retained now _ _
    refine ⟨?_, ?_, ?_, ?_⟩
    · rintro i reply ⟨call, hcall, -⟩
      cases hcall
    · rintro i k reply ⟨call, hcall, -⟩
      cases hcall
    · intro reply hlt
      cases hlt
    · intro call hcall
      cases hcall
  · intro s action s' _ hs hst
    exact issued_step hs hst

end Step

/-! ## Results of calls -/

/-- `ShuttingDown` was published, or the task went away without returning. -/
def isStopping (s : Runtime ε) : Bool := s.cancelled || s.actor.phase.isStopping

/-- The task went away without returning. -/
def IsLost (s : Runtime ε) : Prop :=
  s.cancelled = true ∨ ∃ panic, s.actor.phase = .panicked panic

/-- Where the result of a call can come from. -/
inductive Outcome (s : Runtime ε) : Option ReplyId → Reply → Prop
  | answered (reply : ReplyId) (value : Reply) (h : .replied reply value ∈ s.actor.events) :
      Outcome s (some reply) value
  | abandoned (reply : ReplyId) (hlost : s.IsLost)
      (hsilent : ∀ value, .replied reply value ∉ s.actor.events) :
      Outcome s (some reply) (.error .actorStopped)
  | shuttingDown (hstopping : s.isStopping = true) : Outcome s none (.error .shuttingDown)
  | actorStopped (hclosed : s.requestClosed = true) : Outcome s none (.error .actorStopped)

section Results

variable {config : ActorConfig} {s s' : Runtime ε} {action : RuntimeAction ε}

/-- What the actor does in a step of the system. -/
theorem actor_step (h : Transition config s action s') :
    s'.actor = s.actor ∨ ∃ a, Actor.Transition config s.actor a s'.actor ∧
      (s.cancelled = true → a.isIdle = true) := by
  cases h with
  | actor a actor hallows h =>
      refine .inr ⟨a, h, ?_⟩
      intro hcancelled
      cases a <;> simp_all [allows, Action.isIdle]
  | reserved i request actor hcall hopen h =>
      refine .inr ⟨_, h, ?_⟩
      intro hcancelled
      simp [requestClosed, hcancelled] at hopen
  | enqueued i request actor hcall hlives h =>
      refine .inr ⟨_, h, ?_⟩
      intro hcancelled
      simp [isOver, hcancelled] at hlives
  | _ => exact .inl rfl

theorem cancelled_step (h : Transition config s action s') (hcancelled : s.cancelled = true) :
    s'.cancelled = true := by
  cases h with
  | cancel => rfl
  | _ => exact hcancelled

theorem events_step (h : Transition config s action s') {event : Event ε}
    (hmem : event ∈ s.actor.events) : event ∈ s'.actor.events := by
  rcases actor_step h with heq | ⟨a, hstep, -⟩
  · exact heq ▸ hmem
  · exact Actor.mem_events_step hstep hmem

/-- Once the task is gone, the actor only sees the clock and the handles change. -/
theorem idles_of_isOver (hreach : Reachable config s) (hover : s.isOver = true)
    (h : Transition config s action s') : Actor.Idles s.actor s'.actor := by
  rcases actor_step h with heq | ⟨a, hstep, hidle⟩
  · exact heq ▸ ⟨rfl, rfl, rfl, rfl⟩
  · rcases Bool.or_eq_true_iff.1 hover with hcancelled | hended
    · exact Actor.idles_of_isIdle hstep (hidle hcancelled)
    · exact Actor.idles_of_ended (Actor.slots hreach.actor) hended hstep

theorem isOver_of_isLost (h : s.IsLost) : s.isOver = true := by
  rcases h with hcancelled | ⟨panic, hphase⟩
  · simp [isOver, hcancelled]
  · simp [isOver, Actor.hasEnded, hphase]

theorem isLost_step (hreach : Reachable config s) (hlost : s.IsLost)
    (h : Transition config s action s') : s'.IsLost := by
  have hidles := idles_of_isOver hreach (isOver_of_isLost hlost) h
  rcases hlost with hcancelled | ⟨panic, hphase⟩
  · exact .inl (cancelled_step h hcancelled)
  · exact .inr ⟨panic, hidles.phase.trans hphase⟩

theorem requestClosed_step (hclosed : s.requestClosed = true) (h : Transition config s action s') :
    s'.requestClosed = true := by
  unfold requestClosed at hclosed ⊢
  rcases Bool.or_eq_true_iff.1 hclosed with hcancelled | hclosed
  · rw [cancelled_step h hcancelled, Bool.true_or]
  · rcases actor_step h with heq | ⟨a, hstep, -⟩
    · rw [heq, hclosed, Bool.or_true]
    · rw [Actor.closed_step hclosed hstep, Bool.or_true]

theorem stopping_step {s s' : Actor ε} {a : Action ε} (hstopping : s.phase.isStopping = true)
    (h : Actor.Transition config s a s') : s'.phase.isStopping = true := by
  cases h with
  | _ => simp_all [Phase.isStopping]

theorem isStopping_step (hstopping : s.isStopping = true) (h : Transition config s action s') :
    s'.isStopping = true := by
  unfold isStopping at hstopping ⊢
  rcases Bool.or_eq_true_iff.1 hstopping with hcancelled | hstopping
  · rw [cancelled_step h hcancelled, Bool.true_or]
  · rcases actor_step h with heq | ⟨a, hstep, -⟩
    · rw [heq, hstopping, Bool.or_true]
    · rw [stopping_step hstopping hstep, Bool.or_true]

/-- The lifecycle leaves `Running` in the step that makes the task stop. -/
theorem stopping_of_lifecycle {s : Actor ε} (h : Actor.Reachable config s)
    (hlifecycle : s.lifecycle ≠ .starting ∧ s.lifecycle ≠ .running) :
    s.phase.isStopping = true := by
  refine h.induct (P := fun s => s.lifecycle ≠ .starting ∧ s.lifecycle ≠ .running →
    s.phase.isStopping = true) ?_ ?_ hlifecycle
  · intro now hlifecycle
    exact absurd rfl hlifecycle.1
  · intro s action s' hreach hs hst hlifecycle
    have hkeeps := fun hstopping => stopping_step hstopping hst
    cases hst with
    | initialized last hphase => exact absurd rfl hlifecycle.2
    | shutDown hphase | queryOverflowed query hphase hoverflow => rfl
    | finish hphase => rfl
    | _ => exact hkeeps (hs hlifecycle)

/-- The final lifecycle state is published in the step in which the task returns. -/
theorem returned_of_final {s : Actor ε} (h : Actor.Reachable config s)
    (hfinal : s.lifecycle = .stopped ∨ s.lifecycle = .faulted) : s.phase = .returned := by
  refine h.induct (P := fun s => s.lifecycle = .stopped ∨ s.lifecycle = .faulted →
    s.phase = .returned) ?_ ?_ hfinal
  · intro now hfinal
    simp [Actor.runActor] at hfinal
  · intro s action s' _ hs hst
    cases hst with
    | finish hphase => exact fun _ => rfl
    | initialized last hphase | shutDown hphase => simp
    | reserve | enqueue | cloneHandle | dropHandle | tick => exact hs
    | _ => simp_all [Actor.unwind]

/-- The channel is closed once the task is gone. -/
theorem requestClosed_of_isOver (h : Reachable config s) (hover : s.isOver = true) :
    s.requestClosed = true := by
  rcases Bool.or_eq_true_iff.1 hover with hcancelled | hended
  · rw [requestClosed, hcancelled, Bool.true_or]
  · have hslots := Actor.slots h.actor
    have hclosed : s.actor.requestRx.closed = true := by
      unfold Actor.hasEnded at hended
      unfold Actor.Slots at hslots
      split at hended <;> simp_all
    rw [requestClosed, hclosed, Bool.or_true]

/-- A held oneshot is not dropped while the task goes on. -/
theorem isLost_of_dropped (h : Reachable config s) {i : Nat} {request : Request} {reply : ReplyId}
    (hcall : s.calls[i]? = some ⟨request, .awaiting reply⟩) (hsent : s.actor.sentOn reply = none)
    (hdropped : s.cancelled = true ∨ reply ∉ s.actor.replySenders) : s.IsLost := by
  rcases hdropped with hcancelled | hnot
  · exact .inl hcancelled
  · by_contra hlost
    have hpanic : ∀ panic, s.actor.phase ≠ .panicked panic :=
      fun panic hphase => hlost (.inr ⟨panic, hphase⟩)
    have hissued := (issued h).lt i reply ⟨_, hcall, rfl⟩
    rw [Actor.replySenders_eq] at hnot
    have hanswered := (Actor.books h.actor hpanic).closed reply hissued hnot
    obtain ⟨value, hmem⟩ := hanswered.replied
    exact Actor.sentOn_eq_none_iff.1 hsent value (mem_story.1 hmem).1

theorem outcome_step (hreach : Reachable config s) {reply : Option ReplyId} {result : Reply}
    (hs : Outcome s reply result) (h : Transition config s action s') :
    Outcome s' reply result := by
  cases hs with
  | answered reply _ hmem => exact .answered reply result (events_step h hmem)
  | abandoned reply hlost hsilent =>
      have hidles := idles_of_isOver hreach (isOver_of_isLost hlost) h
      refine .abandoned reply (isLost_step hreach hlost h) ?_
      rw [hidles.events]
      exact hsilent
  | shuttingDown hstopping => exact .shuttingDown (isStopping_step hstopping h)
  | actorStopped hclosed => exact .actorStopped (requestClosed_step hclosed h)

/-- Every result comes from one of these places. -/
def Explained (s : Runtime ε) : Prop :=
  ∀ call ∈ s.calls, ∀ reply result, call.stage = .completed reply result → Outcome s reply result

/-- One call moves on. -/
theorem explained_set (hreach : Reachable config s) (hs : Explained s)
    (h : Transition config s action s') {i : Nat} {call : Call}
    (hcalls : s'.calls = s.calls.set i call)
    (hcall : ∀ reply result, call.stage = .completed reply result → Outcome s reply result) :
    Explained s' := by
  intro other hmem reply result hstage
  rw [hcalls] at hmem
  rcases List.mem_or_eq_of_mem_set hmem with hmem | rfl
  · exact outcome_step hreach (hs other hmem reply result hstage) h
  · exact outcome_step hreach (hcall reply result hstage) h

theorem explained_step (hreach : Reachable config s) (hs : Explained s)
    (h : Transition config s action s') : Explained s' := by
  have hst := h
  cases h with
  | call request hsenders =>
      intro other hmem reply result hstage
      rcases List.mem_append.1 hmem with hmem | hmem
      · exact outcome_step hreach (hs other hmem reply result hstage) hst
      · obtain rfl := List.mem_singleton.1 hmem
        cases hstage
  | admitted i request hcall hlifecycle =>
      exact explained_set hreach hs hst rfl (by simp)
  | turnedAway i request error hcall hlifecycle =>
      refine explained_set hreach hs hst rfl ?_
      rintro reply result ⟨⟩
      rcases hlifecycle with ⟨hshut, rfl⟩ | ⟨hfinal, rfl⟩
      · have hstopping := stopping_of_lifecycle hreach.actor (by simp [hshut])
        exact .shuttingDown (by rw [isStopping, hstopping, Bool.or_true])
      · have hover : s.isOver = true := by
          rw [isOver, Actor.hasEnded, returned_of_final hreach.actor hfinal, Bool.or_true]
        exact .actorStopped (requestClosed_of_isOver hreach hover)
  | unsent i request hcall hclosed =>
      refine explained_set hreach hs hst rfl ?_
      rintro reply result ⟨⟩
      exact .actorStopped hclosed
  | reserved | enqueued | late | stranded => exact explained_set hreach hs hst rfl (by simp)
  | answered i request reply value hcall hsent =>
      refine explained_set hreach hs hst rfl ?_
      rintro reply result ⟨⟩
      exact .answered _ _ (Actor.replied_of_sentOn hsent)
  | abandoned i request reply hcall hsent hdropped =>
      refine explained_set hreach hs hst rfl ?_
      rintro reply result ⟨⟩
      exact .abandoned _ (isLost_of_dropped hreach hcall hsent hdropped)
        (Actor.sentOn_eq_none_iff.1 hsent)
  | lost i request hcall hover =>
      refine explained_set hreach hs hst rfl ?_
      rintro reply result ⟨⟩
      exact .actorStopped (requestClosed_of_isOver hreach hover)
  | dropCall i call hcall hdrop => exact explained_set hreach hs hst rfl (by simp)
  | actor | recv | abort | cancel =>
      intro call hmem reply result hstage
      exact outcome_step hreach (hs call hmem reply result hstage) hst

theorem explained (h : Reachable config s) : Explained s := by
  refine h.induct (P := Explained) ?_ ?_
  · intro retained now _ _ call hmem
    cases hmem
  · intro s action s' hreach hs hst
    exact explained_step hreach hs hst

/-! ## Messages that come too late -/

theorem isOver_step (hreach : Reachable config s) (hover : s.isOver = true)
    (h : Transition config s action s') : s'.isOver = true := by
  have hidles := idles_of_isOver hreach hover h
  rcases Bool.or_eq_true_iff.1 hover with hcancelled | hended
  · rw [isOver, cancelled_step h hcancelled, Bool.true_or]
  · unfold Actor.hasEnded at hended
    rw [isOver, Actor.hasEnded, hidles.phase, hended, Bool.or_true]

/-- The task looks for messages until it does so for the last time. -/
theorem receives_step {s s' : Actor ε} {a : Action ε} (hlast : s.phase.receives = false)
    (h : Actor.Transition config s a s') : s'.phase.receives = false := by
  cases h with
  | _ => simp_all [Phase.receives]

/-- When messages came too late. -/
def Unheard (s : Runtime ε) : Prop :=
  ∀ call ∈ s.calls, (call.stage = .late → s.actor.phase.receives = false) ∧
    (call.stage = .stranded → s.isOver = true)

theorem unheard_step (hreach : Reachable config s) (hs : Unheard s)
    (h : Transition config s action s') : Unheard s' := by
  have hkeep : ∀ call ∈ s.calls, (call.stage = .late → s'.actor.phase.receives = false) ∧
      (call.stage = .stranded → s'.isOver = true) := by
    intro call hmem
    obtain ⟨hlate, hstranded⟩ := hs call hmem
    refine ⟨fun hstage => ?_, fun hstage => isOver_step hreach (hstranded hstage) h⟩
    rcases actor_step h with heq | ⟨a, hstep, -⟩
    · exact heq ▸ hlate hstage
    · exact receives_step (hlate hstage) hstep
  have hset : ∀ {i : Nat} {call : Call}, s'.calls = s.calls.set i call →
      (call.stage = .late → s'.actor.phase.receives = false) →
        (call.stage = .stranded → s'.isOver = true) → Unheard s' := by
    intro i call hcalls hlate hstranded other hmem
    rw [hcalls] at hmem
    rcases List.mem_or_eq_of_mem_set hmem with hmem | rfl
    · exact hkeep other hmem
    · exact ⟨hlate, hstranded⟩
  cases h with
  | call request hsenders =>
      intro call hmem
      rcases List.mem_append.1 hmem with hmem | hmem
      · exact hkeep call hmem
      · obtain rfl := List.mem_singleton.1 hmem
        simp
  | late i request hcall hlives hlast => exact hset rfl (fun _ => hlast) (by simp)
  | stranded i request hcall hover => exact hset rfl (by simp) (fun _ => hover)
  | admitted | turnedAway | unsent | reserved | enqueued | answered | abandoned | lost | dropCall =>
      exact hset rfl (by simp) (by simp)
  | actor | recv | abort | cancel => exact hkeep

theorem unheard (h : Reachable config s) : Unheard s := by
  refine h.induct (P := Unheard) ?_ ?_
  · intro retained now _ _ call hmem
    cases hmem
  · intro s action s' hreach hs hst
    exact unheard_step hreach hs hst

/-! ## Replies to calls -/

/-- A message in the record is determined by its oneshot. -/
theorem enqueued_unique {s : Actor ε} (h : Actor.Reachable config s) {message message' : Message}
    (hmem : .enqueued message ∈ s.events) (hmem' : .enqueued message' ∈ s.events)
    (hreply : message.reply = message'.reply) : message = message' := by
  exact List.inj_on_of_nodup_map (Actor.identities_nodup h) (Actor.mem_enqueuedMessages.2 hmem)
    (Actor.mem_enqueuedMessages.2 hmem') hreply

/-- A reply to a call answers the call's own message. -/
theorem gives_of_replied (h : Reachable config s) {call : Call} (hmem : call ∈ s.calls)
    {reply : ReplyId} (hreply : call.stage.reply = some reply) {value : Reply}
    (hsent : .replied reply value ∈ s.actor.events) :
    s.actor.Gives (call.request.message reply) value := by
  obtain ⟨message, rfl, henqueued, hgives⟩ := Actor.given h.actor reply value hsent
  have hown := (issued h).enqueued call hmem message.reply hreply
  rwa [enqueued_unique h.actor hown henqueued (Request.reply_message _ _)]

/-- **Every method returns what its documentation says**: its own kind of value, or one of the
    errors listed for it. -/
theorem results_documented (h : Reachable config s) {call : Call} (hmem : call ∈ s.calls)
    {reply : Option ReplyId} {result : Reply} (hstage : call.stage = .completed reply result) :
    call.request.documents result = true := by
  have hclosed := call.request.documents_closed
  cases explained h call hmem reply result hstage with
  | answered reply _ hsent =>
      have hreply : call.stage.reply = some reply := by rw [hstage]; rfl
      exact Request.documents_of_gives (gives_of_replied h hmem hreply hsent)
  | abandoned reply hlost hsilent => exact hclosed.2
  | shuttingDown hshut => exact hclosed.1
  | actorStopped hshut => exact hclosed.2

/-- A command, a shutdown behind it, and a query that comes too late. -/
def sessionRun : List (RuntimeAction Unit) :=
  [.actor (.callReturned (.ok ())), .actor (.callReturned (.ok ())),
    .actor (.callReturned (.ok ())), .actor .proceed, .call (.send Command.stopAutoMove),
    .sendMessage 0, .reserve 0, .sendReturned 0, .call .shutdown, .sendMessage 1, .reserve 1,
    .sendReturned 1, .actor .receive, .actor (.callReturned (.ok ())), .receiveReply 0,
    .actor .proceed, .actor .receive, .call .batteryStatus, .sendMessage 2, .actor .proceed,
    .actor .proceed, .reserve 2, .actor .proceed, .actor (.callReturned (.ok ())),
    .actor (.callReturned (.ok ())), .actor (.callReturned (.ok ())), .actor .proceed,
    .receiveReply 1]

theorem sessionRun_documented :
    ∃ s, runFrom ActorConfig.default 64 .zero sessionRun = some s ∧
      (⟨.batteryStatus, .completed none (.error .actorStopped)⟩ : Call) ∈ s.calls ∧
      Request.batteryStatus.documents (.error .actorStopped) = true := by
  have hrun : runFrom ActorConfig.default 64 .zero sessionRun = some _ := rfl
  have hreach := Reachable.of_runFrom (.allocating (2 ^ 64 - 1) 1024) (by decide) (by decide) hrun
  refine ⟨_, hrun, List.mem_of_getElem? (i := 2) rfl, ?_⟩
  exact results_documented hreach (List.mem_of_getElem? (i := 2) rfl) rfl

/-- The values sent on a oneshot are its one answer. -/
theorem repliesTo_of_replied {s : Actor ε} (h : Actor.Reachable config s) {reply : ReplyId}
    {value : Reply} (hmem : .replied reply value ∈ s.events) : s.repliesTo reply = [value] := by
  have hvalue : value ∈ s.repliesTo reply := by
    rw [Actor.repliesTo, Actor.extract_eq_filterMap]
    exact List.mem_filterMap.2 ⟨_, hmem, if_pos rfl⟩
  have habout : ∀ (e : Event ε) i, e.repliedId = some i → e.about = some i := by
    intro e i he
    cases e <;> simp_all [Event.repliedId, Event.about]
  have hlength : (s.repliesTo reply).length = 1 := by
    rw [Actor.length_repliesTo, Actor.repliedIds, count_filterMap_story habout]
    exact (Actor.answered_of_sent h hmem).count_repliedId
  obtain ⟨only, honly⟩ := List.length_eq_one_iff.1 hlength
  rw [honly] at hvalue ⊢
  rw [List.mem_singleton.1 hvalue]

theorem repliesTo_eq_nil {s : Actor ε} {reply : ReplyId}
    (h : ∀ value, .replied reply value ∉ s.events) : s.repliesTo reply = [] := by
  rw [Actor.repliesTo, Actor.extract_eq_filterMap, List.filterMap_eq_nil_iff]
  intro event hmem
  unfold Event.replyTo
  split
  · next reply' value =>
      split
      · next heq => exact absurd (heq ▸ hmem) (h value)
      · rfl
  · rfl

/-- What the calls of a run and the replies of the actor have to do with each other. -/
structure Accounted (s : Runtime ε) : Prop where
  /-- Each message the actor ever got is that of one call. -/
  issued : ∀ message, .enqueued message ∈ s.actor.events →
    ∃! i : Nat, ∃ call : Call, s.calls[i]? = some call ∧ call.stage.reply = some message.reply ∧
      call.request.message message.reply = message
  /-- A call whose message the task could receive returns the one value that was sent on its
      oneshot, or the task was lost and sent none. -/
  own : ∀ call ∈ s.calls, ∀ reply result, call.stage = .completed (some reply) result →
    s.actor.repliesTo reply = [result] ∨
      s.actor.repliesTo reply = [] ∧ s.IsLost ∧ result = .error .actorStopped
  /-- A call whose message the task could not receive returns `ShuttingDown` when that was
      published, or `ActorStopped` when the channel is closed. -/
  unheard : ∀ call ∈ s.calls, ∀ result, call.stage = .completed none result →
    result = .error .shuttingDown ∧ s.isStopping = true ∨
      result = .error .actorStopped ∧ s.requestClosed = true
  /-- A message that came too late is one the task did not look for any more, or one that found the
      task gone. -/
  late : ∀ call ∈ s.calls, (call.stage = .late → s.actor.phase.receives = false) ∧
    (call.stage = .stranded → s.isOver = true)

/-- What the result of a call tells about the transport. -/
structure Truthful (s : Runtime ε) (request : Request) (reply : Option ReplyId) (result : Reply) :
    Prop where
  /-- `send` returns `Ok` exactly if the write of its command returned `Ok`. -/
  sent : ∀ command, request = .send command →
    (result = .ok .done ↔ ∃ r ∈ reply, .returned (.writeCommand command)
      (some (.send command r)) (.ok ()) ∈ s.actor.events)
  /-- A status that a query returns was published as an event, too. -/
  battery : ∀ status, result = .ok (.batteryStatus status) →
    .published (.ok (.batteryStatus status)) ∈ s.actor.events
  pieces : ∀ status, result = .ok (.pieceStatus status) →
    .published (.ok (.pieceStatus status)) ∈ s.actor.events
  /-- Behind `TransportFailed` is the error that the task retains: that of the request's own write,
      or for `shutdown` the result of the task that has returned. -/
  transportFailed : result = .error .transportFailed →
    ∃ error, s.actor.result = .error (.transport error) ∧
      (request = .shutdown ∧ s.actor.phase = .returned ∨ ∃ r ∈ reply, ∃ command,
        .returned (.writeCommand command) (some (request.message r)) (.error error)
          ∈ s.actor.events)
  /-- A refused query and a rejected command were not written. -/
  unwritten : result = .error .queryQueueFull ∨
      (∃ command, request = .send command) ∧ result = .error .shuttingDown →
    ∀ r ∈ reply, ∀ call, .called call (some (request.message r)) ∉ s.actor.events

/-- A reply tells what it says. -/
theorem truthful_of_gives {s : Runtime ε} (hreach : Reachable config s) {request : Request}
    {reply : ReplyId} {value : Reply}
    (henqueued : .enqueued (request.message reply) ∈ s.actor.events)
    (hreplied : .replied reply value ∈ s.actor.events)
    (h : s.actor.Gives (request.message reply) value) :
    Truthful s request (some reply) value := by
  have hreply := Request.reply_message reply request
  have hanswered := Actor.answered_of_sent hreach.actor hreplied
  have hstory : ∀ {event : Event ε}, event.about = some reply → (event ∈ s.actor.events ↔
      event ∈ story Event.about reply s.actor.events) := by
    intro event habout
    rw [mem_story]
    exact ⟨fun hmem => ⟨hmem, habout⟩, And.left⟩
  have hin := (hstory (by rw [Event.about, hreply])).1 henqueued
  refine ⟨?_, ?_, ?_, ?_, ?_⟩
  · rintro command rfl
    have htruth : SendTruthful _ command reply := hanswered.sendTruthful hin
    constructor
    · rintro rfl
      refine ⟨reply, rfl, (hstory rfl).2 (htruth.1.1 ⟨_, (hstory rfl).1 hreplied⟩)⟩
    · rintro ⟨_, ⟨⟩, hwrite⟩
      obtain ⟨value', hvalue'⟩ := htruth.1.2 ((hstory rfl).1 hwrite)
      obtain rfl := hanswered.reply_unique ((hstory rfl).1 hreplied) hvalue'
      cases h
      rfl
  · rintro status rfl
    obtain ⟨query, event, hanswer, hpublished⟩ := h.published (by simp) (by simp)
    cases query <;> cases event <;> cases hanswer
    exact hpublished
  · rintro status rfl
    obtain ⟨query, event, hanswer, hpublished⟩ := h.published (by simp) (by simp)
    cases query <;> cases event <;> cases hanswer
    exact hpublished
  · rintro rfl
    obtain ⟨error, hresult, ⟨⟨r, hmessage⟩, hreturned⟩ | ⟨command, hwrite⟩⟩ := h.retained
    · refine ⟨error, hresult, .inl ⟨?_, hreturned⟩⟩
      cases request <;> cases hmessage
      rfl
    · exact ⟨error, hresult, .inr ⟨reply, rfl, command, hwrite⟩⟩
  · rintro hrefused _ ⟨⟩ call hcalled
    have habout : (Event.called call (some (request.message reply)) : Event ε).about
        = some reply := congrArg some hreply
    have hcalled := (hstory habout).1 hcalled
    rcases hrefused with rfl | ⟨⟨command, rfl⟩, rfl⟩
    · obtain ⟨query, hquery⟩ : ∃ query, request.message reply = .query query := by
        generalize request.message reply = message at h
        generalize hresult : (Except.error HandleError.queryQueueFull : Reply) = result at h
        cases h with
        | refused query => exact ⟨query, rfl⟩
        | shutDown =>
            unfold Actor.shutdownOutcome at hresult
            split at hresult <;> cases hresult
        | _ => cases hresult
      rw [hquery] at hin hcalled hreply
      obtain rfl : query.reply = reply := hreply
      exact (hanswered.queryTruthful hin).1 ((hstory rfl).1 hreplied) call hcalled
    · exact (hanswered.sendTruthful hin).2.2 ((hstory rfl).1 hreplied) call hcalled

/-- An answer that no actor gave tells nothing about the transport. -/
theorem truthful_of_unanswered {s : Runtime ε} (hreach : Reachable config s) {request : Request}
    {reply : Option ReplyId} {error : HandleError}
    (herror : error = .actorStopped ∨ error = .shuttingDown ∧ reply = none)
    (hsilent : ∀ r ∈ reply, ∀ value, .replied r value ∉ s.actor.events) :
    Truthful s request reply (.error error) := by
  refine ⟨?_, by simp, by simp, ?_, ?_⟩
  · rintro command -
    refine iff_of_false (by simp) ?_
    rintro ⟨r, hr, hwrite⟩
    obtain ⟨value, hvalue⟩ := Actor.replied_of_returned hreach.actor hwrite
    exact hsilent r hr value hvalue
  · intro hfailed
    simp_all
  · rintro hrefused r hr
    simp_all

end Results

end Runtime

end ChessnutMove.Tokio
