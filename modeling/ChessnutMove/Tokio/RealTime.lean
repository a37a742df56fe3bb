import ChessnutMove.Tokio.Calls

set_option autoImplicit false

/-! # Calls and the order of time

A call that has returned is over: the task does nothing for it any more. What the task does for a
call that is made only afterwards lies behind all of that. So whenever one caller waits for its
result before another one calls, the requests are handled in this order, on whatever handles the
calls are made and however the task, the clock and the other callers are interleaved. -/

namespace ChessnutMove.Tokio

variable {ε : Type}

/-! ## Complete stories -/

/-- A complete story ends with the reply. -/
theorem Answered.getLast?_eq {reply : ReplyId} {events : List (Event ε)}
    (h : Answered reply events) : ∃ value, events.getLast? = some (.replied reply value) := by
  cases h <;> exact ⟨_, rfl⟩

/-- Nothing is added to a complete story. -/
theorem Answered.eq_nil_of_append {reply : ReplyId} {events more : List (Event ε)}
    (h : Answered reply events) (hmore : Answered reply (events ++ more)) : more = [] := by
  by_contra hne
  obtain ⟨value, hlast⟩ := hmore.getLast?_eq
  rw [List.getLast?_append_of_ne_nil _ hne] at hlast
  have hreplied : reply ∈ more.filterMap Event.repliedId :=
    List.mem_filterMap.2 ⟨_, List.mem_of_getLast? hlast, rfl⟩
  have hcount := hmore.count_repliedId
  rw [List.filterMap_append, List.count_append, h.count_repliedId] at hcount
  have hpos := List.count_pos_iff.2 hreplied
  omega

namespace Actor

variable {config : ActorConfig} {s : Actor ε}

/-- The record speaks only of oneshots that were handed out. -/
theorem about_lt (h : Reachable config s) {event : Event ε} (hmem : event ∈ s.events)
    {reply : ReplyId} (habout : event.about = some reply) : reply < s.nextReply := by
  refine h.induct (P := fun s => ∀ event ∈ s.events, ∀ reply, event.about = some reply →
    reply < s.nextReply) ?_ ?_ event hmem reply habout
  · intro now event hmem reply habout
    obtain rfl | rfl : event = .lifecycle .starting ∨
        event = .called initializeTransport.first none := by
      simpa [events, runActor] using hmem
    · cases habout
    · cases habout
  · intro s action s' hreach hs hst event hmem reply habout
    by_cases hpanic : ∀ panic, s'.phase ≠ .panicked panic
    · by_contra hlt
      have hstory := mem_story.2 ⟨hmem, habout⟩
      rw [(books (hreach.next (step_of_transition hst)) hpanic).fresh reply
        (Nat.le_of_not_lt hlt)] at hstory
      cases hstory
    · by_cases hended : s.hasEnded = true
      · have hidles := idles_of_ended (slots hreach) hended hst
        rw [hidles.events] at hmem
        rw [hidles.nextReply]
        exact hs event hmem reply habout
      · -- the step that panics concerns a query that is in the record
        obtain ⟨panic, hpanic⟩ := not_forall_not.1 hpanic
        cases hst with
        | queryOverflowed query hphase hoverflow =>
            have hheld : (query.reply, writing (.query query) query.command) ∈ held s :=
              (held_writing (by rw [hphase]; rfl)).mem_iff.2 List.mem_cons_self
            have hquery : query.reply < s.nextReply :=
              hs (.enqueued (.query query))
                (mem_events_of_held (books hreach (by simp [hphase])) hheld List.mem_cons_self)
                query.reply rfl
            rw [events_record] at hmem
            rcases List.mem_append.1 hmem with hold | hnew
            · exact hs event hold reply habout
            · have hreply : reply = query.reply := by
                simp only [List.mem_cons, List.not_mem_nil, or_false] at hnew
                rcases hnew with rfl | rfl | rfl
                all_goals simp_all [Event.about, Message.reply]
              exact hreply ▸ hquery
        | _ => simp_all [hasEnded]

end Actor

namespace Runtime

variable {config : ActorConfig} {s s' : Runtime ε} {action : RuntimeAction ε}
  {schedule : List (RuntimeAction ε)}

/-! ## What stays as it is -/

/-- A call that has returned does not change any more. -/
theorem completed_step (h : Transition config s action s') {i : Nat} {call : Call}
    (hcall : s.calls[i]? = some call) (hover : call.stage.isLive = false) :
    s'.calls[i]? = some call := by
  have hset : ∀ (k : Nat) (old new : Call), s.calls[k]? = some old → old.stage.isLive = true →
      (s.calls.set k new)[i]? = some call := by
    intro k old new hold hlive
    rw [List.getElem?_set_ne, hcall]
    rintro rfl
    cases Option.some.inj (hcall.symm.trans hold)
    cases hover.symm.trans hlive
  cases h with
  | call request hsenders =>
      exact (List.getElem?_append_left (List.getElem?_eq_some_iff.1 hcall).1).trans hcall
  | admitted k request hold | turnedAway k request error hold | unsent k request hold
  | reserved k request actor hold | enqueued k request actor hold | late k request hold
  | stranded k request hold | answered k request reply value hold
  | abandoned k request reply hold | lost k request hold => exact hset k _ _ hold rfl
  | dropCall k old hold hdrop => exact hset k old _ hold (Bool.and_eq_true_iff.1 hdrop).1
  | actor | recv | abort | cancel => exact hcall

/-- The record only grows. -/
theorem events_append_step (h : Transition config s action s') :
    ∃ more, s'.actor.events = s.actor.events ++ more := by
  rcases actor_step h with heq | ⟨a, hstep, -⟩
  · exact ⟨[], by rw [heq, List.append_nil]⟩
  · obtain ⟨es, hlog⟩ := Actor.log_step hstep
    exact ⟨es.map Entry.event, by rw [Actor.events, hlog, List.map_append, Actor.events]⟩

/-- The calls at these indexes have oneshots from `next` on. -/
def Later (indexes : Nat → Prop) (next : ReplyId) (s : Runtime ε) : Prop :=
  next ≤ s.actor.nextReply ∧ ∀ k reply, indexes k → ReplyAt s.calls k reply → next ≤ reply

theorem later_step {indexes : Nat → Prop} {next : ReplyId} (hs : Later indexes next s)
    (h : Transition config s action s') : Later indexes next s' := by
  obtain ⟨hnext, hlater⟩ := hs
  cases h with
  | actor action actor hallows h =>
      exact ⟨hnext.trans (nextReply_step (ne_enqueue_of_allows hallows) h).ge, hlater⟩
  | call request hsenders =>
      exact ⟨hnext, fun k reply hk hreply => hlater k reply hk (replyAt_append.1 hreply)⟩
  | admitted i request hcall | turnedAway i request error hcall | unsent i request hcall
  | late i request hcall | stranded i request hcall | answered i request reply value hcall
  | abandoned i request reply hcall | lost i request hcall | dropCall i call hcall =>
      refine ⟨hnext, fun k reply hk hreply => hlater k reply hk ?_⟩
      refine (replyAt_set_same hcall ?_).1 hreply
      rfl
  | reserved i request actor hcall hopen h =>
      obtain ⟨hreserve, rfl⟩ := reserve_eq h
      refine ⟨hnext, fun k reply hk hreply => hlater k reply hk ?_⟩
      refine (replyAt_set_same hcall ?_).1 hreply
      rfl
  | enqueued i request actor hcall hlives h =>
      have hissued : actor.nextReply = s.actor.nextReply + 1 := by
        cases h with
        | enqueue request hreceives hpush => rfl
      refine ⟨hnext.trans (hissued ▸ Nat.le_succ _), fun k reply hk hreply => ?_⟩
      have hreply := (replyAt_set hcall).1 hreply
      split at hreply
      · exact Option.some.inj hreply ▸ hnext
      · exact hlater k reply hk hreply
  | recv | abort | cancel => exact ⟨hnext, hlater⟩

theorem idles_run_of_isLost (h : Reachable config s) (hlost : s.IsLost)
    (hrun : StepMachine.run (step config) s schedule = some s') :
    Actor.Idles s.actor s'.actor := by
  have hall : Reachable config s' ∧ s'.IsLost ∧ Actor.Idles s.actor s'.actor := by
    refine StepMachine.run_preserves (P := fun t => Reachable config t ∧ t.IsLost ∧
      Actor.Idles s.actor t.actor) ?_ ⟨h, hlost, .refl s.actor⟩ hrun
    rintro t a t' ⟨ht, htlost, hidles⟩ hst
    have htrans := transition_of_step hst
    exact ⟨ht.next hst, isLost_step ht htlost htrans,
      hidles.trans (idles_of_isOver ht (isOver_of_isLost htlost) htrans)⟩
  exact hall.2.2

/-- A call that has returned and its oneshot: no value is sent on it any more. -/
theorem silent_of_completed (h : Reachable config s)
    (hrun : StepMachine.run (step config) s schedule = some s') {call : Call}
    (hmem : call ∈ s.calls) {reply : Option ReplyId} {result : Reply}
    (hstage : call.stage = .completed reply result) {more : List (Event ε)}
    (hmore : s'.actor.events = s.actor.events ++ more) :
    ∀ r ∈ reply, ∀ event ∈ more, event.about ≠ some r := by
  have hreach' : Reachable config s' := StepMachine.Reachable.ofRun h hrun
  cases explained h call hmem reply result hstage with
  | answered r value hreplied =>
      rintro _ ⟨⟩ event hevent habout
      have hold := Actor.answered_of_sent h.actor hreplied
      have hnew := Actor.answered_of_sent hreach'.actor
        (hmore ▸ List.mem_append_left more hreplied)
      rw [hmore, story_append] at hnew
      have hstory := mem_story.2 ⟨hevent, habout⟩
      rw [hold.eq_nil_of_append hnew] at hstory
      cases hstory
  | abandoned r hlost hsilent =>
      have hevents := (idles_run_of_isLost h hlost hrun).events
      rw [hmore, List.append_right_eq_self] at hevents
      subst hevents
      rintro r - event ⟨⟩
  | shuttingDown hclosed | actorStopped hclosed => rintro r ⟨⟩

/-! ## The order of time -/

/-- What becomes of the call at an index, from a state in which it has returned to a later one. -/
structure IsPast (s s' : Runtime ε) (i : Nat) (call : Call) : Prop where
  /-- It stays what it is. -/
  kept : s'.calls[i]? = some call
  /-- The record up to `s` has everything that concerns it, and nothing that concerns a call made
      after `s`. -/
  ordered : ∃ more, s'.actor.events = s.actor.events ++ more ∧
    (∀ r ∈ call.stage.reply, ∀ event ∈ more, event.about ≠ some r) ∧
    ∀ (k : Nat) (later : Call), s.calls.length ≤ k → s'.calls[k]? = some later →
      ∀ r ∈ later.stage.reply, ∀ event ∈ s.actor.events, event.about ≠ some r

/-- **Requests are handled in the order of time**: everything the task does for a call that has
    returned comes before anything it does for a call made afterwards. -/
theorem returns_before_later_calls (h : Reachable config s)
    (hrun : StepMachine.run (step config) s schedule = some s') {i : Nat} {call : Call}
    (hcall : s.calls[i]? = some call) {reply : Option ReplyId} {result : Reply}
    (hstage : call.stage = .completed reply result) : IsPast s s' i call := by
  have hall : s'.calls[i]? = some call ∧ (∃ more, s'.actor.events = s.actor.events ++ more) ∧
      Later (s.calls.length ≤ ·) s.actor.nextReply s' := by
    refine StepMachine.run_preserves (P := fun t => t.calls[i]? = some call ∧
      (∃ more, t.actor.events = s.actor.events ++ more) ∧
      Later (s.calls.length ≤ ·) s.actor.nextReply t) ?_ ?_ hrun
    · rintro t a t' ⟨hkept, ⟨more, hmore⟩, hlater⟩ hst
      have htrans := transition_of_step hst
      obtain ⟨es, hes⟩ := events_append_step htrans
      exact ⟨completed_step htrans hkept (by rw [hstage]; rfl),
        ⟨more ++ es, by rw [hes, hmore, List.append_assoc]⟩, later_step hlater htrans⟩
    · refine ⟨hcall, ⟨[], (List.append_nil _).symm⟩, Nat.le_refl _, ?_⟩
      rintro k reply hk ⟨later, hlater, -⟩
      rw [List.getElem?_eq_none hk] at hlater
      cases hlater
  obtain ⟨hkept, ⟨more, hmore⟩, -, hlater⟩ := hall
  refine ⟨hkept, more, hmore, ?_, ?_⟩
  · rw [hstage]
    exact silent_of_completed h hrun (List.mem_of_getElem? hcall) hstage hmore
  · intro k later hk hlaterCall r hr event hevent habout
    have hissued := hlater k r hk ⟨later, hlaterCall, hr⟩
    exact absurd (Actor.about_lt h.actor hevent habout) (Nat.not_lt.2 hissued)

/-- The first command of the session has returned before the query is called. -/
theorem sessionRun_returns_before_later_calls :
    ∃ s s', runFrom ActorConfig.default 64 .zero (sessionRun.take 15) = some s ∧
      StepMachine.run (step ActorConfig.default) s (sessionRun.drop 15) = some s' ∧
      IsPast s s' 0 ⟨.send Command.stopAutoMove, .completed (some 0) (.ok .done)⟩ := by
  have hrun : runFrom ActorConfig.default 64 .zero (sessionRun.take 15) = some _ := rfl
  have hreach := Reachable.of_runFrom (.allocating (2 ^ 64 - 1) 1024) (by decide) (by decide) hrun
  refine ⟨_, _, hrun, rfl, ?_⟩
  exact returns_before_later_calls hreach
    (show StepMachine.run _ _ (sessionRun.drop 15) = _ from rfl) rfl rfl

end Runtime

end ChessnutMove.Tokio
