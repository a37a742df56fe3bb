import ChessnutMove.Tokio.Progress

set_option autoImplicit false

/-! # A shutdown terminates

Once the task has left its main loop, a bounded number of its steps is left, whatever the callers
do: one round for each request that can still wait or come, the calls of the cleanup, and the final
state.
It takes them without waiting for anything but its transport. -/

namespace ChessnutMove.Tokio

variable {ε : Type}

/-- The step is one of the task's own. -/
def Action.isTask : Action ε → Bool
  | .proceed | .callReturned _ | .receive | .notification _ | .deadlineElapsed => true
  | .reserve | .enqueue _ | .cloneHandle | .dropHandle | .tick _ => false

/-- The step is one of the task's own. -/
def RuntimeAction.isTask : RuntimeAction ε → Bool
  | .actor action => action.isTask
  | _ => false

/-- The task has left its main loop, or its startup has failed. -/
def Phase.hasLeft : Phase → Bool
  | .leaving | .closing | .rejecting | .cleaningUp _ | .finishing | .returned => true
  | .initializing _ | .loopTop | .startingQuery _ | .selecting | .sending _ _ | .panicked _ => false

namespace Actor

/-- The requests that wait for their rejection, or can still come in a place given before. -/
def waiting (s : Actor ε) : Nat :=
  s.pendingQuery.toList.length + s.queuedQueries.length +
    (s.requestRx.queue.length + s.requestRx.reserved)

/-- How many steps of a shutdown are left at most. -/
def stepsLeft (config : ActorConfig) (s : Actor ε) : Nat :=
  match s.phase with
  -- the channel can still fill up
  | .leaving => config.commandCapacity + config.queryCapacity + 8
  | .closing => config.commandCapacity + config.queryCapacity + 7
  | .rejecting => s.waiting + 5
  | .cleaningUp calls => calls.toList.length + 1
  | .finishing => 1
  | _ => 0

section Step

variable {config : ActorConfig} {s s' : Actor ε} {action : Action ε}

theorem waiting_le (h : Reachable config s) :
    s.waiting ≤ 1 + config.queryCapacity + config.commandCapacity := by
  have hqueued := queue_bound h
  have hqueue := Runtime.capacity_eq h ▸ s.requestRx.bound
  have hpending : s.pendingQuery.toList.length ≤ 1 := by cases s.pendingQuery <;> simp
  unfold waiting
  omega

theorem stepsLeft_le (h : Reachable config s) (hleft : s.phase.hasLeft = true) :
    s.stepsLeft config ≤ config.commandCapacity + config.queryCapacity + 8 := by
  have hwaiting := waiting_le h
  unfold stepsLeft
  cases hphase : s.phase with
  | cleaningUp calls =>
      have hs := shape h
      simp only [Shape, hphase] at hs
      obtain ⟨left, first, -, hcalls, -⟩ := hs
      have hlength := congrArg List.length hcalls
      simp only [shutdownTransport, Calls.toList, List.length_append, List.length_cons,
        List.length_nil] at hlength ⊢
      omega
  | _ => simp_all [Phase.hasLeft] <;> omega

/-- One request less waits. -/
theorem stepsLeft_reject (hphase : s.phase = .rejecting) (hphase' : s'.phase = .rejecting)
    (hless : s'.waiting + 1 = s.waiting) : s'.phase.hasLeft = true ∧
      s'.stepsLeft config + 1 ≤ s.stepsLeft config := by
  refine ⟨by rw [hphase']; rfl, ?_⟩
  simp only [stepsLeft, hphase, hphase']
  omega

/-- A place is used, and a message waits instead. -/
theorem waiting_enqueue (request : Request) (hpush : s.requestRx.CanPush) :
    waiting ({ s with
      requestRx := s.requestRx.push (request.message s.nextReply) hpush
      nextReply := s.nextReply + 1 }.record [.enqueued (request.message s.nextReply)])
        = s.waiting := by
  have hreserved := hpush.2
  simp only [waiting, pendingQuery_record, queuedQueries_record, requestRx_record,
    BoundedChannel.queue_push, BoundedChannel.reserved_push, List.length_append,
    List.length_singleton]
  omega

/-- Every step of the task leaves one less. -/
theorem stepsLeft_step (hreach : Reachable config s) (hleft : s.phase.hasLeft = true)
    (h : Transition config s action s') : s'.phase.hasLeft = true ∧
      s'.stepsLeft config + (if action.isTask then 1 else 0) ≤ s.stepsLeft config := by
  have hslots := slots hreach
  have hwaiting := waiting_le hreach
  unfold Slots at hslots
  cases h with
  | enqueue request hreceives hpush =>
      refine ⟨hleft, Nat.le_of_eq ?_⟩
      have hsame := waiting_enqueue request hpush
      cases hphase : s.phase with
      | rejecting =>
          have hsteps : s.stepsLeft config = s.waiting + 5 := by simp only [stepsLeft, hphase]
          rw [hsteps, ← hsame]
          simp only [stepsLeft, phase_record, hphase, Action.isTask]
          rfl
      | _ => simp_all [stepsLeft, Action.isTask]
  | reserve hreserve =>
      refine ⟨hleft, ?_⟩
      have hopen := hreserve.1
      cases hphase : s.phase <;> simp_all [stepsLeft, Action.isTask]
  | cloneHandle | dropHandle | tick =>
      refine ⟨hleft, ?_⟩
      cases hphase : s.phase <;> simp_all [stepsLeft, Action.isTask, waiting]
  | shutDown hphase =>
      refine ⟨rfl, ?_⟩
      simp only [stepsLeft, hphase, phase_record, Action.isTask, if_true, Nat.le_refl]
  | closeRequests hphase =>
      refine ⟨rfl, ?_⟩
      have hafter : stepsLeft config s = config.commandCapacity + config.queryCapacity + 7 := by
        simp only [stepsLeft, hphase]
      rw [hafter]
      show s.waiting + 5 + 1 ≤ _
      omega
  | rejectActive query hphase hpending =>
      refine stepsLeft_reject hphase hphase ?_
      show 0 + s.queuedQueries.length + (s.requestRx.queue.length + s.requestRx.reserved) + 1
        = s.waiting
      rw [waiting, hpending, Option.toList_some, List.length_singleton]
      omega
  | rejectQueued query rest hphase hpending hqueued =>
      refine stepsLeft_reject hphase hphase ?_
      show s.pendingQuery.toList.length + rest.length +
        (s.requestRx.queue.length + s.requestRx.reserved) + 1 = s.waiting
      rw [waiting, hqueued, List.length_cons]
      omega
  | rejectMessage message rest hphase hpending hqueued hqueue =>
      refine stepsLeft_reject hphase hphase ?_
      show s.pendingQuery.toList.length + s.queuedQueries.length +
        (s.requestRx.queue.tail.length + s.requestRx.reserved) + 1 = s.waiting
      rw [waiting, hqueue, List.tail_cons, List.length_cons]
      omega
  | startCleanup | cleanupFailed | cleanupNext | cleanedUp | finish =>
      simp_all [stepsLeft, Phase.hasLeft, Action.isTask, waiting, Calls.toList, shutdownTransport]
  | _ => simp_all [Phase.hasLeft]

end Step

end Actor

namespace Runtime

section Step

variable {config : ActorConfig} {s s' : Runtime ε} {action : RuntimeAction ε}
  {schedule : List (RuntimeAction ε)}

theorem hasLeft_step (hreach : Reachable config s) (hleft : s.actor.phase.hasLeft = true)
    (h : Transition config s action s') : s'.actor.phase.hasLeft = true ∧
      s'.actor.stepsLeft config + (if action.isTask then 1 else 0)
        ≤ s.actor.stepsLeft config := by
  cases h with
  | actor a actor hallows h => exact Actor.stepsLeft_step hreach.actor hleft h
  | reserved i request actor hcall hopen h => exact Actor.stepsLeft_step hreach.actor hleft h
  | enqueued i request actor hcall hlives h => exact Actor.stepsLeft_step hreach.actor hleft h
  | _ => exact ⟨hleft, Nat.le_refl _⟩

/-- The task goes on by itself, or it awaits a call of the cleanup. -/
theorem winds_up (h : Reachable config s) (hleft : s.actor.phase.hasLeft = true)
    (hover : s.isOver = false) : Enabled config s (.actor .proceed) ∨
      ∃ call, s.actor.awaited = some call ∧ call ∈ shutdownTransport.toList ∧
        ∀ result, Enabled config s (.actor (.callReturned result)) := by
  obtain ⟨hcancelled, hended⟩ := Bool.or_eq_false_iff.1 hover
  cases hphase : s.actor.phase with
  | leaving | closing | rejecting | finishing =>
      refine .inl (enabled_actor (by simp [allows, hcancelled]) ?_)
      simp only [Actor.step, Actor.proceed, hphase]
      exact ⟨_, rfl⟩
  | cleaningUp calls =>
      have hawaited : s.actor.awaited = some calls.first := by simp only [Actor.awaited, hphase]
      have hshape := Actor.shape h.actor
      simp only [Actor.Shape, hphase] at hshape
      obtain ⟨left, first, -, hcalls, -⟩ := hshape
      refine .inr ⟨calls.first, hawaited, ?_, fun result => ?_⟩
      · rw [hcalls]
        exact List.mem_append_right first List.mem_cons_self
      · exact enabled_actor (by simp [allows, hcancelled]) (exists_callReturned hawaited result)
  | returned => simp [Actor.hasEnded, hphase] at hended
  | _ => simp [hphase, Phase.hasLeft] at hleft

/-- The steps of a task whose transport answers. -/
def Answers (answer : TransportCall → Except ε Unit) (s : Runtime ε) (action : RuntimeAction ε) :
    Prop :=
  action = .actor .proceed ∨
    ∃ call, s.actor.awaited = some call ∧ action = .actor (.callReturned (answer call))

/-- How a task that has left its main loop goes on. -/
structure WindsUp (config : ActorConfig) (s : Runtime ε) : Prop where
  /-- In every run it takes this many steps at most, whatever the callers do. -/
  bounded : ∀ schedule s', StepMachine.run (step config) s schedule = some s' →
    schedule.countP RuntimeAction.isTask ≤ config.commandCapacity + config.queryCapacity + 8
  /-- It waits for nothing but a call of the cleanup. -/
  moves : ∀ schedule s', StepMachine.run (step config) s schedule = some s' →
    s'.isOver = true ∨ Enabled config s' (.actor .proceed) ∨
      ∃ call, s'.actor.awaited = some call ∧ call ∈ shutdownTransport.toList ∧
        ∀ result, Enabled config s' (.actor (.callReturned result))
  /-- Unless it is aborted, it returns once the transport has answered, whatever it answers. -/
  returns : s.cancelled = false → ∀ answer : TransportCall → Except ε Unit, ∃ schedule s',
    StepMachine.run (step config) s schedule = some s' ∧
      StepMachine.Along (step config) (Answers answer) s schedule ∧ s'.actor.phase = .returned

/-- **A shutdown terminates**, whatever is sent meanwhile and whatever the transport answers. -/
theorem shutdown_terminates (h : Reachable config s) (hleft : s.actor.phase.hasLeft = true) :
    WindsUp config s := by
  have hrun : ∀ schedule s', StepMachine.run (step config) s schedule = some s' →
      (Reachable config s' ∧ s'.actor.phase.hasLeft = true) ∧
        s'.actor.stepsLeft config + schedule.countP RuntimeAction.isTask
          ≤ s.actor.stepsLeft config := by
    intro schedule s' hrun
    refine StepMachine.run_variant (V := fun t : Runtime ε => t.actor.stepsLeft config)
      (P := fun t => Reachable config t ∧ t.actor.phase.hasLeft = true) ?_ ⟨h, hleft⟩ hrun
    rintro t a t' ⟨ht, htleft⟩ hst
    obtain ⟨htleft', hvariant⟩ := hasLeft_step ht htleft (transition_of_step hst)
    exact ⟨⟨ht.next hst, htleft'⟩, hvariant⟩
  refine ⟨?_, ?_, ?_⟩
  · intro schedule s' hschedule
    have hcount := (hrun schedule s' hschedule).2
    have hbound := Actor.stepsLeft_le h.actor hleft
    omega
  · intro schedule s' hschedule
    obtain ⟨hreach', hleft'⟩ := (hrun schedule s' hschedule).1
    cases hover : s'.isOver with
    | true => exact .inl rfl
    | false => exact .inr (winds_up hreach' hleft' hover)
  · intro hcancelled answer
    refine StepMachine.exists_run_to_done
      (P := fun t => Reachable config t ∧ t.actor.phase.hasLeft = true ∧ t.cancelled = false)
      (V := fun t : Runtime ε => t.actor.stepsLeft config) ?_ ⟨h, hleft, hcancelled⟩
    rintro t ⟨ht, htleft, htcancelled⟩ hnot
    have hover : t.isOver = false := by
      rw [isOver, htcancelled, Bool.false_or]
      unfold Actor.hasEnded
      cases hphase : t.actor.phase <;> simp_all [Phase.hasLeft]
    have hmoves : ∃ a : Action ε, Answers answer t (.actor a) ∧ a.isTask = true ∧
        Enabled config t (.actor a) := by
      rcases winds_up ht htleft hover with hproceed | ⟨call, hawaited, -, hreturned⟩
      · exact ⟨.proceed, .inl rfl, rfl, hproceed⟩
      · exact ⟨.callReturned (answer call), .inr ⟨call, hawaited, rfl⟩, rfl, hreturned _⟩
    obtain ⟨a, hallowed, htask, t', hst⟩ := hmoves
    have htrans := transition_of_step hst
    obtain ⟨htleft', hvariant⟩ := hasLeft_step ht htleft htrans
    refine ⟨.actor a, t', hallowed, hst, ⟨ht.next hst, htleft', ?_⟩, ?_⟩
    · cases htrans with
      | actor => exact htcancelled
    · rw [RuntimeAction.isTask, htask, if_pos rfl] at hvariant
      exact hvariant

/-- A transport call has failed while a command waits in the channel. -/
def failingRun : List (RuntimeAction Unit) :=
  [.actor (.callReturned (.ok ())), .call (.send Command.stopAutoMove), .sendMessage 0,
    .reserve 0, .sendReturned 0, .actor (.callReturned (.error ()))]

theorem failingRun_winds_up :
    ∃ s, runFrom ActorConfig.default 64 .zero failingRun = some s ∧
      s.calls[0]? = some ⟨.send Command.stopAutoMove, .awaiting 0⟩ ∧
      WindsUp ActorConfig.default s := by
  have hrun : runFrom ActorConfig.default 64 .zero failingRun = some _ := rfl
  have hreach := Reachable.of_runFrom (.allocating (2 ^ 64 - 1) 1024) (by decide) (by decide) hrun
  exact ⟨_, hrun, rfl, shutdown_terminates hreach rfl⟩

end Step

end Runtime

end ChessnutMove.Tokio
