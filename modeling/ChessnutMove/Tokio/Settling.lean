import ChessnutMove.Tokio.Termination

set_option autoImplicit false

/-! # The task never spins, and left alone it settles

Each message that is accepted and each notification that arrives gives the task a bounded amount of
work, and beyond it the task takes only a bounded number of steps on its own account: it cannot be
caught in its main loop. So if nobody makes a new call and the board falls silent, only finitely
many steps are left, in whatever order they come, and when they are done every call has returned,
those whose query the board never answered among them, or is stranded in the channel of a task that
is gone. -/

namespace ChessnutMove.Tokio

variable {ε : Type}

/-- The step is one the task takes on its own account: no notification has arrived. -/
def Action.isBusy : Action ε → Bool
  | .proceed | .callReturned _ | .receive | .deadlineElapsed => true
  | .reserve | .enqueue _ | .cloneHandle | .dropHandle | .tick _ | .notification _ => false

/-- The step is one the task takes on its own account. -/
def RuntimeAction.isBusy : RuntimeAction ε → Bool
  | .actor action => action.isBusy
  | _ => false

/-- The work the step gives the task. -/
def Action.demand : Action ε → Nat
  | .enqueue _ => 6
  | .notification _ => 1
  | _ => 0

/-- The work the step gives the task. -/
def RuntimeAction.demand : RuntimeAction ε → Nat
  | .actor action => action.demand
  | .sendReturned _ => 6
  | _ => 0

namespace Actor

/-! ## The work that is left -/

/-- What the waiting requests cost in the main loop, and the shutdown after it. -/
def backlog (config : ActorConfig) (s : Actor ε) : Nat :=
  6 * s.requestRx.queue.length + 4 * s.queuedQueries.length + 2 * s.pendingQuery.toList.length +
    (config.commandCapacity + config.queryCapacity + 9)

/-- How many steps the task can take at most before it has to be given more work. -/
def work (config : ActorConfig) (s : Actor ε) : Nat :=
  match s.phase with
  | .initializing calls => s.backlog config + (calls.toList.length + 1)
  | .loopTop => s.backlog config + 1
  | .startingQuery _ => s.backlog config + 4
  | .selecting => s.backlog config
  | .sending _ _ => s.backlog config + 2
  | _ => s.stepsLeft config

section Step

variable {config : ActorConfig} {s s' : Actor ε} {action : Action ε}

theorem work_record (s : Actor ε) (es : List (Event ε)) :
    (s.record es).work config = s.work config := rfl

theorem work_of_hasLeft (hleft : s.phase.hasLeft = true) :
    s.work config = s.stepsLeft config := by
  unfold work
  cases hphase : s.phase <;> simp_all [Phase.hasLeft]

theorem work_of_leaving (hphase : s.phase = .leaving) :
    s.work config = config.commandCapacity + config.queryCapacity + 8 := by
  simp only [work, stepsLeft, hphase]

theorem work_of_panicked {panic : Panic} (hphase : s.phase = .panicked panic) :
    s.work config = 0 := by
  simp only [work, stepsLeft, hphase]

/-- Leaving the main loop is paid for. -/
theorem le_backlog (config : ActorConfig) (s : Actor ε) :
    config.commandCapacity + config.queryCapacity + 9 ≤ s.backlog config :=
  Nat.le_add_left _ _

theorem work_le (h : Reachable config s) :
    s.work config ≤ 7 * config.commandCapacity + 5 * config.queryCapacity + 13 := by
  have hqueued := queue_bound h
  have hqueue := Runtime.capacity_eq h ▸ s.requestRx.bound
  have hpending : s.pendingQuery.toList.length ≤ 1 := by cases s.pendingQuery <;> simp
  have hslots := slots h
  have hshape := shape h
  unfold Slots at hslots
  unfold Shape at hshape
  by_cases hleft : s.phase.hasLeft = true
  · have hsteps := stepsLeft_le h hleft
    rw [work_of_hasLeft hleft]
    omega
  · unfold work backlog
    cases hphase : s.phase with
    | initializing calls =>
        simp only [hphase] at hslots hshape
        obtain ⟨first, -, hcalls, -⟩ := hshape
        have hlength := congrArg List.length hcalls
        rw [List.length_append] at hlength
        have hcalls : initializeTransport.toList.length = 3 := rfl
        have hnone : s.pendingQuery.toList.length = 0 := by rw [hslots.1]; rfl
        dsimp only
        omega
    | startingQuery query =>
        simp only [hphase] at hslots
        have hnone : s.pendingQuery.toList.length = 0 := by rw [hslots.1]; rfl
        dsimp only
        omega
    | loopTop | selecting | sending =>
        dsimp only
        omega
    | panicked panic => simp only [stepsLeft, hphase, Nat.zero_le]
    | _ => exact absurd (by rw [hphase]; rfl) hleft

/-- The work of a shutdown pays for its steps. -/
theorem work_step_of_hasLeft (hreach : Reachable config s) (hleft : s.phase.hasLeft = true)
    (h : Transition config s action s') :
    s'.work config + (if action.isBusy then 1 else 0) ≤ s.work config + action.demand := by
  obtain ⟨hleft', hsteps⟩ := stepsLeft_step hreach hleft h
  rw [work_of_hasLeft hleft, work_of_hasLeft hleft']
  cases action <;>
    simp only [Action.isTask, Action.isBusy, Action.demand, Bool.false_eq_true, if_false,
      if_true] at hsteps ⊢ <;> omega

/-- What is accepted adds to the work, whatever the task does at the moment. -/
theorem work_enqueue (request : Request) (hleft : s.phase.hasLeft ≠ true)
    (hpush : s.requestRx.CanPush) :
    work config ({ s with
      requestRx := s.requestRx.push (request.message s.nextReply) hpush
      nextReply := s.nextReply + 1 }.record [.enqueued (request.message s.nextReply)])
        ≤ s.work config + 6 := by
  have hlength : (s.requestRx.push (request.message s.nextReply) hpush).queue.length
      = s.requestRx.queue.length + 1 := by simp
  cases hphase : s.phase with
  | initializing | loopTop | startingQuery | selecting | sending =>
      rw [work_record]
      simp only [work, backlog, hphase, hlength]
      omega
  | panicked panic =>
      rw [work_record, work_of_panicked hphase]
      exact Nat.zero_le _
  | _ => exact absurd (by rw [hphase]; rfl) hleft

/-- **The work pays for the steps.** Every step the task takes on its own account uses up some of
    its work, and only messages and notifications add to it. -/
theorem work_step (hreach : Reachable config s) (h : Transition config s action s') :
    s'.work config + (if action.isBusy then 1 else 0) ≤ s.work config + action.demand := by
  by_cases hleft : s.phase.hasLeft = true
  · exact work_step_of_hasLeft hreach hleft h
  have hexit := le_backlog config s
  have hslots := slots hreach
  cases h with
  | enqueue request hreceives hpush => exact work_enqueue request hleft hpush
  | reserve | cloneHandle | dropHandle | tick =>
      cases hphase : s.phase with
      | initializing | loopTop | startingQuery | selecting | sending | panicked =>
          simp only [work, backlog, stepsLeft, hphase]
          exact Nat.le_refl _
      | _ => exact absurd (by rw [hphase]; rfl) hleft
  | initializeFailed calls error hphase | queryFailed query error hphase
  | sendFailed command reply error hphase | receiveShutdown reply waiting hphase
  | handlesDropped hphase | notificationFailed error hphase =>
      -- a bounded number of steps is left
      rw [work_of_leaving rfl]
      simp only [work, hphase, Action.isBusy, Action.demand, Bool.false_eq_true, if_false, if_true]
      omega
  | queryOverflowed query hphase =>
      rw [work_of_panicked rfl]
      simp only [work, hphase, Action.isBusy, if_true]
      omega
  | shutDown hphase | closeRequests hphase | rejectActive query hphase
  | rejectQueued query rest hphase | rejectMessage message waiting hphase | startCleanup hphase
  | cleanupFailed calls error hphase | cleanupNext first next rest hphase | cleanedUp last hphase
  | finish hphase =>
      exact absurd (by rw [hphase]; rfl) hleft
  -- in the main loop the phases and the places where a request waits have their prices
  | initializeNext first next rest hphase | initialized last hphase =>
      rw [work_record]
      simp only [work, backlog, hphase, Calls.toList, List.length_nil, List.length_cons,
        Action.isBusy, Action.demand, if_true]
      omega
  | startQueued query rest hphase hpending hqueued =>
      rw [work_record]
      simp only [work, backlog, hphase, hqueued, List.length_cons, Action.isBusy, Action.demand,
        if_true]
      omega
  | select hphase hready =>
      rw [work_record]
      simp only [work, backlog, hphase, Action.isBusy, Action.demand, if_true]
      omega
  | queryStarted query deadline hphase =>
      simp only [Slots, hphase] at hslots
      rw [work_record]
      simp only [work, backlog, hphase, hslots.1, Option.toList_none, Option.toList_some,
        List.length_nil, List.length_cons, Action.isBusy, Action.demand, if_true]
      omega
  | sent command reply hphase =>
      rw [work_record]
      simp only [work, backlog, hphase, Action.isBusy, Action.demand, if_true]
      omega
  | receiveSend command reply waiting hphase hqueue
  | receiveFirstQuery query waiting hphase hqueue hpending hqueued
  | receiveQueued query waiting hphase hqueue hbusy hroom
  | receiveRefused query waiting hphase hqueue hbusy hfull
  | receiveSubscribe reply waiting hphase hqueue =>
      rw [work_record]
      simp only [work, backlog, hphase, hqueue, BoundedChannel.queue_pop, List.tail_cons,
        List.length_append, List.length_nil, List.length_cons, Action.isBusy, Action.demand,
        if_true]
      omega
  | resolved notification query value event hphase hpending =>
      rw [work_record]
      simp only [work, backlog, hphase, hpending, Option.toList_some, List.length_nil,
        List.length_cons, Option.toList_none, Action.isBusy, Action.demand, if_false,
        Bool.false_eq_true]
      omega
  | observed notification hphase =>
      rw [work_record]
      simp only [work, backlog, hphase, Action.isBusy, Action.demand, if_false, Bool.false_eq_true]
      omega
  | timedOut query hphase hpending =>
      rw [work_record]
      simp only [work, backlog, hphase, hpending, Option.toList_some, List.length_nil,
        List.length_cons, Option.toList_none, Action.isBusy, Action.demand, if_true]
      omega

end Step

end Actor

/-- The steps a call can still add, the work its message gives the task among them. -/
def Stage.effort : Stage → Nat
  | .called => 10
  | .sending => 9
  | .reserved => 8
  | .awaiting _ | .late => 1
  | .stranded | .completed _ _ | .dropped _ => 0

namespace Runtime

/-- The steps of a system that is left alone: those of the task and of the calls under way, the
    answers of the transport to its calls, and the sleep until the deadline of the active query. No
    call is made or dropped, and no notification arrives. -/
inductive LeftAlone (answers : TransportCall → Except ε Unit → Prop) (s : Runtime ε) :
    RuntimeAction ε → Prop
  | task (a : Action ε) (ha : a ∈ taskActions) : LeftAlone answers s (.actor a)
  | answered (call : TransportCall) (result : Except ε Unit)
      (hawaited : s.actor.awaited = some call) (hanswer : answers call result) :
      LeftAlone answers s (.actor (.callReturned result))
  | call (i : Nat) (action : RuntimeAction ε) (haction : action ∈ ownActions i) :
      LeftAlone answers s action
  | sleep (query : PendingQuery) (elapsed : Duration) (hpending : s.actor.pendingQuery = some query)
      (hearly : s.actor.now.nanos < query.deadline.nanos)
      (helapsed : query.deadline.nanos = s.actor.now.nanos + elapsed.nanos) :
      LeftAlone answers s (.actor (.tick elapsed))

/-- The deadline of the active query has not passed. -/
def isEarly (s : Runtime ε) : Bool :=
  s.actor.pendingQuery.any fun query => decide (s.actor.now.nanos < query.deadline.nanos)

/-- The steps that the task and the calls can still take. -/
def effort (config : ActorConfig) (s : Runtime ε) : Nat :=
  s.actor.work config + (s.calls.map fun call => call.stage.effort).sum

/-- The same with the sleeps in between. -/
def remaining (config : ActorConfig) (s : Runtime ε) : Nat :=
  2 * s.effort config + (if s.isEarly then 1 else 0)

section Step

variable {config : ActorConfig} {s s' : Runtime ε} {action : RuntimeAction ε}
  {answers : TransportCall → Except ε Unit → Prop}

theorem sum_set {calls : List Call} {i : Nat} {call : Call} (hcall : calls[i]? = some call)
    (call' : Call) :
    ((calls.set i call').map fun call => call.stage.effort).sum + call.stage.effort
      = (calls.map fun call => call.stage.effort).sum + call'.stage.effort := by
  obtain ⟨hi, rfl⟩ := List.getElem?_eq_some_iff.1 hcall
  have hold := (List.getElem_cons_eraseIdx_perm hi).map fun call : Call => call.stage.effort
  have hnew := (List.set_perm_cons_eraseIdx hi call').map fun call : Call => call.stage.effort
  rw [hnew.sum_nat, ← hold.sum_nat, List.map_cons, List.map_cons, List.sum_cons, List.sum_cons]
  omega

theorem sum_set_lt {calls : List Call} {i : Nat} {call call' : Call}
    (hcall : calls[i]? = some call) (hless : call'.stage.effort < call.stage.effort) :
    ((calls.set i call').map fun call => call.stage.effort).sum
      < (calls.map fun call => call.stage.effort).sum := by
  have hset := sum_set hcall call'
  omega

theorem work_step (h : Reachable config s) (hst : Transition config s action s') :
    s'.actor.work config + (if action.isBusy then 1 else 0)
      ≤ s.actor.work config + action.demand := by
  cases hst with
  | actor a actor hallows hstep => exact Actor.work_step h.actor hstep
  | reserved i request actor hcall hopen hstep =>
      have hwork := Actor.work_step h.actor hstep
      exact hwork.trans (Nat.le_add_right _ _)
  | enqueued i request actor hcall hlives hstep => exact Actor.work_step h.actor hstep
  | _ => exact Nat.le_add_right _ _

theorem remaining_le (h : Reachable config s) : s.remaining config
    ≤ 2 * (7 * config.commandCapacity + 5 * config.queryCapacity + 13 +
      10 * s.calls.countP fun call => call.stage.isLive) + 1 := by
  have hwork := Actor.work_le h.actor
  have hcalls : (s.calls.map fun call => call.stage.effort).sum
      ≤ 10 * s.calls.countP fun call => call.stage.isLive := by
    induction s.calls with
    | nil => exact Nat.le_refl _
    | cons call calls ih =>
        have hcall : call.stage.effort ≤ 10 * (if call.stage.isLive then 1 else 0) := by
          cases call.stage <;> simp [Stage.effort, Stage.isLive]
        rw [List.map_cons, List.sum_cons, List.countP_cons]
        omega
  unfold remaining effort
  split <;> omega

/-- Every step of a system that is left alone brings its end closer. -/
theorem remaining_step (hreach : Reachable config s) (hallowed : LeftAlone answers s action)
    (h : Transition config s action s') : s'.remaining config < s.remaining config := by
  have hsmaller : s'.effort config < s.effort config →
      s'.remaining config < s.remaining config := by
    intro hless
    unfold remaining
    split <;> omega
  cases h with
  | actor a actor hallows hstep =>
      have hwork := Actor.work_step hreach.actor hstep
      cases hallowed with
      | task a ha =>
          refine hsmaller (Nat.add_lt_add_right ?_ _)
          have hbusy : a.isBusy = true ∧ a.demand = 0 := by
            simp only [taskActions, List.mem_cons, List.not_mem_nil, or_false] at ha
            rcases ha with rfl | rfl | rfl <;> exact ⟨rfl, rfl⟩
          rw [hbusy.1, hbusy.2, if_pos rfl] at hwork
          exact hwork
      | answered call result =>
          refine hsmaller (Nat.add_lt_add_right ?_ _)
          exact hwork
      | call i action haction => simp [ownActions] at haction
      | sleep query elapsed hpending hearly helapsed =>
          cases hstep with
          | tick elapsed now hnow =>
              have hlate : isEarly { s with actor := { s.actor with now } } = false := by
                simp only [isEarly, hpending, Option.any_some, decide_eq_false_iff_not]
                omega
              have hawake : s.isEarly = true := by
                simp only [isEarly, hpending, Option.any_some, decide_eq_true_eq]
                exact hearly
              have hsame : effort config { s with actor := { s.actor with now } }
                  = s.effort config := rfl
              simp only [remaining, hlate, hawake, hsame]
              simp
  | admitted i request hcall =>
      refine hsmaller (Nat.add_lt_add_left ?_ _)
      exact sum_set_lt hcall (Nat.lt_add_one 9)
  | late i request hcall =>
      refine hsmaller (Nat.add_lt_add_left ?_ _)
      exact sum_set_lt hcall (show 1 < 8 by decide)
  | turnedAway i request error hcall | unsent i request hcall | stranded i request hcall
  | answered i request reply value hcall | abandoned i request reply hcall
  | lost i request hcall =>
      refine hsmaller (Nat.add_lt_add_left ?_ _)
      exact sum_set_lt hcall (Nat.zero_lt_succ _)
  | reserved i request actor hcall hopen hstep =>
      have hwork : actor.work config ≤ s.actor.work config := Actor.work_step hreach.actor hstep
      have hset := sum_set hcall ⟨request, .reserved⟩
      refine hsmaller ?_
      unfold effort
      simp only [actor_setStage, calls_setStage]
      simp only [Stage.effort] at hset ⊢
      omega
  | enqueued i request actor hcall hlives hstep =>
      -- the call pays for the work that its message gives the task
      have hwork : actor.work config ≤ s.actor.work config + 6 := Actor.work_step hreach.actor hstep
      have hset := sum_set hcall ⟨request, .awaiting s.actor.nextReply⟩
      refine hsmaller ?_
      unfold effort
      simp only [actor_setStage, calls_setStage]
      simp only [Stage.effort] at hset ⊢
      omega
  | call | dropCall | recv | abort | cancel =>
      cases hallowed with
      | call i action haction => simp [ownActions] at haction

/-- A call under way does not let the system come to rest. -/
theorem exists_leftAlone (h : Reachable config s)
    (hanswers : ∀ call, ∃ result, answers call result) {i : Nat} {call : Call}
    (hcall : s.calls[i]? = some call) (hlive : call.stage.isLive = true)
    (hstage : call.stage ≠ .stranded) :
    ∃ action, LeftAlone answers s action ∧ Enabled config s action := by
  rcases moves_of_isLive h hcall hlive hstage with
    ⟨action, hown, hmoves⟩ | ⟨k, request, -, hmoves⟩ | ⟨a, ha, hmoves⟩ | hboard
  · exact ⟨action, .call i action hown, hmoves⟩
  · exact ⟨_, .call k _ (by simp [ownActions]), hmoves⟩
  · exact ⟨.actor a, .task a ha, hmoves⟩
  · cases hboard with
    | call call hawaited hmoves =>
        obtain ⟨result, hanswer⟩ := hanswers call
        exact ⟨_, .answered call result hawaited hanswer, hmoves result⟩
    | response query hpending hearly _ =>
        -- the clock can reach the deadline
        have hlarge := query.deadline.bound
        let elapsed : Duration := ⟨query.deadline.nanos - s.actor.now.nanos, by omega⟩
        have helapsed : query.deadline.nanos = s.actor.now.nanos + elapsed.nanos := by
          show _ = _ + (query.deadline.nanos - s.actor.now.nanos)
          omega
        refine ⟨_, .sleep query elapsed hpending hearly helapsed, enabled_actor rfl ?_⟩
        rw [Actor.step, Instant.checkedAdd_eq_some_iff.2 helapsed]
        exact ⟨_, rfl⟩

/-- The call is under way, or it has returned. -/
def Kept (i : Nat) (request : Request) (s : Runtime ε) : Prop :=
  ∃ stage, s.calls[i]? = some ⟨request, stage⟩ ∧
    (stage.isLive = true ∨ ∃ reply result, stage = .completed reply result)

/-- Left alone, nobody drops a call. -/
theorem kept_step {i : Nat} {request : Request} (hkept : Kept i request s)
    (hallowed : LeftAlone answers s action) (h : Transition config s action s') :
    Kept i request s' := by
  obtain ⟨stage, hcall, hstage⟩ := hkept
  have hset : ∀ (k : Nat) (request' : Request) (old new : Stage),
      s.calls[k]? = some ⟨request', old⟩ →
      (new.isLive = true ∨ ∃ reply result, new = .completed reply result) →
      ∃ stage, (s.calls.set k ⟨request', new⟩)[i]? = some ⟨request, stage⟩ ∧
        (stage.isLive = true ∨ ∃ reply result, stage = .completed reply result) := by
    intro k request' old new hold hnew
    by_cases hk : k = i
    · subst hk
      cases hcall.symm.trans hold
      exact ⟨new, List.getElem?_set_self (List.getElem?_eq_some_iff.1 hcall).1, hnew⟩
    · exact ⟨stage, (List.getElem?_set_ne hk).trans hcall, hstage⟩
  cases h with
  | actor => exact ⟨stage, hcall, hstage⟩
  | admitted k request' hold => exact hset k request' _ _ hold (.inl rfl)
  | reserved k request' actor hold | enqueued k request' actor hold =>
      exact hset k request' _ _ hold (.inl rfl)
  | late k request' hold | stranded k request' hold => exact hset k request' _ _ hold (.inl rfl)
  | turnedAway k request' error hold | unsent k request' hold
  | answered k request' reply value hold | abandoned k request' reply hold
  | lost k request' hold =>
      exact hset k request' _ _ hold (.inr ⟨_, _, rfl⟩)
  | call | dropCall | recv | abort | cancel =>
      cases hallowed with
      | call i action haction => simp [ownActions] at haction

/-! ## Settling -/

/-- No step is left that a system left alone could take. -/
def AtRest (config : ActorConfig) (answers : TransportCall → Except ε Unit → Prop)
    (s : Runtime ε) : Prop :=
  ∀ action, LeftAlone answers s action → ¬ Enabled config s action

/-- How the system comes to rest. -/
structure Settles (config : ActorConfig) (s : Runtime ε) : Prop where
  /-- In every run the task takes this many steps on its own account at most: a constant, six for
      each `send` that returns, and one for each notification that arrives. -/
  bounded : ∀ schedule s', StepMachine.run (step config) s schedule = some s' →
    schedule.countP RuntimeAction.isBusy
      ≤ 7 * config.commandCapacity + 5 * config.queryCapacity + 13 +
        (schedule.map RuntimeAction.demand).sum
  /-- Left alone, it takes finitely many steps, in whatever order they come. -/
  finite : ∀ answers schedule s', StepMachine.run (step config) s schedule = some s' →
    StepMachine.Along (step config) (LeftAlone answers) s schedule →
      schedule.length ≤ 2 * (7 * config.commandCapacity + 5 * config.queryCapacity + 13 +
        10 * s.calls.countP fun call => call.stage.isLive) + 1
  /-- So it comes to rest. -/
  rests : ∀ answers, ∃ schedule s', StepMachine.run (step config) s schedule = some s' ∧
    StepMachine.Along (step config) (LeftAlone answers) s schedule ∧ AtRest config answers s'
  /-- Then every call has returned, as long as the transport answers, whatever its answers were, or
      its message entered the channel when the task was gone. -/
  returns : ∀ answers, (∀ call, ∃ result, answers call result) →
    ∀ schedule s', StepMachine.run (step config) s schedule = some s' →
      StepMachine.Along (step config) (LeftAlone answers) s schedule → AtRest config answers s' →
        ∀ (i : Nat) (call : Call), s.calls[i]? = some call → call.stage.isLive = true →
          (∃ reply result, s'.calls[i]? = some ⟨call.request, .completed reply result⟩) ∨
            s'.isOver = true ∧ s'.calls[i]? = some ⟨call.request, .stranded⟩

/-- **The task never spins, and left alone it settles.** -/
theorem settles (h : Reachable config s) : Settles config s := by
  refine ⟨?_, ?_, ?_, ?_⟩
  · intro schedule s' hrun
    have hwork := Actor.work_le h.actor
    have hstep : ∀ (t : Runtime ε) a t', Reachable config t → step config t a = some t' →
        Reachable config t' ∧ t'.actor.work config + (if a.isBusy then 1 else 0)
          ≤ t.actor.work config + a.demand :=
      fun t a t' ht hst => ⟨ht.next hst, work_step ht (transition_of_step hst)⟩
    have hbounded := (StepMachine.run_amortized hstep h hrun).2
    omega
  · intro answers schedule s' hrun halong
    have hlength := StepMachine.run_length_along (P := Reachable config)
      (V := fun t : Runtime ε => t.remaining config)
      (fun t a t' ht hallowed hst =>
        ⟨ht.next hst, remaining_step ht hallowed (transition_of_step hst)⟩) h hrun halong
    have hbound := remaining_le h
    omega
  · intro answers
    refine StepMachine.exists_run_to_done (P := Reachable config)
      (V := fun t : Runtime ε => t.remaining config) ?_ h
    intro t ht hmoves
    simp only [AtRest, not_forall, not_not] at hmoves
    obtain ⟨action, hallowed, t', hst⟩ := hmoves
    exact ⟨action, t', hallowed, hst, ht.next hst,
      remaining_step ht hallowed (transition_of_step hst)⟩
  · intro answers hanswers schedule s' hrun halong hrest i call hcall hlive
    have hkept := StepMachine.run_preserves_along
      (P := fun t => Reachable config t ∧ Kept i call.request t)
      (fun t a t' ht hallowed hst =>
        ⟨ht.1.next hst, kept_step ht.2 hallowed (transition_of_step hst)⟩)
      ⟨h, call.stage, hcall, .inl hlive⟩ hrun halong
    obtain ⟨hreach, stage, hstage, hlive' | ⟨reply, result, rfl⟩⟩ := hkept
    · by_cases hstranded : stage = .stranded
      · subst hstranded
        exact .inr ⟨((unheard hreach) _ (List.mem_of_getElem? hstage)).2 rfl, hstage⟩
      · obtain ⟨action, hallowed, hmoves⟩ :=
          exists_leftAlone hreach hanswers hstage hlive' hstranded
        exact absurd hmoves (hrest action hallowed)
    · exact .inl ⟨reply, result, hstage⟩

/-- A query is on its way to the board while another caller waits for room in the channel. -/
theorem waitingRun_settles :
    ∃ s, runFrom { ActorConfig.default with commandCapacity := 1 } 64 .zero waitingRun = some s ∧
      s.calls[2]? = some ⟨.pieceStatus, .sending⟩ ∧
      Settles { ActorConfig.default with commandCapacity := 1 } s := by
  have hrun : runFrom { ActorConfig.default with commandCapacity := 1 } 64 .zero waitingRun
      = some _ := rfl
  have hreach := Reachable.of_runFrom (.allocating (2 ^ 64 - 1) 1024) (by decide) (by decide) hrun
  exact ⟨_, hrun, rfl, settles hreach⟩

end Step

end Runtime

end ChessnutMove.Tokio
