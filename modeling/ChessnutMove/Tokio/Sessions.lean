import ChessnutMove.Tokio.Steps
import ChessnutMove.Transport.Blocking
import ChessnutMove.Transport.Recording

set_option autoImplicit false

/-! # The three sessions

The actor as it runs on a transport: `stepOn` answers every transport call with what the transport
returns, whatever result the schedule names. `initialize_transport` and `shutdown_transport` are the
two stages in which the task awaits calls in turn, and in both it does to the transport what
`AsyncBoard` does. -/

namespace ChessnutMove.Tokio.Actor

variable {σ ε : Type}

/-! ## The actor on a transport -/

/-- The transport call the task awaits. -/
def awaited (s : Actor ε) : Option TransportCall :=
  match s.phase with
  | .initializing calls => some calls.first
  | .startingQuery query => some (.writeCommand query.command)
  | .sending command _ => some (.writeCommand command)
  | .cleaningUp calls => some calls.first
  | _ => none

/-- A step of an actor that owns the transport and the buffer of `board`. -/
def stepOn (t : Transport σ ε) (config : ActorConfig) (p : Actor ε × BoardState σ) :
    Action ε → Option (Actor ε × BoardState σ)
  | .callReturned _ => do
      let call ← p.1.awaited
      let (result, board) := p.2.perform t call
      (step config p.1 (.callReturned result)).map (·, board)
  | .notification _ =>
      let (result, board) := p.2.receive t
      (step config p.1 (.notification result)).map (·, board)
  | action => (step config p.1 action).map (·, p.2)

/-- A stage in which the task awaits transport calls one after another, each followed by `?`. -/
structure AwaitsInTurn (config : ActorConfig) (stage : Calls → Actor ε → Prop)
    (finished : Except ε Unit → Actor ε → Prop) : Prop where
  awaits : ∀ {calls s}, stage calls s → s.awaited = some calls.first
  progress : ∀ {calls s}, stage calls s → ∀ result,
    ∃ s', step config s (.callReturned result) = some s'
  returned : ∀ {calls s s' result}, stage calls s → Transition config s (.callReturned result) s' →
    match result, calls.rest with
    | .error error, _ => finished (.error error) s'
    | .ok (), next :: rest => stage ⟨next, rest⟩ s'
    | .ok (), [] => finished (.ok ()) s'
  waits : ∀ {calls s action s'}, stage calls s → Transition config s action s' →
    (∀ result, action ≠ .callReturned result) →
      stage calls s' ∧ ∀ result, action ≠ .notification result

section Stage

variable {t : Transport σ ε} {config : ActorConfig} {stage : Calls → Actor ε → Prop}
  {finished : Except ε Unit → Actor ε → Prop}

/-- Calls of a stage have succeeded and these are left. -/
def Underway (t : Transport σ ε) (stage : Calls → Actor ε → Prop) (calls : Calls)
    (board : BoardState σ) (left : Calls) (p : Actor ε × BoardState σ) : Prop :=
  ∃ completed, calls.toList = completed ++ left.toList ∧
    performAll t completed board = (.ok (), p.2) ∧ stage left p.1

/-- A stage has ended as its calls did, and the transport is as they left it. -/
def Over (t : Transport σ ε) (finished : Except ε Unit → Actor ε → Prop) (calls : Calls)
    (board : BoardState σ) (p : Actor ε × BoardState σ) : Prop :=
  ∃ result, performAll t calls.toList board = (result, p.2) ∧ finished result p.1

variable {calls left : Calls} {board : BoardState σ} {p p' : Actor ε × BoardState σ}

theorem underway_start {s : Actor ε} (hstage : stage calls s) :
    Underway t stage calls board calls (s, board) :=
  ⟨[], rfl, rfl, hstage⟩

/-- The call a stage awaits returns: the stage goes on with the rest, or is over. -/
theorem AwaitsInTurn.returns (h : AwaitsInTurn config stage finished) {s s' : Actor ε}
    {next : BoardState σ} (hp : Underway t stage calls board left (s, next))
    (hstep : Transition config s (.callReturned (next.perform t left.first).1) s') :
    (∃ second rest, left.rest = second :: rest ∧
      Underway t stage calls board ⟨second, rest⟩ (s', (next.perform t left.first).2)) ∨
      Over t finished calls board (s', (next.perform t left.first).2) := by
  obtain ⟨completed, hcalls, hdone, hstage⟩ := hp
  obtain ⟨first, rest⟩ := left
  have hreturned := h.returned hstage hstep
  have hall := performAll_append hdone (first :: rest)
  generalize hreply : next.perform t first = reply at hreturned ⊢
  obtain ⟨result, after⟩ := reply
  rw [performAll, hreply] at hall
  cases result with
  | error error => exact .inr ⟨.error error, by rw [hcalls]; exact hall, hreturned⟩
  | ok _ =>
      cases rest with
      | nil => exact .inr ⟨.ok (), by rw [hcalls]; exact hall, hreturned⟩
      | cons second rest =>
          refine .inl ⟨second, rest, rfl, completed ++ [first], ?_, ?_, hreturned⟩
          · rw [hcalls, List.append_assoc]
            rfl
          · rw [performAll_append hdone, performAll, hreply]
            rfl

theorem AwaitsInTurn.step (h : AwaitsInTurn config stage finished)
    (hp : Underway t stage calls board left p) {action : Action ε}
    (hstep : stepOn t config p action = some p') :
    (∃ left', Underway t stage calls board left' p') ∨ Over t finished calls board p' := by
  obtain ⟨s, next⟩ := p
  have hstage : stage left s := hp.choose_spec.2.2
  cases action with
  | callReturned result =>
      obtain ⟨call, hcall, hmap⟩ := Option.bind_eq_some_iff.1 hstep
      obtain ⟨s', hs', rfl⟩ := Option.map_eq_some_iff.1 hmap
      obtain rfl : left.first = call := Option.some.inj ((h.awaits hstage).symm.trans hcall)
      rcases h.returns hp (transition_of_step hs') with ⟨second, rest, -, hunder⟩ | hover
      · exact .inl ⟨_, hunder⟩
      · exact .inr hover
  | notification result =>
      obtain ⟨s', hs', rfl⟩ := Option.map_eq_some_iff.1 hstep
      exact absurd rfl ((h.waits hstage (transition_of_step hs') (by simp)).2 _)
  | _ =>
      obtain ⟨completed, hcalls, hdone, -⟩ := hp
      obtain ⟨s', hs', rfl⟩ := Option.map_eq_some_iff.1 hstep
      have hwaits := h.waits hstage (transition_of_step hs') (by simp)
      exact .inl ⟨left, completed, hcalls, hdone, hwaits.1⟩

/-- The call a stage awaits can return. -/
theorem AwaitsInTurn.call (h : AwaitsInTurn config stage finished)
    (hp : Underway t stage calls board left p) :
    ∃ p', stepOn t config p (.callReturned (.ok ())) = some p' ∧
      ((∃ second rest, left.rest = second :: rest ∧
        Underway t stage calls board ⟨second, rest⟩ p') ∨ Over t finished calls board p') := by
  obtain ⟨s, next⟩ := p
  have hstage : stage left s := hp.choose_spec.2.2
  obtain ⟨s', hs'⟩ := h.progress hstage (next.perform t left.first).1
  refine ⟨(s', (next.perform t left.first).2), ?_, h.returns hp (transition_of_step hs')⟩
  exact Option.bind_eq_some_iff.2
    ⟨left.first, h.awaits hstage, Option.map_eq_some_iff.2 ⟨s', hs', rfl⟩⟩

/-- A stage is over once every call has returned. -/
theorem AwaitsInTurn.ends (h : AwaitsInTurn config stage finished)
    (hp : Underway t stage calls board left p) :
    ∃ schedule p', StepMachine.run (stepOn t config) p schedule = some p' ∧
      Over t finished calls board p' := by
  obtain ⟨first, rest⟩ := left
  induction rest generalizing first p with
  | nil =>
      obtain ⟨p', hstep, hnext⟩ := h.call hp
      rcases hnext with ⟨second, rest, hrest, -⟩ | hover
      · cases hrest
      · exact ⟨[.callReturned (.ok ())], p', StepMachine.run_cons_eq_some.2 ⟨p', hstep, rfl⟩, hover⟩
  | cons second rest ih =>
      obtain ⟨p', hstep, hnext⟩ := h.call hp
      rcases hnext with ⟨second', rest', hrest, hunder⟩ | hover
      · obtain ⟨rfl, rfl⟩ := List.cons.inj hrest
        obtain ⟨schedule, last, hrun, hover⟩ := ih second hunder
        exact ⟨.callReturned (.ok ()) :: schedule, last,
          StepMachine.run_cons_eq_some.2 ⟨p', hstep, hrun⟩, hover⟩
      · exact ⟨[.callReturned (.ok ())], p', StepMachine.run_cons_eq_some.2 ⟨p', hstep, rfl⟩, hover⟩

/-- **A stage performs its calls** in order, up to the first that fails, in every run. -/
theorem AwaitsInTurn.passesThrough (h : AwaitsInTurn config stage finished) {s : Actor ε}
    (hstage : stage calls s) :
    StepMachine.PassesThrough (stepOn t config)
      (fun p => ∃ left, Underway t stage calls board left p) (Over t finished calls board)
      (s, board) := by
  refine ⟨h.ends (underway_start hstage), fun schedule p' hrun => ?_⟩
  refine StepMachine.run_stays_or_enters
    (P := fun p => ∃ left, Underway t stage calls board left p) ?_
    ⟨calls, underway_start hstage⟩ hrun
  rintro p action p' ⟨left, hunder⟩ hstep
  exact h.step hunder hstep

end Stage

/-! ## The two stages of the task -/

section Stages

variable {config : ActorConfig}

/-- In `initialize_transport`. -/
def Initializing (calls : Calls) (s : Actor ε) : Prop :=
  s.phase = .initializing calls ∧ s.result = .ok ()

/-- `initialize_transport` has returned: the main loop begins, or the actor leaves with the
    error. -/
def Initialized (result : Except ε Unit) (s : Actor ε) : Prop :=
  s.phase = (if result.isOk then .loopTop else .leaving) ∧ s.result = result.mapError .transport

/-- In `shutdown_transport`, with this result so far. -/
def CleaningUp (result : Except (ActorError ε) Unit) (calls : Calls) (s : Actor ε) : Prop :=
  s.phase = .cleaningUp calls ∧ s.result = result

/-- `shutdown_transport` has returned: its result is the actor's unless that had failed before. -/
def CleanedUp (result : Except (ActorError ε) Unit) (cleanupResult : Except ε Unit) (s : Actor ε) :
    Prop :=
  s.phase = .finishing ∧
    s.result = if result.isOk then cleanupResult.mapError .transport else result

theorem initializing_awaitsInTurn :
    AwaitsInTurn config (Initializing (ε := ε)) Initialized where
  awaits := by
    rintro calls s ⟨hphase, -⟩
    simp only [awaited, hphase]
  progress := by
    rintro ⟨first, rest⟩ s ⟨hphase, -⟩ result
    cases result with
    | error error => exact ⟨_, step_of_transition (.initializeFailed ⟨first, rest⟩ error hphase)⟩
    | ok _ =>
        cases rest with
        | nil => exact ⟨_, step_of_transition (.initialized first hphase)⟩
        | cons next rest => exact ⟨_, step_of_transition (.initializeNext first next rest hphase)⟩
  returned := by
    rintro calls s s' result ⟨hphase, hresult⟩ htransition
    cases htransition with
    | initializeFailed calls' error hphase' => exact ⟨rfl, rfl⟩
    | initializeNext first next rest hphase' =>
        obtain rfl := Phase.initializing.inj (hphase.symm.trans hphase')
        exact ⟨rfl, hresult⟩
    | initialized last hphase' =>
        obtain rfl := Phase.initializing.inj (hphase.symm.trans hphase')
        exact ⟨rfl, hresult⟩
    | _ => simp_all
  waits := by
    rintro calls s action s' ⟨hphase, hresult⟩ htransition hother
    cases htransition with
    | reserve | enqueue | cloneHandle | dropHandle | tick => exact ⟨⟨hphase, hresult⟩, by simp⟩
    | _ => simp_all

theorem cleaningUp_awaitsInTurn (result : Except (ActorError ε) Unit) :
    AwaitsInTurn config (CleaningUp result) (CleanedUp result) where
  awaits := by
    rintro calls s ⟨hphase, -⟩
    simp only [awaited, hphase]
  progress := by
    rintro ⟨first, rest⟩ s ⟨hphase, -⟩ result
    cases result with
    | error error => exact ⟨_, step_of_transition (.cleanupFailed ⟨first, rest⟩ error hphase)⟩
    | ok _ =>
        cases rest with
        | nil => exact ⟨_, step_of_transition (.cleanedUp first hphase)⟩
        | cons next rest => exact ⟨_, step_of_transition (.cleanupNext first next rest hphase)⟩
  returned := by
    rintro calls s s' cleanupResult ⟨hphase, rfl⟩ htransition
    cases htransition with
    | cleanupFailed calls' error hphase' => exact ⟨rfl, rfl⟩
    | cleanupNext first next rest hphase' =>
        obtain rfl := Phase.cleaningUp.inj (hphase.symm.trans hphase')
        exact ⟨rfl, rfl⟩
    | cleanedUp last hphase' =>
        obtain rfl := Phase.cleaningUp.inj (hphase.symm.trans hphase')
        refine ⟨rfl, ?_⟩
        cases hresult : s.result <;> rfl
    | _ => simp_all
  waits := by
    rintro calls s action s' ⟨hphase, hresult⟩ htransition hother
    cases htransition with
    | reserve | enqueue | cloneHandle | dropHandle | tick => exact ⟨⟨hphase, hresult⟩, by simp⟩
    | _ => simp_all

end Stages

/-! ## Agreement -/

/-- The actor on a transport is past `initialize_transport`, with the result, the transport and the
    buffer of `AsyncBoard::initialize`. -/
def InitializedLikeAsync (t : Transport σ ε) (board : BoardState σ) (p : Actor ε × BoardState σ) :
    Prop :=
  ∃ result, AsyncBoard.initializeBoard t board = (result.mapError .transport, p.2) ∧
    Initialized result p.1

/-- The actor on a transport is past `shutdown_transport`, with the result, the transport and the
    buffer of `AsyncBoard::shutdown`. -/
def CleanedUpLikeAsync (t : Transport σ ε) (board : BoardState σ)
    (before : Except (ActorError ε) Unit) (p : Actor ε × BoardState σ) : Prop :=
  ∃ result, AsyncBoard.shutdown t board = (result.mapError .transport, p.2) ∧
    CleanedUp before result p.1

variable (t : Transport σ ε) (config : ActorConfig) (board : BoardState σ)

theorem initializes_like_async (now : Instant) :
    StepMachine.PassesThrough (stepOn t config)
      (fun p => ∃ left, Underway t Initializing initializeTransport board left p)
      (InitializedLikeAsync t board) (runActor config now, board) := by
  have hstage : Initializing initializeTransport (runActor config now : Actor ε) := ⟨rfl, rfl⟩
  refine (initializing_awaitsInTurn.passesThrough hstage).imp ?_
  rintro p ⟨result, hperform, hinitialized⟩
  have houtcome : performAll t initializeCalls board = (result, p.2) := hperform
  exact ⟨result, by rw [AsyncBoard.initializeBoard_eq, houtcome]; rfl, hinitialized⟩

theorem cleans_up_like_async {s : Actor ε} (hphase : s.phase = .cleaningUp shutdownTransport) :
    StepMachine.PassesThrough (stepOn t config)
      (fun p => ∃ left, Underway t (CleaningUp s.result) shutdownTransport board left p)
      (CleanedUpLikeAsync t board s.result) (s, board) := by
  have hstage : CleaningUp s.result shutdownTransport s := ⟨hphase, rfl⟩
  refine ((cleaningUp_awaitsInTurn s.result).passesThrough hstage).imp ?_
  rintro p ⟨result, hperform, hcleaned⟩
  have houtcome : performAll t shutdownCalls board = (result, p.2) := hperform
  exact ⟨result, by rw [AsyncBoard.shutdown_eq, houtcome]; rfl, hcleaned⟩

/-- **The three sessions agree.** On every transport, for every operation and for every sequence of
    operations, the asynchronous and the blocking session make the same exchanges with it, return
    the same results and leave it and the buffer in the same state. The exchanges of `initialize`
    and `shutdown` are their calls, each once and in order, up to the first that fails; and every
    run of the actor goes through `initialize_transport` and `shutdown_transport` with the same
    exchanges, stopping at the same call. -/
theorem sessions_agree (record : List (Exchange ε)) :
    (∀ fuel call,
      BlockingBoard.operation t fuel call board = AsyncBoard.operation t fuel call board ∧
      BlockingBoard.operation (recorded t) fuel call (board.withRecord record)
        = AsyncBoard.operation (recorded t) fuel call (board.withRecord record) ∧
      Option.Rel (Lockstep fun plain recording => ∃ record, recording = plain.withRecord record)
        (AsyncBoard.operation t fuel call board)
        (AsyncBoard.operation (recorded t) fuel call (board.withRecord record))) ∧
    (∀ fuel calls,
      BlockingBoard.run t fuel calls board = AsyncBoard.run t fuel calls board ∧
      BlockingBoard.run (recorded t) fuel calls (board.withRecord record)
        = AsyncBoard.run (recorded t) fuel calls (board.withRecord record) ∧
      Option.Rel (Lockstep fun plain recording => ∃ record, recording = plain.withRecord record)
        (AsyncBoard.run t fuel calls board)
        (AsyncBoard.run (recorded t) fuel calls (board.withRecord record))) ∧
    AsyncBoard.initializeBoard (recorded t) (board.withRecord record)
      = (AsyncBoard.initializeBoard t board).map id
          (·.withRecord (record ++ attempts t initializeCalls board)) ∧
    AsyncBoard.shutdown (recorded t) (board.withRecord record)
      = (AsyncBoard.shutdown t board).map id
          (·.withRecord (record ++ attempts t shutdownCalls board)) ∧
    (∀ now, StepMachine.PassesThrough (stepOn (recorded t) config)
      (fun p => ∃ left, Underway (recorded t) Initializing initializeTransport
        (board.withRecord record) left p)
      (InitializedLikeAsync (recorded t) (board.withRecord record))
      (runActor config now, board.withRecord record)) ∧
    ∀ s : Actor ε, s.phase = .cleaningUp shutdownTransport →
      StepMachine.PassesThrough (stepOn (recorded t) config)
        (fun p => ∃ left, Underway (recorded t) (CleaningUp s.result) shutdownTransport
          (board.withRecord record) left p)
        (CleanedUpLikeAsync (recorded t) (board.withRecord record) s.result)
        (s, board.withRecord record) := by
  refine ⟨fun fuel call => ⟨?_, ?_, ?_⟩, fun fuel calls => ⟨?_, ?_, ?_⟩, ?_, ?_, ?_, ?_⟩
  · exact BlockingBoard.operation_eq_asyncBoard t fuel call board
  · exact BlockingBoard.operation_eq_asyncBoard (recorded t) fuel call (board.withRecord record)
  · exact AsyncBoard.operation_simulates (recorded_simulates t) ⟨record, rfl⟩ fuel call
  · exact BlockingBoard.run_eq_asyncBoard t fuel calls board
  · exact BlockingBoard.run_eq_asyncBoard (recorded t) fuel calls (board.withRecord record)
  · exact AsyncBoard.run_simulates (recorded_simulates t) ⟨record, rfl⟩ fuel calls
  · rw [AsyncBoard.initializeBoard_eq, AsyncBoard.initializeBoard_eq, performAll_recorded]
    rfl
  · rw [AsyncBoard.shutdown_eq, AsyncBoard.shutdown_eq, performAll_recorded]
    rfl
  · exact initializes_like_async (recorded t) config (board.withRecord record)
  · exact fun s hphase => cleans_up_like_async (recorded t) config (board.withRecord record) hphase

end ChessnutMove.Tokio.Actor
