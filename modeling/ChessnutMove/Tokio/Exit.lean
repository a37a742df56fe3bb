import ChessnutMove.Tokio.OnTransport

set_option autoImplicit false

/-! # What the task hands back

`run_actor` owns the transport and returns it in an `ActorExit`, beside its result. Here the
transport keeps the list of its own exchanges, so that what is handed back can be held against what
the actor did with it. `Session` is the language of these lists. -/

namespace ChessnutMove

variable {σ ε : Type}

/-- The exchange is one of the main loop: a notification, or the write of a command. -/
def Exchange.isServing : Exchange ε → Bool
  | .performed (.writeCommand _) _ | .received _ => true
  | .performed _ _ => false

namespace Tokio

/-! ## Sessions -/

/-- Calls in turn, up to the first that fails, and whether all succeeded. -/
inductive Tried : List TransportCall → List (Exchange ε) → Bool → Prop
  | nil : Tried [] [] true
  | failed (call : TransportCall) (rest : List TransportCall) (error : ε) :
      Tried (call :: rest) [.performed call (.error error)] false
  | next (call : TransportCall) {rest : List TransportCall} {exchanges : List (Exchange ε)}
      {ok : Bool} (h : Tried rest exchanges ok) :
      Tried (call :: rest) (.performed call (.ok ()) :: exchanges) ok

/-- Exchanges of the main loop, of which only the last may fail. -/
def Serving (exchanges : List (Exchange ε)) : Prop :=
  (∀ exchange ∈ exchanges, exchange.isServing = true) ∧
    ∀ exchange ∈ exchanges.dropLast, exchange.error = none

/-- A whole session with the transport: the startup; if it succeeds, the main loop; in any case the
    cleanup. -/
def Session (exchanges : List (Exchange ε)) : Prop :=
  ∃ startup serving cleanup ok cleaned, exchanges = startup ++ serving ++ cleanup ∧
    Tried initializeTransport.toList startup ok ∧ (ok = false → serving = []) ∧
    Serving serving ∧ Tried shutdownTransport.toList cleanup cleaned

section Words

theorem Attempt.tried {calls : List TransportCall} {events : List (Event ε)} {ok : Bool}
    (h : Attempt calls events ok) : Tried calls (events.filterMap Event.exchange) ok := by
  induction h with
  | nil => exact .nil
  | failed call rest error => exact .failed call rest error
  | next call h ih => exact .next call ih

theorem Item.exchange {item : List (Event ε)} {ok : Bool} (h : Item item ok) :
    item.filterMap Event.exchange = [] ∨ ∃ exchange, exchange.isServing = true ∧
      (ok = true → exchange.error = none) ∧ item.filterMap Event.exchange = [exchange] := by
  cases h with
  | nextNotification => exact .inl rfl
  | notified notification => exact .inr ⟨.received (.ok notification), rfl, fun _ => rfl, rfl⟩
  | notificationFailed error => exact .inr ⟨.received (.error error), rfl, nofun, rfl⟩
  | write command owner =>
      exact .inr ⟨.performed (.writeCommand command) (.ok ()), rfl, fun _ => rfl, rfl⟩
  | writeFailed command owner error =>
      exact .inr ⟨.performed (.writeCommand command) (.error error), rfl, nofun, rfl⟩

/-- The main loop serves; while it goes on no exchange has failed. -/
theorem Loop.serving {events : List (Event ε)} {ok : Bool} (h : Loop events ok) :
    Serving (events.filterMap Event.exchange) ∧
      (ok = true → ∀ exchange ∈ events.filterMap Event.exchange, exchange.error = none) := by
  induction h with
  | nil => exact ⟨⟨nofun, nofun⟩, fun _ => nofun⟩
  | @snoc events item ok h hitem ih =>
      obtain ⟨⟨hserving, -⟩, hgood⟩ := ih
      have hgood := hgood rfl
      rw [List.filterMap_append]
      rcases hitem.exchange with hnone | ⟨exchange, hexchange, hok, hone⟩
      · rw [hnone, List.append_nil]
        exact ⟨⟨hserving, fun exchange hmem => hgood exchange (List.dropLast_subset _ hmem)⟩,
          fun _ => hgood⟩
      · rw [hone]
        refine ⟨⟨?_, ?_⟩, fun htrue => ?_⟩
        · exact List.forall_mem_append.2 ⟨hserving, List.forall_mem_singleton.2 hexchange⟩
        · rw [List.dropLast_concat]
          exact hgood
        · exact List.forall_mem_append.2 ⟨hgood, List.forall_mem_singleton.2 (hok htrue)⟩

/-- A complete trace is a whole session with the transport. -/
theorem Word.session {trace : List (Event ε)} (h : Word trace) :
    Session (trace.filterMap Event.exchange) := by
  cases h with
  | mk hleft hcleanup =>
      cases hleft with
      | failed hstartup =>
          refine ⟨_, [], _, false, _, ?_, hstartup.tried, fun _ => rfl, ⟨nofun, nofun⟩,
            hcleanup.tried⟩
          simp [List.filterMap_append, List.filterMap_cons, Event.exchange]
      | ran hstartup hloop =>
          refine ⟨_, _, _, true, _, ?_, hstartup.tried, nofun, hloop.serving.1, hcleanup.tried⟩
          simp [List.filterMap_append, List.filterMap_cons, Event.exchange]

end Words

/-! ## The exit -/

/-- The detailed result of a terminated actor, including its transport. -/
structure ActorExit (σ ε : Type) where
  transport : σ
  result : Except (ActorError ε) Unit

namespace Runtime

/-- What awaiting the `BoardTask` gives. -/
def exit (p : Runtime ε × BoardState σ) : Option (Except JoinError (ActorExit σ ε)) :=
  p.1.join.map fun outcome => outcome.map fun result => ⟨p.2.transport, result⟩

section Exit

variable {config : ActorConfig}

theorem abortRequested_of_cancelled {s : Runtime ε} (h : Reachable config s)
    (hcancelled : s.cancelled = true) : s.abortRequested = true := by
  refine h.induct (P := fun s => s.cancelled = true → s.abortRequested = true) ?_ ?_ hcancelled
  · intro retained now _ _ hcancelled
    cases hcancelled
  · intro s action s' _ hs hst hcancelled
    cases hst with
    | abort => rfl
    | cancel hrequested => exact hrequested
    | _ => exact hs hcancelled

/-- An exit comes from a task that has returned. -/
theorem returned_of_join {s : Runtime ε} {result : Except (ActorError ε) Unit}
    (h : s.join = some (.ok result)) : s.actor.phase = .returned ∧ s.actor.result = result := by
  unfold join at h
  split at h
  · cases h
  · split at h
    · next hphase =>
        cases h
        exact ⟨hphase, rfl⟩
    · cases h
    · cases h

/-- The other outcomes say what has ended the task. -/
theorem cause_of_join {s : Runtime ε} {error : JoinError} (h : s.join = some (.error error)) :
    (error = .cancelled ∧ s.cancelled = true) ∨
      (error = .panicked ∧ ∃ panic, s.actor.phase = .panicked panic) := by
  unfold join at h
  split at h
  · next hcancelled =>
      cases h
      exact .inl ⟨rfl, hcancelled⟩
  · split at h
    · cases h
    · next panic hphase =>
        cases h
        exact .inr ⟨rfl, panic, hphase⟩
    · cases h

theorem exit_eq_ok_iff {p : Runtime ε × BoardState σ} {exit : ActorExit σ ε} :
    Runtime.exit p = some (.ok exit) ↔
      p.1.join = some (.ok exit.result) ∧ exit.transport = p.2.transport := by
  unfold Runtime.exit
  rw [Option.map_eq_some_iff]
  constructor
  · rintro ⟨outcome, hjoin, hexit⟩
    obtain ⟨result, rfl, rfl⟩ := Except.map_eq_ok_iff.1 hexit
    exact ⟨hjoin, rfl⟩
  · rintro ⟨hjoin, htransport⟩
    exact ⟨_, hjoin, by rw [← htransport]; rfl⟩

theorem exit_eq_error_iff {p : Runtime ε × BoardState σ} {error : JoinError} :
    Runtime.exit p = some (.error error) ↔ p.1.join = some (.error error) := by
  unfold Runtime.exit
  cases p.1.join with
  | none => simp
  | some outcome => cases outcome <;> simp [Except.map]

/-- What the caller of the task gets, and what it says about the transport. -/
structure HandsBack (config : ActorConfig) (p : Runtime ε × BoardState (σ × List (Exchange ε))) :
    Prop where
  /-- The transport has seen what the actor has in its record. -/
  record : p.2.transport.2 = p.1.actor.exchanges
  /-- At any time this is the beginning of a session. -/
  started : ∃ more, Session (p.2.transport.2 ++ more)
  /-- The transport that is handed back has gone through a whole session, and the result is the
      first error that it returned. -/
  ended : ∀ exit, Runtime.exit p = some (.ok exit) → Session exit.transport.2 ∧
    exit.result = resultOf (exit.transport.2.filterMap Exchange.error)
  /-- Only a caller that aborted the task loses the transport... -/
  cancelled : Runtime.exit p = some (.error .cancelled) → p.1.abortRequested = true
  /-- ... or one whose timeout leads out of the range of instants. -/
  panicked : Runtime.exit p = some (.error .panicked) →
    ∃ query written, Actor.Written p.1.actor query written ∧ ¬ written.Fits config.requestTimeout

/-- **The task hands the transport back after a whole session.** -/
theorem hands_back (t : Transport σ ε) (config : ActorConfig) (board : BoardState σ)
    (p : Runtime ε × BoardState (σ × List (Exchange ε)))
    (h : ReachableOn (recorded t) config (board.withRecord []) p) : HandsBack config p := by
  have hreach := h.runtime
  have hrecord : p.2.transport.2 = p.1.actor.exchanges := by
    refine h.exchanges (P := fun exchanges board => board.transport.2 = exchanges) rfl ?_ ?_
    · rintro _ board call rfl
      rfl
    · rintro _ board rfl
      rfl
  refine ⟨hrecord, ?_, ?_, ?_, ?_⟩
  · obtain ⟨rest, hword⟩ := Actor.wordPrefix hreach.actor
    refine ⟨rest.filterMap Event.exchange, ?_⟩
    rw [hrecord, Actor.exchanges_eq_trace, ← List.filterMap_append]
    exact hword.session
  · intro exit hexit
    obtain ⟨hjoin, htransport⟩ := exit_eq_ok_iff.1 hexit
    obtain ⟨hret, hresult⟩ := returned_of_join hjoin
    have hword := Actor.shape hreach.actor
    rw [Actor.Shape, hret] at hword
    rw [htransport, hrecord]
    constructor
    · rw [Actor.exchanges_eq_trace]
      exact hword.session
    · rw [← Actor.transportErrors_eq, ← hresult]
      exact Actor.result_eq hreach.actor
  · intro hexit
    rcases cause_of_join (exit_eq_error_iff.1 hexit) with ⟨-, hcancelled⟩ | ⟨herror, -⟩
    · exact abortRequested_of_cancelled hreach hcancelled
    · cases herror
  · intro hexit
    rcases cause_of_join (exit_eq_error_iff.1 hexit) with ⟨herror, -⟩ | ⟨-, panic, hphase⟩
    · cases herror
    · exact (Actor.panicked_cause hreach.actor hphase).2

/-- A transport whose fifth call fails. -/
def falteringTransport : Transport Nat Unit where
  perform _ calls := (if calls = 4 then .error () else .ok (), calls + 1)
  nextNotification calls buffer := (.error (), calls, buffer)

/-- The last handle is dropped right after the startup, and the cleanup fails. -/
def droppedRun : List (RuntimeAction Unit) :=
  [.actor (.callReturned (.ok ())), .actor (.callReturned (.ok ())),
    .actor (.callReturned (.ok ())), .actor .proceed, .actor .dropHandle, .actor .receive,
    .actor .proceed, .actor .proceed, .actor .proceed, .actor (.callReturned (.ok ())),
    .actor (.callReturned (.ok ())), .actor .proceed]

theorem droppedRun_hands_back :
    ∃ p, StepMachine.run (stepOn (recorded falteringTransport) ActorConfig.default)
        (start ActorConfig.default 64 .zero,
          BoardState.withRecord ⟨0, .replicate maxNotificationLen 0⟩ []) droppedRun = some p ∧
      Runtime.exit p = some (.ok ⟨p.2.transport, .error (.transport ())⟩) ∧
      HandsBack ActorConfig.default p := by
  have hrun : StepMachine.run (stepOn (recorded falteringTransport) ActorConfig.default)
      (start ActorConfig.default 64 .zero,
        BoardState.withRecord ⟨0, .replicate maxNotificationLen 0⟩ []) droppedRun = some _ := rfl
  refine ⟨_, hrun, rfl, ?_⟩
  exact hands_back falteringTransport ActorConfig.default _ _
    ⟨_, droppedRun, ⟨⟨.allocating (2 ^ 64 - 1) 1024, 64, .zero, by decide, by decide, rfl⟩, rfl⟩,
      hrun⟩

end Exit

end Runtime

end Tokio

end ChessnutMove
