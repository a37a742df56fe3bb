import ChessnutMove.Tokio.Shutdown

set_option autoImplicit false

/-! # The system on a transport

`spawn` moves the transport into the task. Here the whole system runs on one: a transport call
returns what the transport answers, and a notification is what it delivers. Every run is then a run
of the system on its own, and the exchanges in the actor's record are those the transport has
seen. -/

namespace ChessnutMove

variable {σ ε : Type}

/-- The error an exchange ended with. -/
def Exchange.error : Exchange ε → Option ε
  | .performed _ (.error error) | .received (.error error) => some error
  | _ => none

namespace Tokio

/-- The exchange with the transport that an event ends. -/
def Event.exchange : Event ε → Option (Exchange ε)
  | .returned call _ result => some (.performed call result)
  | .notified result => some (.received result)
  | _ => none

theorem Event.transportError_eq (event : Event ε) :
    event.transportError = event.exchange.bind Exchange.error := by
  cases event with
  | returned call owner result => cases result <;> rfl
  | notified result => cases result <;> rfl
  | _ => rfl

namespace Actor

/-- The exchanges with the transport, oldest first. -/
def exchanges (s : Actor ε) : List (Exchange ε) := s.events.filterMap Event.exchange

/-- The exchanges that an action of the task ends. -/
def ended (s : Actor ε) : Action ε → List (Exchange ε)
  | .callReturned result => s.awaited.toList.map fun call => .performed call result
  | .notification result => [.received result]
  | _ => []

theorem exchanges_step {config : ActorConfig} {s s' : Actor ε} {action : Action ε}
    (h : Transition config s action s') : s'.exchanges = s.exchanges ++ s.ended action := by
  cases h with
  | reserve | cloneHandle | dropHandle | tick | handlesDropped | closeRequests =>
      exact (List.append_nil _).symm
  | initializeFailed calls error hphase | queryFailed query error hphase
  | sendFailed command reply error hphase | cleanupFailed calls error hphase
  | queryOverflowed query hphase | queryStarted query deadline hphase | sent command reply hphase
  | initializeNext first next rest hphase | initialized last hphase
  | cleanupNext first next rest hphase | cleanedUp last hphase =>
      rw [exchanges, events_record, List.filterMap_append, ended, awaited, hphase]
      rfl
  | observed notification hphase hanswer =>
      rw [exchanges, events_record, List.filterMap_append]
      cases observe notification <;> rfl
  | finish hphase =>
      rw [exchanges, events_record, List.filterMap_append]
      cases s.shutdownReply <;> rfl
  | _ =>
      rw [exchanges, events_record, List.filterMap_append]
      rfl

theorem exchanges_eq_trace (s : Actor ε) :
    s.exchanges = (trace s.log).filterMap Event.exchange := by
  rw [exchanges, trace, List.filterMap_filter]
  refine List.filterMap_congr fun event _ => ?_
  cases event <;> rfl

/-- The errors in the record are those of the exchanges. -/
theorem transportErrors_eq (s : Actor ε) :
    s.transportErrors = s.exchanges.filterMap Exchange.error := by
  rw [transportErrors, extract_eq_filterMap, exchanges, List.filterMap_filterMap]
  exact List.filterMap_congr fun event _ => event.transportError_eq

end Actor

namespace Runtime

/-! ## Running on a transport -/

/-- One step of the system, whose task owns the transport and the buffer of a board. -/
def stepOn (t : Transport σ ε) (config : ActorConfig) (p : Runtime ε × BoardState σ) :
    RuntimeAction ε → Option (Runtime ε × BoardState σ)
  | .actor action =>
      if p.1.allows action then
        (Actor.stepOn t config (p.1.actor, p.2) action).map fun q =>
          ({ p.1 with actor := q.1 }, q.2)
      else none
  | action => (step config p.1 action).map (·, p.2)

/-- What `spawn` leaves behind, with the transport in the hands of the task. -/
def InitOn (config : ActorConfig) (board : BoardState σ) (p : Runtime ε × BoardState σ) : Prop :=
  Init config p.1 ∧ p.2 = board

/-- The states of the system in every run on this transport. -/
def ReachableOn (t : Transport σ ε) (config : ActorConfig) (board : BoardState σ)
    (p : Runtime ε × BoardState σ) : Prop :=
  StepMachine.Reachable (InitOn config board) (stepOn t config) p

section Step

variable {t : Transport σ ε} {config : ActorConfig} {board : BoardState σ}
  {p p' : Runtime ε × BoardState σ} {action : RuntimeAction ε}

/-- What a step does to the transport, and the exchange that stands for it in the record. -/
inductive Exchanges (t : Transport σ ε) (s s' : Runtime ε) :
    BoardState σ → BoardState σ → Prop
  | none (board : BoardState σ) (h : s'.actor.exchanges = s.actor.exchanges) :
      Exchanges t s s' board board
  | performed (board : BoardState σ) (call : TransportCall)
      (h : s'.actor.exchanges = s.actor.exchanges ++ [.performed call (board.perform t call).1]) :
      Exchanges t s s' board (board.perform t call).2
  | received (board : BoardState σ)
      (h : s'.actor.exchanges = s.actor.exchanges ++ [.received (board.receive t).1]) :
      Exchanges t s s' board (board.receive t).2

/-- A step of the actor on a transport is one of its steps, with the answer of the transport. -/
theorem actor_stepOn_cases {s : Runtime ε} {board : BoardState σ} {a : Action ε}
    {q : Actor ε × BoardState σ} (h : Actor.stepOn t config (s.actor, board) a = some q) :
    (∃ a', s.allows a' = s.allows a ∧ Actor.step config s.actor a' = some q.1) ∧
      Exchanges t s { s with actor := q.1 } board q.2 := by
  cases a with
  | callReturned result =>
      obtain ⟨call, hcall, hmap⟩ := Option.bind_eq_some_iff.1 h
      obtain ⟨actor, hactor, rfl⟩ := Option.map_eq_some_iff.1 hmap
      have hexchanges := Actor.exchanges_step (Actor.transition_of_step hactor)
      refine ⟨⟨.callReturned (board.perform t call).1, rfl, hactor⟩, .performed board call ?_⟩
      rw [hexchanges, Actor.ended, hcall]
      rfl
  | notification result =>
      obtain ⟨actor, hactor, rfl⟩ := Option.map_eq_some_iff.1 h
      exact ⟨⟨.notification (board.receive t).1, rfl, hactor⟩,
        .received board (Actor.exchanges_step (Actor.transition_of_step hactor))⟩
  | _ =>
      obtain ⟨actor, hactor, rfl⟩ := Option.map_eq_some_iff.1 h
      have hexchanges := Actor.exchanges_step (Actor.transition_of_step hactor)
      exact ⟨⟨_, rfl, hactor⟩, .none board (hexchanges.trans (List.append_nil _))⟩

theorem stepOn_of_ne_actor (hother : ∀ a, action ≠ .actor a) :
    stepOn t config p action = (step config p.1 action).map (·, p.2) := by
  cases action with
  | actor a => exact absurd rfl (hother a)
  | _ => rfl

/-- A step of a caller or a subscriber ends no exchange. -/
theorem exchanges_eq_step (hother : ∀ a, action ≠ .actor a) {s s' : Runtime ε}
    (h : step config s action = some s') : s'.actor.exchanges = s.actor.exchanges := by
  cases transition_of_step h with
  | actor a actor hallows hstep => exact absurd rfl (hother a)
  | reserved i request actor hcall hopen hstep | enqueued i request actor hcall hlives hstep =>
      exact (Actor.exchanges_step hstep).trans (List.append_nil _)
  | _ => rfl

/-- A step on a transport is a step of the system, and does to the transport what the record
    says. -/
theorem stepOn_cases (h : stepOn t config p action = some p') :
    (∃ action', step config p.1 action' = some p'.1) ∧ Exchanges t p.1 p'.1 p.2 p'.2 := by
  cases action with
  | actor a =>
      rw [stepOn] at h
      split at h
      · next hallows =>
          obtain ⟨q, hq, rfl⟩ := Option.map_eq_some_iff.1 h
          obtain ⟨⟨a', hsame, hactor⟩, hexchanges⟩ := actor_stepOn_cases hq
          refine ⟨⟨.actor a', ?_⟩, hexchanges⟩
          rw [step, if_pos (hsame.trans hallows), hactor]
          rfl
      · cases h
  | _ =>
      rw [stepOn_of_ne_actor (by simp)] at h
      obtain ⟨s, hs, rfl⟩ := Option.map_eq_some_iff.1 h
      exact ⟨⟨_, hs⟩, .none p.2 (exchanges_eq_step (by simp) hs)⟩

theorem ReachableOn.runtime (h : ReachableOn t config board p) : Reachable config p.1 := by
  refine StepMachine.Reachable.invariant (P := fun p => Reachable config p.1)
    (fun p hinit => .start hinit.1) ?_ h
  intro p action p' _ hs hst
  obtain ⟨⟨action', hstep⟩, -⟩ := stepOn_cases hst
  exact hs.next hstep

/-- **The invariant rule for what the transport has seen.** A property of the record and the
    transport that holds at the start and that every exchange preserves holds in every run. -/
theorem ReachableOn.exchanges {P : List (Exchange ε) → BoardState σ → Prop} (hstart : P [] board)
    (hperformed : ∀ exchanges board call, P exchanges board →
      P (exchanges ++ [.performed call (board.perform t call).1]) (board.perform t call).2)
    (hreceived : ∀ exchanges board, P exchanges board →
      P (exchanges ++ [.received (board.receive t).1]) (board.receive t).2)
    (h : ReachableOn t config board p) : P p.1.actor.exchanges p.2 := by
  refine StepMachine.Reachable.invariant (P := fun p => P p.1.actor.exchanges p.2) ?_ ?_ h
  · rintro ⟨s, b⟩ ⟨⟨channels, retained, now, -, -, rfl⟩, rfl⟩
    exact hstart
  · intro p action p' _ hs hst
    obtain ⟨-, hexchanges⟩ := stepOn_cases hst
    generalize p.2 = before at hs hexchanges
    generalize p'.2 = after at hexchanges ⊢
    cases hexchanges with
    | none heq => rwa [heq]
    | performed call heq =>
        rw [heq]
        exact hperformed _ _ call hs
    | received heq =>
        rw [heq]
        exact hreceived _ _ hs

end Step

end Runtime

end Tokio

end ChessnutMove
