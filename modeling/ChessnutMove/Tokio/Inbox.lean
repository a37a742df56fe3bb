import ChessnutMove.Tokio.Steps

set_option autoImplicit false

/-! # The actor and the inbox of its transport

Notifications arrive whatever the actor does, wait in order, and `next_notification` takes the
oldest one. An `Environment` says which notifications may arrive in a state and which requests the
handles issue. Every arrival carries a stamp that the actor never sees: what the environment is
made to record about it. -/

namespace ChessnutMove.Tokio

variable {ε τ : Type}

structure Arrival (τ : Type) where
  stamp : τ
  notification : Notification
  deriving DecidableEq

structure Inbox (ε τ : Type) where
  actor : Actor ε
  /-- What waits, oldest first. -/
  waiting : List (Arrival τ)
  /-- What has arrived, oldest first. -/
  arrived : List (Arrival τ)

structure Environment (ε τ : Type) where
  issues : Request → Bool
  sends : Inbox ε τ → Arrival τ → Bool

inductive InboxAction (ε τ : Type)
  | arrive (arrival : Arrival τ)
  | act (action : Action ε)
  deriving DecidableEq

/-- The steps of the actor alone. -/
def InboxAction.ofActor : InboxAction ε τ → List (Action ε)
  | .arrive _ => []
  | .act action => [action]

namespace Inbox

/-- The transport receives a notification. -/
def arrive (t : Inbox ε τ) (arrival : Arrival τ) : Inbox ε τ :=
  { t with waiting := t.waiting ++ [arrival], arrived := t.arrived ++ [arrival] }

/-- `next_notification` returns the oldest notification that waits. -/
def take (config : ActorConfig) (t : Inbox ε τ) (notification : Notification) :
    Option (Inbox ε τ) :=
  match t.waiting with
  | oldest :: rest =>
      if oldest.notification = notification then
        (Actor.step config t.actor (.notification (.ok notification))).map
          fun actor => { t with actor, waiting := rest }
      else none
  | [] => none

/-- One step of the actor or of its environment. -/
def step (env : Environment ε τ) (config : ActorConfig) (t : Inbox ε τ) :
    InboxAction ε τ → Option (Inbox ε τ)
  | .arrive arrival => if env.sends t arrival then some (t.arrive arrival) else none
  | .act (.notification (.ok notification)) => t.take config notification
  | .act (.enqueue request) =>
      if env.issues request then
        (Actor.step config t.actor (.enqueue request)).map fun actor => { t with actor }
      else none
  | .act action => (Actor.step config t.actor action).map fun actor => { t with actor }

/-- The actor as spawned at a clock reading, with an empty inbox. -/
def start (config : ActorConfig) (now : Instant) : Inbox ε τ := ⟨Actor.runActor config now, [], []⟩

/-- The state a schedule leads to when the task starts at `now`. -/
def runFrom (env : Environment ε τ) (config : ActorConfig) (now : Instant)
    (schedule : List (InboxAction ε τ)) : Option (Inbox ε τ) :=
  StepMachine.run (step env config) (start config now) schedule

/-- The states of the actor and its inbox in every run. -/
def Reachable (env : Environment ε τ) (config : ActorConfig) (t : Inbox ε τ) : Prop :=
  StepMachine.Reachable (fun t => ∃ now, t = start config now) (step env config) t

section Step

variable {env : Environment ε τ} {config : ActorConfig} {t t' : Inbox ε τ}
  {action : InboxAction ε τ}

theorem reachable_start (now : Instant) :
    Reachable env config (start (ε := ε) (τ := τ) config now) :=
  .start ⟨now, rfl⟩

theorem Reachable.of_runFrom {now : Instant} {schedule : List (InboxAction ε τ)}
    (h : runFrom env config now schedule = some t) : Reachable env config t :=
  (reachable_start now).ofRun h

/-- What a step does: a notification arrives, the actor takes the oldest one that waits, or the
    actor takes another step. -/
inductive Transition (env : Environment ε τ) (config : ActorConfig) (t : Inbox ε τ) :
    InboxAction ε τ → Inbox ε τ → Prop
  | arrive (arrival : Arrival τ) (hsends : env.sends t arrival = true) :
      Transition env config t (.arrive arrival) (t.arrive arrival)
  | take (oldest : Arrival τ) (rest : List (Arrival τ)) (actor : Actor ε)
      (hwaiting : t.waiting = oldest :: rest)
      (h : Actor.Transition config t.actor (.notification (.ok oldest.notification)) actor) :
      Transition env config t (.act (.notification (.ok oldest.notification)))
        { t with actor, waiting := rest }
  | act (action : Action ε) (actor : Actor ε)
      (hother : ∀ notification, action ≠ .notification (.ok notification))
      (hissues : ∀ request, action = .enqueue request → env.issues request = true)
      (h : Actor.Transition config t.actor action actor) :
      Transition env config t (.act action) { t with actor }

theorem transition_of_step (h : step env config t action = some t') :
    Transition env config t action t' := by
  unfold step at h
  split at h
  · next arrival =>
      split at h
      · next hsends => exact Option.some.inj h ▸ .arrive arrival hsends
      · cases h
  · next notification =>
      unfold take at h
      split at h
      · next oldest rest hwaiting =>
          split at h
          · next hsame =>
              obtain ⟨actor, hactor, rfl⟩ := Option.map_eq_some_iff.1 h
              subst hsame
              exact .take oldest rest actor hwaiting (Actor.transition_of_step hactor)
          · cases h
      · cases h
  · next request =>
      split at h
      · next hissues =>
          obtain ⟨actor, hactor, rfl⟩ := Option.map_eq_some_iff.1 h
          refine .act _ actor (fun notification => by simp) ?_ (Actor.transition_of_step hactor)
          intro request' heq
          exact Action.enqueue.inj heq ▸ hissues
      · cases h
  · next action hnotification henqueue =>
      obtain ⟨actor, hactor, rfl⟩ := Option.map_eq_some_iff.1 h
      refine .act action actor (fun notification heq => hnotification notification heq) ?_
        (Actor.transition_of_step hactor)
      intro request heq
      exact absurd heq (henqueue request)

/-- A step that the actor takes is a step of the actor alone. -/
theorem actor_step {a : Action ε} (h : step env config t (.act a) = some t') :
    Actor.step config t.actor a = some t'.actor := by
  have hmap : ∀ {a : Action ε} {f : Actor ε → Inbox ε τ}, (∀ actor, (f actor).actor = actor) →
      (Actor.step config t.actor a).map f = some t' →
      Actor.step config t.actor a = some t'.actor := by
    intro a f hf h
    obtain ⟨actor, hactor, rfl⟩ := Option.map_eq_some_iff.1 h
    rw [hf, hactor]
  unfold step at h
  split at h
  · next heq => cases heq
  · next notification heq =>
      obtain rfl := InboxAction.act.inj heq
      unfold take at h
      split at h
      · split at h
        · exact hmap (fun _ => rfl) h
        · cases h
      · cases h
  · next request heq =>
      obtain rfl := InboxAction.act.inj heq
      split at h
      · exact hmap (fun _ => rfl) h
      · cases h
  · next heq =>
      obtain rfl := InboxAction.act.inj heq
      exact hmap (fun _ => rfl) h

/-- Every run of the actor with its inbox is a run of the actor. -/
theorem Reachable.actor (h : Reachable env config t) : Actor.Reachable config t.actor := by
  have hstep : ∀ (t : Inbox ε τ) action t', step env config t action = some t' →
      StepMachine.run (Actor.step config) t.actor action.ofActor = some t'.actor := by
    intro t action t' hst
    cases action with
    | arrive arrival =>
        simp only [step] at hst
        split at hst
        · exact Option.some.inj hst ▸ rfl
        · cases hst
    | act action => exact StepMachine.run_cons_eq_some.2 ⟨_, actor_step hst, rfl⟩
  refine StepMachine.Reachable.project ?_ hstep h
  rintro t ⟨now, rfl⟩
  exact ⟨now, rfl⟩

/-- **The invariant rule of the inbox.** -/
theorem Reachable.induct {P : Inbox ε τ → Prop} (hstart : ∀ now, P (start config now))
    (hstep : ∀ t action t', Reachable env config t → P t → Transition env config t action t' → P t')
    (h : Reachable env config t) : P t := by
  refine StepMachine.Reachable.invariant ?_ ?_ h
  · rintro t ⟨now, rfl⟩
    exact hstart now
  · intro t action t' hreach hs hst
    exact hstep t action t' hreach hs (transition_of_step hst)

/-- What has happened and what has arrived is only added to. -/
theorem grows (h : Transition env config t action t') :
    (∃ es, t'.actor.log = t.actor.log ++ es) ∧ ∃ more, t'.arrived = t.arrived ++ more := by
  cases h with
  | arrive arrival hsends => exact ⟨⟨[], (List.append_nil _).symm⟩, [arrival], rfl⟩
  | take oldest rest actor hwaiting h =>
      exact ⟨Actor.log_step h, [], (List.append_nil _).symm⟩
  | act action actor hother hissues h =>
      exact ⟨Actor.log_step h, [], (List.append_nil _).symm⟩

/-- What waits is the end of what has arrived. -/
theorem waiting_suffix (h : Reachable env config t) : t.waiting <:+ t.arrived := by
  refine h.induct (P := fun t => t.waiting <:+ t.arrived) (fun _ => List.suffix_rfl) ?_
  intro t action t' _ hs hst
  cases hst with
  | arrive arrival hsends =>
      obtain ⟨taken, htaken⟩ := hs
      exact ⟨taken, by simp [arrive, ← htaken]⟩
  | take oldest rest actor hwaiting h =>
      rw [hwaiting] at hs
      exact (List.suffix_cons oldest rest).trans hs
  | act => exact hs

end Step

/-- The first query of a run is written and the actor waits. -/
def queryWaits : List (InboxAction Unit τ) :=
  [.act (.callReturned (.ok ())), .act (.callReturned (.ok ())), .act (.callReturned (.ok ())),
    .act .proceed, .act .reserve, .act (.enqueue .batteryStatus), .act .receive,
    .act (.callReturned (.ok ())), .act .proceed]

end Inbox

end ChessnutMove.Tokio
