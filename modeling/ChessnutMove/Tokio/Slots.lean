import ChessnutMove.Tokio.Steps

set_option autoImplicit false

/-! # Where a request can wait

A request of the actor waits in the channel, in `pendingQuery`, in `queuedQueries`, in
`shutdownReply`, or in the write the task is suspended at. `Slots` says what every phase promises
about these places: which are empty, and that a query waits in the queue only behind an active one
whenever the task is in `select!`. -/

namespace ChessnutMove.Tokio.Actor

variable {ε : Type}

/-- What the phase promises about the places a request can wait in. -/
def Slots (s : Actor ε) : Prop :=
  match s.phase with
  | .initializing _ => s.pendingQuery = none ∧ s.queuedQueries = [] ∧ s.shutdownReply = none
  | .loopTop => s.shutdownReply = none
  | .startingQuery _ => s.pendingQuery = none ∧ s.shutdownReply = none
  | .selecting | .sending _ _ =>
      (s.pendingQuery = none → s.queuedQueries = []) ∧ s.shutdownReply = none
  | .leaving | .closing => True
  | .rejecting => s.requestRx.closed = true
  | .cleaningUp _ | .finishing =>
      s.pendingQuery = none ∧ s.queuedQueries = [] ∧ s.requestRx.queue = [] ∧
        s.requestRx.closed = true
  | .returned | .panicked _ =>
      s.pendingQuery = none ∧ s.queuedQueries = [] ∧ s.requestRx.queue = [] ∧
        s.requestRx.closed = true ∧ s.shutdownReply = none

theorem slots_step {config : ActorConfig} {s s' : Actor ε} {action : Action ε} (hs : Slots s)
    (h : Transition config s action s') : Slots s' := by
  cases h with
  | enqueue request hreceives h =>
      unfold Slots at hs ⊢
      cases hphase : s.phase <;> simp_all [Phase.receives]
  | reserve h => exact hs
  | cloneHandle h => exact hs
  | dropHandle h => exact hs
  | tick elapsed now h => exact hs
  | _ => simp_all [Slots, unwind]

theorem slots {config : ActorConfig} {s : Actor ε} (h : Reachable config s) : Slots s := by
  refine h.induct ?_ ?_
  · intro now
    exact ⟨rfl, rfl, rfl⟩
  · intro s action s' _ hs hst
    exact slots_step hs hst

end ChessnutMove.Tokio.Actor
