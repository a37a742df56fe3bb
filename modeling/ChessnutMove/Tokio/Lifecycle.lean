import ChessnutMove.Library.Watch
import ChessnutMove.Tokio.Noninterference
import ChessnutMove.Tokio.Streams

set_option autoImplicit false

/-! # Watching the lifecycle

The actor publishes its lifecycle on a watch channel that keeps the latest state only. Handles read
it in `send_message`, and `subscribe_lifecycle` hands out receivers that can wait for changes. The
states only go forward, and so does what a receiver reads; it may skip states, but it is told of the
last one before it is told that the task is gone. -/

namespace ChessnutMove.Tokio

variable {ε : Type}

/-- How far the lifecycle has come. -/
def LifecycleState.rank : LifecycleState → Nat
  | .starting => 0
  | .running => 1
  | .shuttingDown => 2
  | .stopped | .faulted => 3

theorem LifecycleState.rank_lt (state : LifecycleState) : state.rank < 4 := by
  cases state <;> decide

namespace Actor

/-! ## The published states -/

/-- The states published on the watch, the first one included. -/
def lifecycleStates (s : Actor ε) : List LifecycleState := s.events.filterMap Event.lifecycleState

/-- The state that belongs to a phase. -/
def Announces (s : Actor ε) : Prop :=
  match s.phase with
  | .initializing _ => s.lifecycle = .starting
  | .loopTop | .startingQuery _ | .selecting | .sending _ _ | .panicked _ => s.lifecycle = .running
  | .leaving => s.lifecycle = .starting ∨ s.lifecycle = .running
  | .closing | .rejecting | .cleaningUp _ | .finishing => s.lifecycle = .shuttingDown
  | .returned => s.lifecycle = .stopped ∨ s.lifecycle = .faulted

section Step

variable {config : ActorConfig} {s s' : Actor ε} {action : Action ε}

theorem announces (h : Reachable config s) : Announces s := by
  refine h.induct (P := Announces) (fun _ => rfl) ?_
  intro s action s' _ hs hst
  cases hst with
  | reserve | enqueue | cloneHandle | dropHandle | tick => exact hs
  | finish hphase =>
      show (if s.result.isOk then LifecycleState.stopped else .faulted) = .stopped ∨ _
      split
      · exact .inl rfl
      · exact .inr rfl
  | _ => simp_all [Announces, unwind]

/-- A step publishes one state at most, and a later one. -/
theorem lifecycleStates_step (hreach : Reachable config s) (h : Transition config s action s') :
    s'.lifecycleStates = s.lifecycleStates ∧ s'.lifecycle = s.lifecycle ∨
      s'.lifecycleStates = s.lifecycleStates ++ [s'.lifecycle] ∧
        s.lifecycle.rank < s'.lifecycle.rank := by
  have hannounces := announces hreach
  unfold Announces at hannounces
  cases h with
  | reserve | cloneHandle | dropHandle | tick | handlesDropped | closeRequests =>
      exact .inl ⟨rfl, rfl⟩
  | initialized last hphase =>
      rw [hphase] at hannounces
      refine .inr ⟨?_, ?_⟩
      · rw [lifecycleStates, events_record, List.filterMap_append]
        rfl
      · rw [show s.lifecycle = .starting from hannounces]
        exact Nat.zero_lt_one
  | shutDown hphase =>
      rw [hphase] at hannounces
      refine .inr ⟨?_, ?_⟩
      · rw [lifecycleStates, events_record, List.filterMap_append]
        rfl
      · show s.lifecycle.rank < 2
        rcases hannounces with heq | heq <;> rw [heq] <;> decide
  | finish hphase =>
      rw [hphase] at hannounces
      refine .inr ⟨?_, ?_⟩
      · rw [lifecycleStates, events_record, List.filterMap_append]
        cases s.shutdownReply <;> rfl
      · rw [show s.lifecycle = .shuttingDown from hannounces]
        show 2 < (if s.result.isOk then LifecycleState.stopped else .faulted).rank
        split <;> decide
  | observed notification hphase hanswer =>
      refine .inl ⟨?_, rfl⟩
      rw [lifecycleStates, events_record, List.filterMap_append]
      cases observe notification <;> exact List.append_nil _
  | _ =>
      refine .inl ⟨?_, rfl⟩
      rw [lifecycleStates, events_record, List.filterMap_append]
      exact List.append_nil _

/-- The first state is published before the task starts. -/
theorem lifecycleStates_cons (h : Reachable config s) :
    s.lifecycleStates = .starting :: s.lifecycleStates.tail := by
  refine h.induct (P := fun s => s.lifecycleStates = .starting :: s.lifecycleStates.tail)
    (fun _ => rfl) ?_
  intro s action s' hreach hs hst
  rcases lifecycleStates_step hreach hst with ⟨hstates, -⟩ | ⟨hstates, -⟩
  · rwa [hstates]
  · rw [hstates, hs]
    rfl

/-- The published states go forward, and the watch holds the last of them. -/
theorem lifecycle_forward (h : Reachable config s) :
    ∃ before, s.lifecycleStates = before ++ [s.lifecycle] ∧
      s.lifecycleStates.Pairwise (fun a b => a.rank < b.rank) := by
  refine h.induct (P := fun s => ∃ before, s.lifecycleStates = before ++ [s.lifecycle] ∧
    s.lifecycleStates.Pairwise (fun a b => a.rank < b.rank)) ?_ ?_
  · intro now
    exact ⟨[], rfl, List.pairwise_singleton _ _⟩
  · rintro s action s' hreach ⟨before, heq, hsorted⟩ hst
    rcases lifecycleStates_step hreach hst with ⟨hstates, hsame⟩ | ⟨hstates, hlt⟩
    · exact ⟨before, by rw [hstates, heq, hsame], hstates ▸ hsorted⟩
    · refine ⟨s.lifecycleStates, hstates, ?_⟩
      rw [hstates, List.pairwise_append]
      refine ⟨hsorted, List.pairwise_singleton _ _, ?_⟩
      intro a ha b hb
      obtain rfl := List.mem_singleton.1 hb
      rw [heq] at ha hsorted
      rcases List.mem_append.1 ha with ha | ha
      · exact Nat.lt_trans ((List.pairwise_append.1 hsorted).2.2 a ha _ List.mem_cons_self) hlt
      · exact List.mem_singleton.1 ha ▸ hlt

/-- At most four states are published. -/
theorem length_lifecycleStates_le (h : Reachable config s) : s.lifecycleStates.length ≤ 4 := by
  obtain ⟨before, -, hsorted⟩ := lifecycle_forward h
  have hnodup : (s.lifecycleStates.map LifecycleState.rank).Nodup := by
    rw [List.Nodup, List.pairwise_map]
    exact hsorted.imp Nat.ne_of_lt
  have hsubset : s.lifecycleStates.map LifecycleState.rank ⊆ List.range 4 := by
    intro rank hmem
    obtain ⟨state, -, rfl⟩ := List.mem_map.1 hmem
    exact List.mem_range.2 (LifecycleState.rank_lt state)
  have hlength := (List.subperm_of_subset hnodup hsubset).length_le
  rwa [List.length_map, List.length_range] at hlength

end Step

end Actor

/-! ## Receivers -/

/-- The watch channel; it is closed when its sender is dropped with the task. -/
def Runtime.lifecycleTx (s : Runtime ε) : Watch LifecycleState :=
  let watch := s.actor.lifecycleStates.tail.foldl .sendReplace (.new .starting)
  if s.isOver then watch.close else watch

/-- The system with the receivers that `subscribe_lifecycle` handed out. -/
structure Watched (ε : Type) where
  runtime : Runtime ε
  receivers : List (Watch.Receiver LifecycleState)

inductive WatchedAction (ε : Type)
  | runtime (action : RuntimeAction ε)
  | subscribeLifecycle
  | changed (k : Nat)
  | borrow (k : Nat)
  | borrowAndUpdate (k : Nat)

namespace Watched

def setReceiver (w : Watched ε) (k : Nat) (receiver : Watch.Receiver LifecycleState) : Watched ε :=
  { w with receivers := w.receivers.set k receiver }

/-- One step of the system or of a receiver. `subscribe_lifecycle` clones the receiver of a handle,
    which only ever borrows and so has marked nothing but the first state as seen. -/
def step (config : ActorConfig) (w : Watched ε) : WatchedAction ε → Option (Watched ε)
  | .runtime action =>
      (Runtime.step config w.runtime action).map fun runtime => { w with runtime }
  | .subscribeLifecycle =>
      if 0 < w.runtime.actor.requestRx.senders then
        some { w with receivers := w.receivers ++ [⟨0, []⟩] }
      else none
  | .changed k =>
      w.receivers[k]?.bind fun receiver =>
        (receiver.changed w.runtime.lifecycleTx).map (w.setReceiver k)
  | .borrow k =>
      w.receivers[k]?.map fun receiver => w.setReceiver k (receiver.borrow w.runtime.lifecycleTx)
  | .borrowAndUpdate k =>
      w.receivers[k]?.map fun receiver =>
        w.setReceiver k (receiver.borrowAndUpdate w.runtime.lifecycleTx)

/-- The initial states, one for every successful `spawn`. -/
def Init (config : ActorConfig) (w : Watched ε) : Prop :=
  Runtime.Init config w.runtime ∧ w.receivers = []

/-- The states of the system in every run. -/
def Reachable (config : ActorConfig) (w : Watched ε) : Prop :=
  StepMachine.Reachable (Init config) (step config) w

end Watched

section Step

variable {config : ActorConfig} {s s' : Runtime ε} {action : RuntimeAction ε} {w w' : Watched ε}

theorem Runtime.lifecycleTx_closed (s : Runtime ε) : s.lifecycleTx.closed = s.isOver := by
  unfold lifecycleTx
  split
  · next hover => exact hover.symm
  · next hover =>
      rw [Watch.closed_foldl_sendReplace]
      exact (Bool.eq_false_of_not_eq_true hover).symm

theorem Runtime.lifecycleTx_keeps (h : Runtime.Reachable config s) :
    s.lifecycleTx.Keeps s.actor.lifecycleStates := by
  have hkeeps := (Watch.keeps_new LifecycleState.starting).foldl_sendReplace
    s.actor.lifecycleStates.tail
  rw [List.singleton_append, ← Actor.lifecycleStates_cons h.actor] at hkeeps
  unfold lifecycleTx
  split
  · exact hkeeps.close
  · exact hkeeps

/-- The channel holds what `BoardHandle::lifecycle` reads. -/
theorem Runtime.lifecycleTx_value (h : Runtime.Reachable config s) :
    s.lifecycleTx.value = s.actor.lifecycle := by
  obtain ⟨before, hstates, -⟩ := Actor.lifecycle_forward h.actor
  obtain ⟨hlength, hvalue⟩ := Runtime.lifecycleTx_keeps h
  rw [hstates, List.length_append, List.length_singleton, Nat.add_right_cancel_iff] at hlength
  rw [hstates, ← hlength, List.getElem?_concat_length] at hvalue
  exact (Option.some.inj hvalue).symm

/-- A step of the system in the eyes of a receiver. -/
theorem follows_step (hreach : Runtime.Reachable config s)
    (hst : Runtime.step config s action = some s') {receiver : Watch.Receiver LifecycleState}
    (hs : s.lifecycleTx.Follows s.actor.lifecycleStates receiver) :
    s'.lifecycleTx.Follows s'.actor.lifecycleStates receiver := by
  have h := Runtime.transition_of_step hst
  obtain ⟨more, hmore⟩ : ∃ more,
      s'.actor.lifecycleStates = s.actor.lifecycleStates ++ more := by
    rcases Runtime.actor_step h with heq | ⟨a, hstep, -⟩
    · exact ⟨[], by rw [heq, List.append_nil]⟩
    · rcases Actor.lifecycleStates_step hreach.actor hstep with ⟨hsame, -⟩ | ⟨hnew, -⟩
      · exact ⟨[], by rw [hsame, List.append_nil]⟩
      · exact ⟨_, hnew⟩
  have hkeeps' := Runtime.lifecycleTx_keeps (hreach.next hst)
  rw [hmore] at hkeeps' ⊢
  refine hs.grow (Runtime.lifecycleTx_keeps hreach) hkeeps' ?_
  intro hclosed
  rw [Runtime.lifecycleTx_closed] at hclosed ⊢
  refine ⟨Runtime.isOver_step hreach hclosed h, ?_⟩
  have hsame : s'.actor.lifecycleStates = s.actor.lifecycleStates := by
    rw [Actor.lifecycleStates, (Runtime.idles_of_isOver hreach hclosed h).events]
    rfl
  rw [hsame] at hmore
  exact List.self_eq_append_right.1 hmore

namespace Watched

theorem Reachable.runtime (h : Reachable config w) : Runtime.Reachable config w.runtime := by
  refine StepMachine.Reachable.invariant (P := fun w => Runtime.Reachable config w.runtime)
    (fun w hinit => .start hinit.1) ?_ h
  intro w action w' _ hs hst
  cases action with
  | runtime action =>
      obtain ⟨runtime, hruntime, rfl⟩ := Option.map_eq_some_iff.1 hst
      exact hs.next hruntime
  | subscribeLifecycle =>
      simp only [step] at hst
      split at hst
      · exact Option.some.inj hst ▸ hs
      · cases hst
  | changed k =>
      obtain ⟨receiver, -, hst⟩ := Option.bind_eq_some_iff.1 hst
      obtain ⟨receiver', -, rfl⟩ := Option.map_eq_some_iff.1 hst
      exact hs
  | borrow k | borrowAndUpdate k =>
      obtain ⟨receiver, -, rfl⟩ := Option.map_eq_some_iff.1 hst
      exact hs

/-- Every receiver has been told a part of the truth. -/
def Faithful (w : Watched ε) : Prop :=
  ∀ receiver ∈ w.receivers,
    w.runtime.lifecycleTx.Follows w.runtime.actor.lifecycleStates receiver

theorem Faithful.setReceiver (hs : Faithful w) {k : Nat} {receiver : Watch.Receiver LifecycleState}
    (hreceiver : w.runtime.lifecycleTx.Follows w.runtime.actor.lifecycleStates receiver) :
    Faithful (w.setReceiver k receiver) := by
  intro other hmem
  rcases List.mem_or_eq_of_mem_set hmem with hmem | rfl
  · exact hs other hmem
  · exact hreceiver

theorem faithful (h : Reachable config w) : Faithful w := by
  refine StepMachine.Reachable.invariant (P := Faithful) ?_ ?_ h
  · rintro w ⟨-, hnone⟩ receiver hmem
    rw [hnone] at hmem
    cases hmem
  · intro w action w' hreach hs hst
    have hkeeps := Runtime.lifecycleTx_keeps (Reachable.runtime hreach)
    cases action with
    | runtime action =>
        obtain ⟨runtime, hruntime, rfl⟩ := Option.map_eq_some_iff.1 hst
        intro receiver hmem
        exact follows_step (Reachable.runtime hreach) hruntime (hs receiver hmem)
    | subscribeLifecycle =>
        simp only [step] at hst
        split at hst
        · obtain rfl := Option.some.inj hst
          intro receiver hmem
          rcases List.mem_append.1 hmem with hmem | hmem
          · exact hs receiver hmem
          · obtain rfl := List.mem_singleton.1 hmem
            exact Watch.follows_new _ _
        · cases hst
    | changed k =>
        obtain ⟨receiver, hget, hst⟩ := Option.bind_eq_some_iff.1 hst
        obtain ⟨receiver', hchanged, rfl⟩ := Option.map_eq_some_iff.1 hst
        exact hs.setReceiver ((hs receiver (List.mem_of_getElem? hget)).changed hchanged)
    | borrow k =>
        obtain ⟨receiver, hget, rfl⟩ := Option.map_eq_some_iff.1 hst
        exact hs.setReceiver ((hs receiver (List.mem_of_getElem? hget)).borrow hkeeps)
    | borrowAndUpdate k =>
        obtain ⟨receiver, hget, rfl⟩ := Option.map_eq_some_iff.1 hst
        exact hs.setReceiver ((hs receiver (List.mem_of_getElem? hget)).borrowAndUpdate hkeeps)

/-! ## What a receiver can rely on -/

/-- What the holder of a receiver can rely on. -/
structure Watches (config : ActorConfig) (w : Watched ε) (k : Nat)
    (receiver : Watch.Receiver LifecycleState) : Prop where
  /-- The published states go forward, and handles read the last of them. -/
  published : w.runtime.actor.lifecycleStates.Pairwise (fun a b => a.rank < b.rank) ∧
    w.runtime.actor.lifecycleStates.getLast? = some w.runtime.actor.lifecycle ∧
    w.runtime.lifecycleTx.value = w.runtime.actor.lifecycle
  /-- What it reads was published, and goes forward, too. -/
  values : receiver.values.Pairwise (fun a b => a.rank ≤ b.rank) ∧
    ∀ state ∈ receiver.values, state ∈ w.runtime.actor.lifecycleStates
  /-- It is woken at most three times. -/
  wakes : receiver.wakes ≤ 3
  /-- `changed` waits exactly while the task goes on and the latest state is marked as seen. -/
  waits : step config w (.changed k) = none ↔
    w.runtime.isOver = false ∧ receiver.seen + 1 = w.runtime.actor.lifecycleStates.length
  /-- It fails only once the task is gone and the last state is marked as seen. -/
  closed : .closed ∈ receiver.told →
    w.runtime.isOver = true ∧ receiver.seen + 1 = w.runtime.actor.lifecycleStates.length

/-- **Lifecycle receivers miss no end and never go back.** -/
theorem lifecycle_watched (h : Reachable config w) {k : Nat}
    {receiver : Watch.Receiver LifecycleState} (hget : w.receivers[k]? = some receiver) :
    Watches config w k receiver := by
  have hkeeps := Runtime.lifecycleTx_keeps h.runtime
  have hfollows := faithful h receiver (List.mem_of_getElem? hget)
  obtain ⟨before, hstates, hsorted⟩ := Actor.lifecycle_forward h.runtime.actor
  refine ⟨⟨hsorted, ?_, Runtime.lifecycleTx_value h.runtime⟩, ⟨?_, fun _ => hfollows.mem_history⟩,
    ?_, ?_, ?_⟩
  · rw [hstates, List.getLast?_concat]
  · exact hfollows.pairwise (fun _ => Nat.le_refl _) (hsorted.imp Nat.le_of_lt)
  · have hlength := Actor.length_lifecycleStates_le h.runtime.actor
    have hversion := hkeeps.length_eq
    have hseen := hfollows.seen_le
    have hwakes := hfollows.wakes_le
    omega
  · have hstep : step config w (.changed k)
        = (receiver.changed w.runtime.lifecycleTx).map (w.setReceiver k) := by
      simp only [step, hget, Option.bind_some]
    rw [hstep, Option.map_eq_none_iff, Watch.Receiver.changed_eq_none_iff,
      Runtime.lifecycleTx_closed, hkeeps.length_eq, Nat.add_right_cancel_iff, and_comm]
  · intro hclosed
    obtain ⟨hover, hseen⟩ := hfollows.closed hclosed
    rw [Runtime.lifecycleTx_closed] at hover
    exact ⟨hover, by rw [hseen, hkeeps.length_eq]⟩

/-- A receiver waits for the startup, and then for the end of a task that is cancelled. -/
def watchedRun : List (WatchedAction Unit) :=
  [.subscribeLifecycle, .borrow 0, .runtime (.actor (.callReturned (.ok ()))),
    .runtime (.actor (.callReturned (.ok ()))), .runtime (.actor (.callReturned (.ok ()))),
    .changed 0, .borrow 0, .runtime .abort, .runtime (.actor .proceed), .runtime .cancel,
    .changed 0]

theorem watchedRun_watches :
    ∃ w, StepMachine.run (step ActorConfig.default) ⟨Runtime.start ActorConfig.default 64 .zero, []⟩
        watchedRun = some w ∧
      w.receivers[0]? = some ⟨1, [.value .starting, .changed, .value .running, .closed]⟩ ∧
      Watches ActorConfig.default w 0
        ⟨1, [.value .starting, .changed, .value .running, .closed]⟩ := by
  have hrun : StepMachine.run (step ActorConfig.default)
      ⟨Runtime.start ActorConfig.default 64 .zero, []⟩ watchedRun = some _ := rfl
  have hinit : Init ActorConfig.default
      (⟨Runtime.start ActorConfig.default 64 .zero, []⟩ : Watched Unit) :=
    ⟨⟨.allocating (2 ^ 64 - 1) 1024, 64, .zero, by decide, by decide, rfl⟩, rfl⟩
  exact ⟨_, hrun, rfl, lifecycle_watched ⟨_, watchedRun, hinit, hrun⟩ rfl⟩

end Watched

end Step

end ChessnutMove.Tokio
