import ChessnutMove.Tokio.Outcomes

set_option autoImplicit false

/-! # Spawning an actor

`spawn` of `transport/tokio.rs`: it rejects two zero capacities and creates the channels, which
tokio refuses to do for some capacities. Whether a configuration it accepts is safe depends on the
clock, since the deadline of a query is computed only when its write returns; `SpawnSafe` therefore
speaks of the runs up to a latest clock reading. The runtime is assumed to have its time driver, and
tokio's timer to take every deadline that is an `Instant`. -/

namespace ChessnutMove.Tokio

variable {ε : Type}

/-! ## Channel creation -/

/-- What `spawn` relies on of tokio's channel constructors: for which capacities they do not
    return. -/
structure Constructors where
  /-- `usize::MAX`. -/
  usizeMax : Nat
  /-- `tokio::sync::mpsc::channel` panics. -/
  mpscPanics : Nat → Bool
  /-- `tokio::sync::broadcast::channel` panics, or fails to allocate its slots. -/
  broadcastPanics : Nat → Bool
  /-- Documented: it panics for zero and above `Semaphore::MAX_PERMITS`. -/
  mpsc_limits : ∀ capacity, capacity = 0 ∨ usizeMax / 2 ^ 3 < capacity → mpscPanics capacity = true
  /-- Documented: it panics for zero and above half the range of `usize`. -/
  broadcast_limits : ∀ capacity, capacity = 0 ∨ usizeMax / 2 < capacity →
    broadcastPanics capacity = true

/-- Constructors that return within the documented limits as long as `slots` slots can be
    allocated. -/
def Constructors.allocating (usizeMax slots : Nat) : Constructors where
  usizeMax
  mpscPanics capacity := capacity = 0 ∨ usizeMax / 2 ^ 3 < capacity
  broadcastPanics capacity := capacity = 0 ∨ usizeMax / 2 < capacity ∨ slots < capacity
  mpsc_limits _ h := decide_eq_true h
  broadcast_limits _ h := decide_eq_true (h.imp_right .inl)

/-- How a call of `spawn` ends. -/
inductive Spawned
  | rejected (error : SpawnError)
  | panicked
  /-- The task runs, from `runActor`. -/
  | started
  deriving DecidableEq

/-- `spawn`, called inside a runtime. -/
def spawn (channels : Constructors) (config : ActorConfig) : Spawned :=
  if config.commandCapacity = 0 then
    .rejected .zeroCommandCapacity
  else if config.eventCapacity = 0 then
    .rejected .zeroEventCapacity
  else if channels.mpscPanics config.commandCapacity then
    .panicked
  else if channels.broadcastPanics config.eventCapacity then
    .panicked
  else
    .started

namespace Actor

/-! ## The clock -/

/-- Nothing in the log is later than the clock. -/
theorem time_le_now {config : ActorConfig} {s : Actor ε} (h : Reachable config s) {entry : Entry ε}
    (hmem : entry ∈ s.log) : entry.time.nanos ≤ s.now.nanos := by
  refine h.induct (P := fun s => ∀ entry ∈ s.log, entry.time.nanos ≤ s.now.nanos) ?_ ?_ entry hmem
  · intro now entry hmem
    simp only [runActor, List.mem_cons, List.not_mem_nil, or_false] at hmem
    rcases hmem with rfl | rfl <;> exact Nat.le_refl _
  · intro s action s' _ hs hst entry hmem
    cases hst with
    | reserve | cloneHandle | dropHandle | handlesDropped | closeRequests => exact hs entry hmem
    | tick elapsed now hnow =>
        have hle := hs entry hmem
        show entry.time.nanos ≤ now.nanos
        omega
    | _ =>
        rcases List.mem_append.1 hmem with hmem | hmem
        · exact hs entry hmem
        · obtain ⟨event, -, rfl⟩ := List.mem_map.1 hmem
          exact Nat.le_refl _

/-! ## Safety -/

/-- `spawn` returns an error, or starts a task that panics in no run up to a clock reading. -/
def SpawnSafe (ε : Type) (channels : Constructors) (config : ActorConfig) (latest : Instant) :
    Prop :=
  match spawn channels config with
  | .rejected _ => True
  | .panicked => False
  | .started => ∀ s : Actor ε, Reachable config s → s.now.nanos ≤ latest.nanos →
      ∀ panic, s.phase ≠ .panicked panic

/-- Up to a clock reading from which the timeout can be added, no run panics. -/
theorem not_panicked_of_fits {config : ActorConfig} {latest : Instant}
    (hfits : latest.Fits config.requestTimeout) {s : Actor ε} (h : Reachable config s)
    (hnow : s.now.nanos ≤ latest.nanos) (panic : Panic) : s.phase ≠ .panicked panic := by
  intro hphase
  obtain ⟨-, query, written, hw, hover⟩ := panicked_cause h hphase
  have hle := time_le_now h hw
  apply hover
  unfold Instant.Fits at hfits ⊢
  simp only at hle
  omega

/-- The successful return of a query write panics when the deadline does not exist. -/
theorem step_overflow {config : ActorConfig} {s : Actor ε} {query : QueryRequest}
    (hphase : s.phase = .startingQuery query) (hover : ¬ s.now.Fits config.requestTimeout) :
    step config s (.callReturned (.ok ())) = some ((s.record
      [.returned (.writeCommand query.command) (some (.query query)) (.ok ())]).unwind
        .deadlineOverflow) := by
  simp only [step, callReturned, hphase, startQueryReturned, now_record,
    Instant.checkedAdd_eq_none_iff.2 hover]

/-- A task that starts when the timeout cannot be added any more panics at its first query. -/
theorem exists_panicked {config : ActorConfig} {now : Instant}
    (hcapacity : 0 < config.commandCapacity) (hover : ¬ now.Fits config.requestTimeout) :
    ∃ s : Actor ε, Reachable config s ∧ s.now = now ∧ s.phase = .panicked .deadlineOverflow := by
  obtain ⟨commandCapacity, eventCapacity, queryCapacity, requestTimeout⟩ := config
  obtain ⟨n, rfl⟩ : ∃ n, commandCapacity = n + 1 := ⟨_, (Nat.succ_pred_eq_of_pos hcapacity).symm⟩
  obtain ⟨t, hrun, hphase, hnow⟩ :
      ∃ t : Actor ε, runFrom ⟨n + 1, eventCapacity, queryCapacity, requestTimeout⟩ now
          [.callReturned (.ok ()), .callReturned (.ok ()), .callReturned (.ok ()), .proceed,
            .reserve, .enqueue .batteryStatus, .receive] = some t ∧
        t.phase = .startingQuery (.battery 0) ∧ t.now = now :=
    ⟨_, rfl, rfl, rfl⟩
  exact ⟨_, (Reachable.of_runFrom hrun).next (step_overflow hphase (hnow ▸ hover)), hnow, rfl⟩

/-- **Which configurations cannot panic up to a clock reading**: those `spawn` rejects for a zero
    capacity, and those whose channels tokio creates, which lie within the documented limits, and
    whose timeout can be added to every clock reading up to that one. -/
theorem spawnSafe_iff (channels : Constructors) (config : ActorConfig) (latest : Instant) :
    SpawnSafe ε channels config latest ↔
      config.commandCapacity = 0 ∨ config.eventCapacity = 0 ∨
        (config.commandCapacity ≤ channels.usizeMax / 2 ^ 3 ∧
          channels.mpscPanics config.commandCapacity = false) ∧
        (config.eventCapacity ≤ channels.usizeMax / 2 ∧
          channels.broadcastPanics config.eventCapacity = false) ∧
        latest.Fits config.requestTimeout := by
  unfold SpawnSafe spawn
  by_cases hcommand : config.commandCapacity = 0
  · simp [hcommand]
  by_cases hevent : config.eventCapacity = 0
  · simp [hcommand, hevent]
  rw [if_neg hcommand, if_neg hevent]
  cases hmpsc : channels.mpscPanics config.commandCapacity with
  | true => simp [hcommand, hevent]
  | false =>
      cases hbroadcast : channels.broadcastPanics config.eventCapacity with
      | true => simp [hcommand, hevent]
      | false =>
          -- a channel that is created lies within the documented limits
          have hpermits : config.commandCapacity ≤ channels.usizeMax / 2 ^ 3 := by
            by_contra habove
            have hpanics := channels.mpsc_limits _ (.inr (Nat.lt_of_not_le habove))
            exact absurd (hmpsc.symm.trans hpanics) (by simp)
          have hhalf : config.eventCapacity ≤ channels.usizeMax / 2 := by
            by_contra habove
            have hpanics := channels.broadcast_limits _ (.inr (Nat.lt_of_not_le habove))
            exact absurd (hbroadcast.symm.trans hpanics) (by simp)
          simp only [hcommand, hevent, hpermits, hhalf, true_and, false_or, Bool.false_eq_true,
            if_false]
          constructor
          · intro hsafe
            by_contra hover
            obtain ⟨s, hreach, hnow, hphase⟩ :=
              @exists_panicked ε _ _ (Nat.pos_of_ne_zero hcommand) hover
            exact hsafe s hreach (hnow ▸ Nat.le_refl _) _ hphase
          · intro hfits s hreach hnow panic
            exact not_panicked_of_fits hfits hreach hnow panic

/-- `spawn` accepts the default capacities with the largest timeout, and the first written query
    panics the task before any cleanup call. -/
theorem unboundedTimeout_panics :
    spawn (.allocating (2 ^ 64 - 1) 1024) unboundedTimeout = .started ∧
      ∃ s, runFrom unboundedTimeout .zero firstQueryRun = some s ∧
        s.phase = .panicked .deadlineOverflow ∧
        .called shutdownTransport.first none ∉ s.events :=
  ⟨by decide, _, rfl, rfl, by decide⟩

end Actor

end ChessnutMove.Tokio
