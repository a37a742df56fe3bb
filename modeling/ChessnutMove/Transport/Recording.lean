import ChessnutMove.Transport.Session

set_option autoImplicit false

/-! # What a session does to its transport

`Simulates` relates two transports that cannot be told apart by their answers; the sessions over
them then return the same results. `recorded` is a transport that keeps a list of its own exchanges,
and the session over it simulates the session over the bare transport. `performAll` is the meaning
of calls that are awaited one after another, each followed by `?`. -/

namespace ChessnutMove

variable {σ τ ε : Type}

/-! ## Simulation -/

/-- Related sessions get the same answers from their transports and stay related. -/
structure Simulates (t : Transport σ ε) (t' : Transport τ ε)
    (R : BoardState σ → BoardState τ → Prop) : Prop where
  perform : ∀ {board board'}, R board board' → ∀ call,
    (board.perform t call).1 = (board'.perform t' call).1 ∧
      R (board.perform t call).2 (board'.perform t' call).2
  receive : ∀ {board board'}, R board board' →
    (board.receive t).1 = (board'.receive t').1 ∧ R (board.receive t).2 (board'.receive t').2

/-- The same result, and related sessions. -/
def Lockstep {ρ : Type} (R : BoardState σ → BoardState τ → Prop) (p : ρ × BoardState σ)
    (q : ρ × BoardState τ) : Prop :=
  p.1 = q.1 ∧ R p.2 q.2

/-- Mapping the results keeps sessions in lockstep. -/
theorem Lockstep.map {ρ ρ' : Type} {R : BoardState σ → BoardState τ → Prop}
    {p : ρ × BoardState σ} {q : ρ × BoardState τ} (h : Lockstep R p q) (f : ρ → ρ') :
    Lockstep R (p.map f id) (q.map f id) :=
  ⟨congrArg f h.1, h.2⟩

theorem lockstep_map_of_rel {ρ ρ' : Type} {R : BoardState σ → BoardState τ → Prop}
    {x : Option (ρ × BoardState σ)} {y : Option (ρ × BoardState τ)}
    (h : Option.Rel (Lockstep R) x y) (f : ρ → ρ') :
    Option.Rel (Lockstep R) (x.map (·.map f id)) (y.map (·.map f id)) := by
  cases h with
  | none => exact .none
  | some hresult => exact .some (hresult.map f)

theorem rel_bind {α β γ δ : Type} {P : α → β → Prop} {Q : γ → δ → Prop} {x : Option α}
    {y : Option β} {f : α → Option γ} {g : β → Option δ} (h : Option.Rel P x y)
    (hbind : ∀ a b, P a b → Option.Rel Q (f a) (g b)) : Option.Rel Q (x.bind f) (y.bind g) := by
  cases h with
  | none => exact .none
  | some hvalue => exact hbind _ _ hvalue

/-! ## Calls in sequence -/

/-- Transport calls one after another, up to the first that fails. -/
def performAll (t : Transport σ ε) :
    List TransportCall → BoardState σ → Except ε Unit × BoardState σ
  | [], board => (.ok (), board)
  | call :: calls, board =>
      match board.perform t call with
      | (.error error, board) => (.error error, board)
      | (.ok (), board) => performAll t calls board

theorem performAll_append {t : Transport σ ε} {completed : List TransportCall}
    {board next : BoardState σ} (h : performAll t completed board = (.ok (), next))
    (calls : List TransportCall) :
    performAll t (completed ++ calls) board = performAll t calls next := by
  induction completed generalizing board with
  | nil =>
      obtain ⟨-, rfl⟩ := Prod.mk.inj h
      rfl
  | cons call completed ih =>
      rw [List.cons_append, performAll]
      rw [performAll] at h
      generalize board.perform t call = reply at h ⊢
      obtain ⟨result, after⟩ := reply
      cases result with
      | error error => cases (Prod.mk.inj h).1
      | ok _ => exact ih h

/-- The calls of `initialize`. -/
def initializeCalls : List TransportCall :=
  [.subscribe .position, .writeCommand .enableRealtimeUpdates, .subscribe .commandResponse]

/-- The calls of `shutdown`. -/
def shutdownCalls : List TransportCall :=
  [.unsubscribe .commandResponse, .unsubscribe .position, .close]

namespace AsyncBoard

variable (t : Transport σ ε) (board : BoardState σ)

theorem send_eq (command : Command) :
    send t command board
      = (performAll t [.writeCommand command] board).map (.mapError .transport) id := by
  rcases hperform : board.perform t (.writeCommand command) with ⟨result, next⟩
  cases result <;> simp only [send, performAll, hperform] <;> rfl

theorem initializeBoard_eq :
    initializeBoard t board
      = (performAll t initializeCalls board).map (.mapError .transport) id := by
  simp only [initializeBoard, initializeCalls, performAll, send]
  rcases board.perform t (.subscribe .position) with ⟨result | _, first⟩
  · rfl
  rcases hwrite : first.perform t (.writeCommand .enableRealtimeUpdates) with ⟨result | _, second⟩
  · simp only [hwrite]
    rfl
  rcases hlast : second.perform t (.subscribe .commandResponse) with ⟨result | _, third⟩
  all_goals
    simp only [hwrite, Except.mapError, hlast]
    rfl

theorem shutdown_eq :
    shutdown t board = (performAll t shutdownCalls board).map (.mapError .transport) id := by
  simp only [shutdown, shutdownCalls, performAll]
  rcases board.perform t (.unsubscribe .commandResponse) with ⟨result | _, first⟩
  · rfl
  rcases hsecond : first.perform t (.unsubscribe .position) with ⟨result | _, second⟩
  · simp only [hsecond]
    rfl
  rcases hlast : second.perform t .close with ⟨result | _, third⟩
  all_goals
    simp only [hsecond, hlast]
    rfl

end AsyncBoard

section Lockstep

variable {t : Transport σ ε} {t' : Transport τ ε} {R : BoardState σ → BoardState τ → Prop}
  {board : BoardState σ} {board' : BoardState τ}

theorem performAll_simulates (h : Simulates t t' R) (hboard : R board board')
    (calls : List TransportCall) :
    Lockstep R (performAll t calls board) (performAll t' calls board') := by
  induction calls generalizing board board' with
  | nil => exact ⟨rfl, hboard⟩
  | cons call calls ih =>
      obtain ⟨hresult, hnext⟩ := h.perform hboard call
      rw [performAll, performAll]
      generalize board.perform t call = reply at hresult hnext ⊢
      generalize board'.perform t' call = reply' at hresult hnext ⊢
      obtain ⟨result, next⟩ := reply
      obtain ⟨result', next'⟩ := reply'
      obtain rfl : result = result' := hresult
      cases result with
      | error error => exact ⟨rfl, hnext⟩
      | ok _ => exact ih hnext

namespace AsyncBoard

theorem nextEvent_simulates (h : Simulates t t' R) (hboard : R board board') (fuel : Nat) :
    Option.Rel (Lockstep R) (nextEvent t fuel board) (nextEvent t' fuel board') := by
  induction fuel generalizing board board' with
  | zero => exact .none
  | succ fuel ih =>
      obtain ⟨hresult, hnext⟩ := h.receive hboard
      rw [nextEvent, nextEvent]
      generalize board.receive t = reply at hresult hnext ⊢
      generalize board'.receive t' = reply' at hresult hnext ⊢
      obtain ⟨result, next⟩ := reply
      obtain ⟨result', next'⟩ := reply'
      obtain rfl : result = result' := hresult
      cases result with
      | error error => exact .some ⟨rfl, hnext⟩
      | ok notification =>
          simp only
          cases decodeNotification notification with
          | error error => exact .some ⟨rfl, hnext⟩
          | ok decoded =>
              cases decoded with
              | event event => exact .some ⟨rfl, hnext⟩
              | realtimeUpdatesAcknowledged => exact ih hnext

theorem operation_simulates (h : Simulates t t' R) (hboard : R board board') (fuel : Nat)
    (call : SessionCall) :
    Option.Rel (Lockstep R) (operation t fuel call board) (operation t' fuel call board') := by
  cases call with
  | initializeBoard =>
      simp only [operation, initializeBoard_eq]
      exact .some (((performAll_simulates h hboard _).map _).map _)
  | send command =>
      simp only [operation, send_eq]
      exact .some (((performAll_simulates h hboard _).map _).map _)
  | nextEvent => exact lockstep_map_of_rel (nextEvent_simulates h hboard fuel) _
  | shutdown =>
      simp only [operation, shutdown_eq]
      exact .some (((performAll_simulates h hboard _).map _).map _)

/-- **Sessions over transports that answer alike** return the same results, operation by
    operation. -/
theorem run_simulates (h : Simulates t t' R) (hboard : R board board') (fuel : Nat)
    (calls : List SessionCall) :
    Option.Rel (Lockstep R) (run t fuel calls board) (run t' fuel calls board') := by
  induction calls generalizing board board' with
  | nil => exact .some ⟨rfl, hboard⟩
  | cons call calls ih =>
      simp only [run, runCalls, Option.bind_eq_bind] at ih ⊢
      refine rel_bind (operation_simulates h hboard fuel call) ?_
      rintro ⟨result, next⟩ ⟨result', next'⟩ ⟨rfl, hnext⟩
      refine rel_bind (ih hnext) ?_
      rintro ⟨results, last⟩ ⟨results', last'⟩ ⟨rfl, hlast⟩
      exact .some ⟨rfl, hlast⟩

end AsyncBoard

end Lockstep

/-! ## The record of a transport -/

/-- One call of the transport and how it ended. -/
inductive Exchange (ε : Type)
  | performed (call : TransportCall) (result : Except ε Unit)
  | received (result : Except ε Notification)
  deriving DecidableEq

/-- The transport that answers like `t` and keeps a list of its exchanges. -/
def recorded (t : Transport σ ε) : Transport (σ × List (Exchange ε)) ε where
  perform call state :=
    let (result, transport) := t.perform call state.1
    (result, (transport, state.2 ++ [.performed call result]))
  nextNotification state buffer :=
    let (result, transport, buffer) := t.nextNotification state.1 buffer
    (result, (transport, state.2 ++ [.received result]), buffer)

/-- The session whose transport has recorded these exchanges. -/
def BoardState.withRecord (board : BoardState σ) (record : List (Exchange ε)) :
    BoardState (σ × List (Exchange ε)) where
  transport := (board.transport, record)
  notificationBuffer := board.notificationBuffer

section Recorded

variable (t : Transport σ ε) (board : BoardState σ) (record : List (Exchange ε))

@[simp] theorem perform_recorded (call : TransportCall) :
    (board.withRecord record).perform (recorded t) call
      = ((board.perform t call).1, (board.perform t call).2.withRecord
          (record ++ [.performed call (board.perform t call).1])) :=
  rfl

@[simp] theorem receive_recorded :
    (board.withRecord record).receive (recorded t)
      = ((board.receive t).1,
          (board.receive t).2.withRecord (record ++ [.received (board.receive t).1])) :=
  rfl

/-- The record changes no answer. -/
theorem recorded_simulates :
    Simulates t (recorded t) fun board board' => ∃ record, board' = board.withRecord record where
  perform := by
    rintro board board' ⟨record, rfl⟩ call
    exact ⟨rfl, _, rfl⟩
  receive := by
    rintro board board' ⟨record, rfl⟩
    exact ⟨rfl, _, rfl⟩

/-- The exchanges of calls that stop at the first failure. -/
def attempts (t : Transport σ ε) : List TransportCall → BoardState σ → List (Exchange ε)
  | [], _ => []
  | call :: calls, board =>
      match board.perform t call with
      | (.error error, _) => [.performed call (.error error)]
      | (.ok (), board) => .performed call (.ok ()) :: attempts t calls board

/-- Completed calls are neither repeated nor undone: the transport sees the calls in order, each
    once, up to the first failure. -/
theorem performAll_recorded (calls : List TransportCall) :
    performAll (recorded t) calls (board.withRecord record)
      = ((performAll t calls board).1,
          (performAll t calls board).2.withRecord (record ++ attempts t calls board)) := by
  induction calls generalizing board record with
  | nil => simp [performAll, attempts]
  | cons call calls ih =>
      rw [performAll, performAll, attempts, perform_recorded]
      rcases board.perform t call with ⟨result, next⟩
      cases result with
      | error error => rfl
      | ok _ => simp only [ih, List.append_assoc, List.singleton_append]

end Recorded

end ChessnutMove
