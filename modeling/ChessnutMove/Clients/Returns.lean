import ChessnutMove.Clients.Visits

set_option autoImplicit false

/-! # The clients return

The loops of a client end only if the board sends what they wait for or fails. A board that has
finitely many notifications to send does one or the other, so a client of it always returns, with an
outcome that more fuel does not change. -/

namespace ChessnutMove

open Journal

variable {σ ε : Type}

namespace Clients

/-- The variant bounds the number of notifications the board has left to send, and nothing that the
    client does gives it more. -/
structure Exhaustible (t : Transport σ ε) (observer : Observer σ) (variant : σ → Nat) : Prop where
  perform : ∀ call world, variant (t.perform call world).2 ≤ variant world
  received : ∀ world buffer, variant (t.nextNotification world buffer).2.1 ≤ variant world ∧
    ∀ notification, (t.nextNotification world buffer).1 = .ok notification →
      variant (t.nextNotification world buffer).2.1 < variant world
  boardBattery : ∀ status world, variant (observer.boardBattery status world) ≤ variant world
  pieceStatus : ∀ status world, variant (observer.pieceStatus status world) ≤ variant world
  positionChanged : ∀ position world,
    variant (observer.positionChanged position world) ≤ variant world

section Returns

variable {t : Transport σ ε} {observer : Observer σ} {variant : σ → Nat} {bound fuel : Nat}

theorem performAll_variant (h : Exhaustible t observer variant) (calls : List TransportCall)
    (board : BoardState σ) :
    variant (performAll t calls board).2.transport ≤ variant board.transport := by
  induction calls generalizing board with
  | nil => exact Nat.le_refl _
  | cons call calls ih =>
      have hfirst : variant (board.perform t call).2.transport ≤ variant board.transport :=
        h.perform call board.transport
      rw [performAll]
      generalize board.perform t call = reply at hfirst ⊢
      obtain ⟨result, next⟩ := reply
      cases result with
      | error error => exact hfirst
      | ok done => exact (ih next).trans hfirst

/-- By induction on the fuel: an acknowledgement decreases the variant. -/
theorem nextEvent_returns (h : Exhaustible t observer variant) {fuel : Nat} {board : BoardState σ}
    (hfuel : variant board.transport < fuel) :
    ∃ p, AsyncBoard.nextEvent t fuel board = some p ∧
      variant p.2.transport ≤ variant board.transport ∧
      ∀ event, p.1 = .ok event → variant p.2.transport < variant board.transport := by
  induction fuel generalizing board with
  | zero => cases hfuel
  | succ fuel ih =>
      obtain ⟨hle, hless⟩ := h.received board.transport board.notificationBuffer
      replace hle : variant (board.receive t).2.transport ≤ variant board.transport := hle
      replace hless : ∀ notification, (board.receive t).1 = .ok notification →
        variant (board.receive t).2.transport < variant board.transport := hless
      rcases hreceive : board.receive t with ⟨received, next⟩
      rw [hreceive] at hle hless
      cases received with
      | error error =>
          rw [AsyncBoard.nextEvent, hreceive]
          refine ⟨_, rfl, hle, fun event hevent => ?_⟩
          cases hevent
      | ok notification =>
          have hnext : variant next.transport < variant board.transport := hless notification rfl
          rw [AsyncBoard.nextEvent_of_receive hreceive]
          cases observe notification with
          | none =>
              have hfuel : variant next.transport < fuel := by omega
              obtain ⟨p, hp, hple, -⟩ := ih hfuel
              exact ⟨p, hp, hple.trans hle, fun _ _ => Nat.lt_of_le_of_lt hple hnext⟩
          | some value => exact ⟨_, rfl, hle, fun _ _ => hnext⟩

/-- A loop that waits for events. -/
theorem awaiting_returns (h : Exhaustible t observer variant)
    {tell : BoardEvent → Option (σ → σ)}
    (htell : ∀ event update, tell event = some update → ∀ world,
      variant (update world) ≤ variant world) (hfuel : bound ≤ fuel) :
    Returns (fun board => variant board.transport) bound
      (loop (round (AsyncBoard.session t) fuel tell) fuel) := by
  refine returns_loop (fun board hboard => ?_) hfuel
  obtain ⟨⟨result, next⟩, hnext, hle, hless⟩ :=
    nextEvent_returns h (Nat.lt_of_lt_of_le hboard hfuel)
  cases result with
  | error error =>
      exact ⟨(.error error, next), bind_eq_error_iff.2 (.inl hnext), hle, nofun⟩
  | ok event =>
      have hless : variant next.transport < variant board.transport := hless event rfl
      cases hevent : tell event with
      | none =>
          refine ⟨(.ok none, next), bind_eq_ok_iff.2 ⟨event, next, hnext, ?_⟩, hle, fun _ => hless⟩
          rw [hevent]
          rfl
      | some update =>
          refine ⟨(.ok (some ()), { next with transport := update next.transport }),
            bind_eq_ok_iff.2 ⟨event, next, hnext, ?_⟩, (htell event update hevent _).trans hle,
            nofun⟩
          rw [hevent]
          rfl

theorem act_returns (h : Exhaustible t observer variant) (calls : List TransportCall) :
    Returns (fun board => variant board.transport) bound (act fun board =>
      (performAll t calls board).map (.mapError BoardError.transport) id) :=
  fun board _ => ⟨_, rfl, performAll_variant h calls board⟩

theorem useBoard_returns (h : Exhaustible t observer variant) (hfuel : bound ≤ fuel) :
    Returns (fun board => variant board.transport) bound
      (useBoard (AsyncBoard.session t) observer fuel) := by
  have hstart : (AsyncBoard.session t).initializeBoard = fun board =>
      (performAll t initializeCalls board).map (.mapError .transport) id :=
    funext (AsyncBoard.initializeBoard_eq t)
  have hsend : ∀ command, (AsyncBoard.session t).send command = fun board =>
      (performAll t [.writeCommand command] board).map (.mapError .transport) id :=
    fun command => funext fun board => AsyncBoard.send_eq t board command
  unfold useBoard
  rw [hstart, hsend, hsend]
  refine (act_returns h _).bind fun _ => (act_returns h _).bind fun _ => ?_
  refine (awaiting_returns h ?_ hfuel).bind fun _ => (act_returns h _).bind fun _ => ?_
  · intro event update hevent world
    cases event <;> cases hevent
    exact h.boardBattery _ world
  refine (awaiting_returns h ?_ hfuel).bind fun _ => awaiting_returns h ?_ hfuel
  · intro event update hevent world
    cases event <;> cases hevent
    exact h.pieceStatus _ world
  · intro event update hevent world
    cases event <;> cases hevent
    exact h.positionChanged _ world

/-! ## More fuel -/

theorem nextEvent_extends (t : Transport σ ε) {fuel fuel' : Nat} (hle : fuel ≤ fuel') :
    Extends
      ((AsyncBoard.session t).nextEvent fuel : Program (BoardState σ) (BoardError ε) BoardEvent)
      ((AsyncBoard.session t).nextEvent fuel') := by
  induction hle with
  | refl => exact .refl _
  | step _ ih => exact fun board p hp => AsyncBoard.nextEvent_succ (ih board p hp)

theorem useBoard_extends (t : Transport σ ε) (observer : Observer σ) {fuel fuel' : Nat}
    (hle : fuel ≤ fuel') :
    Extends (useBoard (AsyncBoard.session t) observer fuel)
      (useBoard (AsyncBoard.session t) observer fuel') := by
  have hround : ∀ tell, Extends (round (AsyncBoard.session t) fuel tell)
      (round (AsyncBoard.session t) fuel' tell) :=
    fun tell => (nextEvent_extends t hle).bind fun _ => .refl _
  refine (Extends.refl _).bind fun _ => (Extends.refl _).bind fun _ => ?_
  refine (extends_loop (hround _) hle).bind fun _ => (Extends.refl _).bind fun _ => ?_
  exact (extends_loop (hround _) hle).bind fun _ => extends_loop (hround _) hle

/-! ## Runs of the clients -/

theorem run_of_useBoard {connector : Connector σ ε} {world rest : σ}
    (hconnect : connector.connect deviceName world = (.ok (), rest))
    {operation : Except (BoardError ε) Unit} {board : BoardState σ}
    (huse : useBoard (AsyncBoard.session t) observer fuel (BoardState.new rest)
      = some (operation, board)) :
    AsyncWithoutTokio.run t connector observer fuel world
      = some ((operation.mapError ExampleError.session).bind fun _ =>
          (AsyncBoard.shutdown t board).1.mapError ExampleError.session,
          (AsyncBoard.shutdown t board).2.transport) := by
  unfold AsyncWithoutTokio.run run
  rw [hconnect]
  exact Option.bind_eq_some_iff.2 ⟨_, huse, rfl⟩

/-- **The clients return** if the board has finitely many notifications to send, with an outcome
    that does not depend on the fuel. -/
theorem run_returns (h : Exhaustible t observer variant) (connector : Connector σ ε) (world : σ) :
    ∃ outcome, ∀ fuel, variant (connector.connect deviceName world).2 < fuel →
      AsyncWithoutTokio.run t connector observer fuel world = some outcome ∧
        BlockingNoStd.run t connector observer fuel world = some outcome := by
  have hsame : BlockingNoStd.run t = AsyncWithoutTokio.run t := by
    rw [BlockingNoStd.run, BlockingBoard.session_eq]
    rfl
  rw [hsame]
  simp only [and_self]
  rcases hconnect : connector.connect deviceName world with ⟨connected, rest⟩
  cases connected with
  | error error =>
      refine ⟨(.error (.connect error), rest), fun fuel _ => ?_⟩
      unfold AsyncWithoutTokio.run run
      rw [hconnect]
  | ok connected =>
      obtain ⟨⟨operation, board⟩, huse, -⟩ :=
        useBoard_returns h (Nat.le_refl (variant rest + 1)) (BoardState.new rest)
          (Nat.lt_succ_self _)
      have hmore : ∀ fuel, variant rest < fuel →
          useBoard (AsyncBoard.session t) observer fuel (BoardState.new rest)
            = some (operation, board) :=
        fun fuel hfuel => useBoard_extends t observer hfuel _ _ huse
      exact ⟨_, fun fuel hfuel => run_of_useBoard hconnect (hmore fuel hfuel)⟩

theorem exhaustible_scriptedTransport :
    Exhaustible scriptedTransport silentObserver List.length where
  perform _ _ := Nat.le_refl _
  received world buffer := by
    cases world with
    | nil => exact ⟨Nat.le_refl _, nofun⟩
    | cons notification rest => exact ⟨Nat.le_succ _, fun _ _ => Nat.lt_succ_self _⟩
  boardBattery _ _ := Nat.le_refl _
  pieceStatus _ _ := Nat.le_refl _
  positionChanged _ _ := Nat.le_refl _

theorem sessionScript_run_returns : Exhaustible scriptedTransport silentObserver List.length ∧
    ∃ outcome, ∀ fuel, sessionScript.length < fuel →
      AsyncWithoutTokio.run scriptedTransport openConnector silentObserver fuel sessionScript
          = some outcome ∧
        BlockingNoStd.run scriptedTransport openConnector silentObserver fuel sessionScript
          = some outcome :=
  ⟨exhaustible_scriptedTransport,
    run_returns exhaustible_scriptedTransport openConnector sessionScript⟩

end Returns

end Clients

end ChessnutMove
