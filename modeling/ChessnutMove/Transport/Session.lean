import ChessnutMove.Transport.Notification
import Mathlib.Data.List.Basic

set_option autoImplicit false

/-! # Board sessions

`AsyncBoard` of `transport/asynchronous.rs` over a transport that is a state machine: every method
takes the transport's state to a result and the next state, and `next_notification` also rewrites
the session's buffer. Futures are awaited to completion. `nextEvent` loops over acknowledgements;
the loop has fuel, one unit a round. -/

namespace ChessnutMove

/-- Largest notification accepted by a board session. -/
def maxNotificationLen : Nat := 3 + 34 * 4

abbrev NotificationBuffer := Vector UInt8 maxNotificationLen

/-- A transport with states `σ` and errors `ε`. -/
structure Transport (σ ε : Type) where
  perform : TransportCall → σ → Except ε Unit × σ
  nextNotification : σ → NotificationBuffer → Except ε Notification × σ × NotificationBuffer

/-- Shared storage for runtime-neutral owning sessions. -/
structure BoardState (σ : Type) where
  transport : σ
  notificationBuffer : NotificationBuffer

/-- Reports a board-session transport or decode failure. -/
inductive BoardError (ε : Type)
  | transport (error : ε)
  | decode (error : DecodeNotificationError)
  deriving DecidableEq

variable {σ ε : Type}

/-- A session's call of its transport, other than `next_notification`. -/
def BoardState.perform (t : Transport σ ε) (board : BoardState σ) (call : TransportCall) :
    Except ε Unit × BoardState σ :=
  let (result, transport) := t.perform call board.transport
  (result, { board with transport })

/-- One `next_notification` of the session's transport into its buffer. -/
def BoardState.receive (t : Transport σ ε) (board : BoardState σ) :
    Except ε Notification × BoardState σ :=
  let (result, transport, notificationBuffer) :=
    t.nextNotification board.transport board.notificationBuffer
  (result, { transport, notificationBuffer })

/-! ## Operations -/

/-- The operations of a session. -/
inductive SessionCall
  | initializeBoard
  | send (command : Command)
  | nextEvent
  | shutdown
  deriving DecidableEq

/-- What the operations of a session return on success. -/
inductive SessionValue
  | done
  | event (event : BoardEvent)
  deriving DecidableEq

abbrev SessionResult (ε : Type) := Except (BoardError ε) SessionValue

/-- Operations one after another, each on the state the one before left; `none` when one of them
    does not return. -/
def runCalls {β ρ : Type} (operation : SessionCall → β → Option (ρ × β)) :
    List SessionCall → β → Option (List ρ × β)
  | [], board => some ([], board)
  | call :: calls, board => do
      let (result, board) ← operation call board
      let (results, board) ← runCalls operation calls board
      return (result :: results, board)

namespace AsyncBoard

/-- Writes a command to the board. -/
def send (t : Transport σ ε) (command : Command) (board : BoardState σ) :
    Except (BoardError ε) Unit × BoardState σ :=
  let (result, board) := board.perform t (.writeCommand command)
  (result.mapError .transport, board)

/-- `initialize`: initializes subscriptions and enables realtime position updates. -/
def initializeBoard (t : Transport σ ε) (board : BoardState σ) :
    Except (BoardError ε) Unit × BoardState σ :=
  match board.perform t (.subscribe .position) with
  | (.error error, board) => (.error (.transport error), board)
  | (.ok (), board) =>
      match send t .enableRealtimeUpdates board with
      | (.error error, board) => (.error error, board)
      | (.ok (), board) =>
          match board.perform t (.subscribe .commandResponse) with
          | (.error error, board) => (.error (.transport error), board)
          | (.ok (), board) => (.ok (), board)

/-- Unsubscribes from board notifications and closes the transport. -/
def shutdown (t : Transport σ ε) (board : BoardState σ) :
    Except (BoardError ε) Unit × BoardState σ :=
  match board.perform t (.unsubscribe .commandResponse) with
  | (.error error, board) => (.error (.transport error), board)
  | (.ok (), board) =>
      match board.perform t (.unsubscribe .position) with
      | (.error error, board) => (.error (.transport error), board)
      | (.ok (), board) =>
          match board.perform t .close with
          | (.error error, board) => (.error (.transport error), board)
          | (.ok (), board) => (.ok (), board)

/-- Waits for and decodes the next observable board event; `none` when the fuel is used up. -/
def nextEvent (t : Transport σ ε) :
    Nat → BoardState σ → Option (Except (BoardError ε) BoardEvent × BoardState σ)
  | 0, _ => none
  | fuel + 1, board =>
      match board.receive t with
      | (.error error, board) => some (.error (.transport error), board)
      | (.ok notification, board) =>
          match decodeNotification notification with
          | .error error => some (.error (.decode error), board)
          | .ok (.event event) => some (.ok event, board)
          | .ok .realtimeUpdatesAcknowledged => nextEvent t fuel board

/-- The results of a number of `next_event` calls in a row. -/
def nextEvents (t : Transport σ ε) (fuel : Nat) :
    Nat → BoardState σ → Option (List (Except (BoardError ε) BoardEvent) × BoardState σ)
  | 0, board => some ([], board)
  | calls + 1, board => do
      let (result, board) ← nextEvent t fuel board
      let (results, board) ← nextEvents t fuel calls board
      return (result :: results, board)

/-- One operation of the session. -/
def operation (t : Transport σ ε) (fuel : Nat) :
    SessionCall → BoardState σ → Option (SessionResult ε × BoardState σ)
  | .initializeBoard, board => some ((initializeBoard t board).map (·.map fun _ => .done) id)
  | .send command, board => some ((send t command board).map (·.map fun _ => .done) id)
  | .nextEvent, board => (nextEvent t fuel board).map (·.map (·.map .event) id)
  | .shutdown, board => some ((shutdown t board).map (·.map fun _ => .done) id)

/-- A sequence of operations of the session, each awaited to completion. -/
def run (t : Transport σ ε) (fuel : Nat) :
    List SessionCall → BoardState σ → Option (List (SessionResult ε) × BoardState σ) :=
  runCalls (operation t fuel)

end AsyncBoard

/-- The transport returns these notifications, in this order, to a session that starts in `board`.
    -/
def Delivers (t : Transport σ ε) : List Notification → BoardState σ → Prop
  | [], _ => True
  | notification :: rest, board =>
      ∃ board', board.receive t = (.ok notification, board') ∧ Delivers t rest board'

namespace AsyncBoard

variable {t : Transport σ ε} {fuel calls : Nat} {board board' : BoardState σ}

/-! ## More fuel changes nothing -/

theorem nextEvent_succ {result : Except (BoardError ε) BoardEvent}
    (h : nextEvent t fuel board = some (result, board')) :
    nextEvent t (fuel + 1) board = some (result, board') := by
  induction fuel generalizing board with
  | zero => cases h
  | succ fuel ih =>
      rw [nextEvent] at h ⊢
      cases hreceive : board.receive t with
      | mk received next =>
          rw [hreceive] at h
          cases received with
          | error error => exact h
          | ok notification =>
              simp only at h ⊢
              cases hdecode : decodeNotification notification with
              | error error =>
                  rw [hdecode] at h
                  exact h
              | ok decoded =>
                  rw [hdecode] at h
                  cases decoded with
                  | event event => exact h
                  | realtimeUpdatesAcknowledged => exact ih h

theorem nextEvents_succ_eq_some {results : List (Except (BoardError ε) BoardEvent)} :
    nextEvents t fuel (calls + 1) board = some (results, board') ↔
      ∃ result next rest, nextEvent t fuel board = some (result, next) ∧
        nextEvents t fuel calls next = some (rest, board') ∧ results = result :: rest := by
  simp only [nextEvents, Option.bind_eq_bind, Option.bind_eq_some_iff, Option.pure_def,
    Option.some.injEq, Prod.mk.injEq, Prod.exists]
  constructor
  · rintro ⟨result, next, hnext, rest, last, hrest, rfl, rfl⟩
    exact ⟨result, next, rest, hnext, hrest, rfl⟩
  · rintro ⟨result, next, rest, hnext, hrest, rfl⟩
    exact ⟨result, next, hnext, rest, board', hrest, rfl, rfl⟩

theorem nextEvents_more_fuel {results : List (Except (BoardError ε) BoardEvent)}
    (h : nextEvents t fuel calls board = some (results, board')) :
    nextEvents t (fuel + 1) calls board = some (results, board') := by
  induction calls generalizing board results with
  | zero => exact h
  | succ calls ih =>
      obtain ⟨result, next, rest, hnext, hrest, rfl⟩ := nextEvents_succ_eq_some.1 h
      exact nextEvents_succ_eq_some.2 ⟨result, next, rest, nextEvent_succ hnext, ih hrest, rfl⟩

/-! ## The sequential decoder -/

/-- One `next_event` call on a transport whose next notification is known. -/
theorem nextEvent_of_receive {notification : Notification}
    (h : board.receive t = (.ok notification, board')) :
    nextEvent t (fuel + 1) board =
      match observe notification with
      | some value => some (value.mapError .decode, board')
      | none => nextEvent t fuel board' := by
  unfold observe
  rw [nextEvent]
  cases hdecode : decodeNotification notification with
  | error error => simp only [h, hdecode, Except.mapError]
  | ok decoded => cases decoded <;> simp only [h, hdecode, Except.mapError]

/-- **Repeated `next_event` calls decode what the transport delivers**, in order, without the
    acknowledgements. -/
theorem nextEvents_of_delivers {notifications : List Notification}
    (h : Delivers t notifications board) :
    ∃ last, nextEvents t (notifications.length + 1) (notifications.filterMap observe).length board
      = some ((notifications.filterMap observe).map (Except.mapError .decode), last) := by
  induction notifications generalizing board with
  | nil => exact ⟨board, rfl⟩
  | cons notification rest ih =>
      obtain ⟨next, hreceive, hrest⟩ := h
      obtain ⟨last, hlast⟩ := ih hrest
      have hevent := @nextEvent_of_receive σ ε t (rest.length + 1) board next notification hreceive
      cases hobserve : observe notification with
      | some value =>
          rw [hobserve] at hevent
          rw [List.filterMap_cons_some hobserve]
          exact ⟨last, nextEvents_succ_eq_some.2
            ⟨_, next, _, hevent, nextEvents_more_fuel hlast, rfl⟩⟩
      | none =>
          rw [hobserve] at hevent
          rw [List.filterMap_cons_none hobserve]
          cases hvalues : rest.filterMap observe with
          | nil => exact ⟨board, rfl⟩
          | cons value values =>
              -- the first of the remaining calls also consumes the acknowledgement
              rw [hvalues] at hlast
              obtain ⟨result, board', results, hresult, hresults, heq⟩ :=
                nextEvents_succ_eq_some.1 hlast
              exact ⟨last, nextEvents_succ_eq_some.2
                ⟨result, board', results, hevent.trans hresult, nextEvents_more_fuel hresults, heq⟩⟩

end AsyncBoard

end ChessnutMove
