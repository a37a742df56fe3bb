import ChessnutMove.Transport.Session

set_option autoImplicit false

/-! # Blocking board sessions

`BlockingBoard` of `transport/blocking.rs`, over the same kind of transport as `AsyncBoard` and with
the same session state. -/

namespace ChessnutMove.BlockingBoard

variable {σ ε : Type}

/-- Writes a command to the board. -/
def send (t : Transport σ ε) (command : Command) (board : BoardState σ) :
    Except (BoardError ε) Unit × BoardState σ :=
  let (result, board) := board.perform t (.writeCommand command)
  (result.mapError .transport, board)

/-- `initialize`: initializes subscriptions and enables realtime position updates. -/
def initializeBoard (t : Transport σ ε) (board : BoardState σ) :
    Except (BoardError ε) Unit × BoardState σ :=
  match board.perform t (.subscribe .position) with
  | (.error error, board) => (.error (.transport error), board)
  | (.ok (), board) =>
      match send t .enableRealtimeUpdates board with
      | (.error error, board) => (.error error, board)
      | (.ok (), board) =>
          match board.perform t (.subscribe .commandResponse) with
          | (.error error, board) => (.error (.transport error), board)
          | (.ok (), board) => (.ok (), board)

/-- Blocks until the next observable board event is decoded; `none` when the fuel is used up. -/
def nextEvent (t : Transport σ ε) :
    Nat → BoardState σ → Option (Except (BoardError ε) BoardEvent × BoardState σ)
  | 0, _ => none
  | fuel + 1, board =>
      match board.receive t with
      | (.error error, board) => some (.error (.transport error), board)
      | (.ok notification, board) =>
          match decodeNotification notification with
          | .error error => some (.error (.decode error), board)
          | .ok (.event event) => some (.ok event, board)
          | .ok .realtimeUpdatesAcknowledged => nextEvent t fuel board

/-- Unsubscribes from board notifications and closes the transport. -/
def shutdown (t : Transport σ ε) (board : BoardState σ) :
    Except (BoardError ε) Unit × BoardState σ :=
  match board.perform t (.unsubscribe .commandResponse) with
  | (.error error, board) => (.error (.transport error), board)
  | (.ok (), board) =>
      match board.perform t (.unsubscribe .position) with
      | (.error error, board) => (.error (.transport error), board)
      | (.ok (), board) =>
          match board.perform t .close with
          | (.error error, board) => (.error (.transport error), board)
          | (.ok (), board) => (.ok (), board)

/-- One operation of the session. -/
def operation (t : Transport σ ε) (fuel : Nat) :
    SessionCall → BoardState σ → Option (SessionResult ε × BoardState σ)
  | .initializeBoard, board => some ((initializeBoard t board).map (·.map fun _ => .done) id)
  | .send command, board => some ((send t command board).map (·.map fun _ => .done) id)
  | .nextEvent, board => (nextEvent t fuel board).map (·.map (·.map .event) id)
  | .shutdown, board => some ((shutdown t board).map (·.map fun _ => .done) id)

/-- A sequence of operations of the session. -/
def run (t : Transport σ ε) (fuel : Nat) :
    List SessionCall → BoardState σ → Option (List (SessionResult ε) × BoardState σ) :=
  runCalls (operation t fuel)

/-! ## The asynchronous session -/

variable (t : Transport σ ε)

/-- The two receive loops agree round by round: an acknowledgement leaves both with one unit of
    fuel less. -/
theorem nextEvent_eq_asyncBoard (fuel : Nat) (board : BoardState σ) :
    nextEvent t fuel board = AsyncBoard.nextEvent t fuel board := by
  induction fuel generalizing board with
  | zero => rfl
  | succ fuel ih =>
      rw [nextEvent, AsyncBoard.nextEvent]
      rcases board.receive t with ⟨received, next⟩
      cases received with
      | error error => rfl
      | ok notification =>
          cases hdecode : decodeNotification notification with
          | error error => simp only [hdecode]
          | ok decoded =>
              cases decoded with
              | event event => simp only [hdecode]
              | realtimeUpdatesAcknowledged => simpa only [hdecode] using ih next

theorem operation_eq_asyncBoard (fuel : Nat) (call : SessionCall) (board : BoardState σ) :
    operation t fuel call board = AsyncBoard.operation t fuel call board := by
  cases call with
  | initializeBoard => rfl
  | send command => rfl
  | nextEvent => rw [operation, AsyncBoard.operation, nextEvent_eq_asyncBoard]
  | shutdown => rfl

/-- **The two sessions agree** on every sequence of operations: the same results, the same transport
    state and the same buffer. -/
theorem run_eq_asyncBoard (fuel : Nat) (calls : List SessionCall) (board : BoardState σ) :
    run t fuel calls board = AsyncBoard.run t fuel calls board := by
  have hoperation : operation t fuel = AsyncBoard.operation t fuel :=
    funext fun call => funext (operation_eq_asyncBoard t fuel call)
  rw [run, AsyncBoard.run, hoperation]

end ChessnutMove.BlockingBoard
