import ChessnutMove.Library.Journal
import ChessnutMove.Transport.Blocking
import ChessnutMove.Transport.Recording

set_option autoImplicit false

/-! # Clients of a session

`run` of `async_without_tokio.rs` and of `blocking_no_std.rs`: the two programs call the methods of
`AsyncBoard` and of `BlockingBoard` alike, so there is one definition of them with the session as a
parameter. The connector, the transport and the observer act on one world, in which they may share
what they like.

To say what a client does, its world keeps a journal of what the client does with each of them. What
it writes is a language that has the shape of the program. -/

namespace ChessnutMove

open Journal

variable {σ ε : Type}

/-- `BoardState::new`. -/
def BoardState.new (transport : σ) : BoardState σ where
  transport
  notificationBuffer := .replicate maxNotificationLen 0

/-- Advertised device name. -/
def deviceName : String := "Chessnut Move"

namespace Clients

/-! ## The programs -/

/-- `AsyncConnector` and `BlockingConnector`: the transport acts on the world it is connected in. -/
structure Connector (σ ε : Type) where
  connect : String → σ → Except ε Unit × σ

/-- Receives the values reported during the example session. -/
structure Observer (σ : Type) where
  boardBattery : BatteryStatus → σ → σ
  pieceStatus : PieceStatus → σ → σ
  positionChanged : Position → σ → σ

namespace Observer

/-! What the observer is told in each of the three loops. -/

def onBatteryStatus (observer : Observer σ) : BoardEvent → Option (σ → σ)
  | .batteryStatus status => some (observer.boardBattery status)
  | _ => none

def onPieceStatus (observer : Observer σ) : BoardEvent → Option (σ → σ)
  | .pieceStatus status => some (observer.pieceStatus status)
  | _ => none

def onPositionChanged (observer : Observer σ) : BoardEvent → Option (σ → σ)
  | .positionChanged position => some (observer.positionChanged position)
  | _ => none

end Observer

/-- Error returned while connecting or interacting with the board. -/
inductive ExampleError (ε : Type)
  | connect (error : ε)
  | session (error : BoardError ε)
  deriving DecidableEq

/-- The methods of a session. -/
structure BoardSession (σ ε : Type) where
  initializeBoard : BoardState σ → Except (BoardError ε) Unit × BoardState σ
  send : Command → BoardState σ → Except (BoardError ε) Unit × BoardState σ
  nextEvent : Nat → BoardState σ → Option (Except (BoardError ε) BoardEvent × BoardState σ)
  shutdown : BoardState σ → Except (BoardError ε) Unit × BoardState σ

/-- One round of a loop: the next event, of which the observer is told if it waits for it. -/
def round (session : BoardSession σ ε) (fuel : Nat) (tell : BoardEvent → Option (σ → σ)) :
    Program (BoardState σ) (BoardError ε) (Option Unit) := do
  let event ← (session.nextEvent fuel : Program (BoardState σ) (BoardError ε) BoardEvent)
  match tell event with
  | some update =>
      act fun board => (.ok (some ()), { board with transport := update board.transport })
  | none => return none

def useBoard (session : BoardSession σ ε) (observer : Observer σ) (fuel : Nat) :
    Program (BoardState σ) (BoardError ε) Unit := do
  act session.initializeBoard
  act (session.send .readBatteryLevel)
  loop (round session fuel observer.onBatteryStatus) fuel
  act (session.send .readPieceStatus)
  loop (round session fuel observer.onPieceStatus) fuel
  loop (round session fuel observer.onPositionChanged) fuel

/-- Connects, queries board status, observes one move, and disconnects. Shutdown is attempted even
    when the session operation fails. -/
def run (session : BoardSession σ ε) (connector : Connector σ ε) (observer : Observer σ)
    (fuel : Nat) (world : σ) : Option (Except (ExampleError ε) Unit × σ) :=
  match connector.connect deviceName world with
  | (.error error, world) => some (.error (.connect error), world)
  | (.ok (), world) => do
      let (operation, board) ← useBoard session observer fuel (BoardState.new world)
      let (shutdown, board) := session.shutdown board
      let result : Except (ExampleError ε) Unit := do
        operation.mapError ExampleError.session
        shutdown.mapError ExampleError.session
      return (result, board.transport)

end Clients

/-- The methods of `AsyncBoard`. -/
def AsyncBoard.session (t : Transport σ ε) : Clients.BoardSession σ ε where
  initializeBoard := initializeBoard t
  send := send t
  nextEvent := nextEvent t
  shutdown := shutdown t

/-- The methods of `BlockingBoard`. -/
def BlockingBoard.session (t : Transport σ ε) : Clients.BoardSession σ ε where
  initializeBoard := initializeBoard t
  send := send t
  nextEvent := nextEvent t
  shutdown := shutdown t

/-- `run` of `async_without_tokio.rs`. -/
def AsyncWithoutTokio.run (t : Transport σ ε) : Clients.Connector σ ε → Clients.Observer σ →
    Nat → σ → Option (Except (Clients.ExampleError ε) Unit × σ) :=
  Clients.run (AsyncBoard.session t)

/-- `run` of `blocking_no_std.rs`. -/
def BlockingNoStd.run (t : Transport σ ε) : Clients.Connector σ ε → Clients.Observer σ →
    Nat → σ → Option (Except (Clients.ExampleError ε) Unit × σ) :=
  Clients.run (BlockingBoard.session t)

theorem BlockingBoard.session_eq (t : Transport σ ε) : session t = AsyncBoard.session t := by
  have hnext : nextEvent t = AsyncBoard.nextEvent t :=
    funext fun fuel => funext fun board => nextEvent_eq_asyncBoard t fuel board
  rw [session, AsyncBoard.session, hnext]
  rfl

namespace Clients

/-! ## The journal -/

/-- What a client does with the world around it. -/
inductive ClientEvent (ε : Type)
  | connected (result : Except ε Unit)
  | exchanged (exchange : Exchange ε)
  | told (event : BoardEvent)
  deriving DecidableEq

/-- The connector, and that in the journal. -/
def Connector.journaled (connector : Connector σ ε) :
    Connector (σ × List (ClientEvent ε)) ε where
  connect name world :=
    let (result, rest) := connector.connect name world.1
    (result, (rest, world.2 ++ [.connected result]))

def Observer.journaled (observer : Observer σ) : Observer (σ × List (ClientEvent ε)) where
  boardBattery status world :=
    (observer.boardBattery status world.1, world.2 ++ [.told (.batteryStatus status)])
  pieceStatus status world :=
    (observer.pieceStatus status world.1, world.2 ++ [.told (.pieceStatus status)])
  positionChanged position world :=
    (observer.positionChanged position world.1, world.2 ++ [.told (.positionChanged position)])

/-- The transport, with every exchange in the journal. -/
def journaled (t : Transport σ ε) : Transport (σ × List (ClientEvent ε)) ε where
  perform call world :=
    let (result, rest) := t.perform call world.1
    (result, (rest, world.2 ++ [.exchanged (.performed call result)]))
  nextNotification world buffer :=
    let (result, rest, buffer) := t.nextNotification world.1 buffer
    (result, (rest, world.2 ++ [.exchanged (.received result)]), buffer)

/-- The journal of a session. -/
def record (board : BoardState (σ × List (ClientEvent ε))) : List (ClientEvent ε) :=
  board.transport.2

/-- What a part of a client may write for a result. -/
abbrev ClientLanguage (ε α : Type) := Language (BoardError ε) α (ClientEvent ε)

/-- Calls of the transport in turn, up to the first that fails. -/
inductive Called : List TransportCall → ClientLanguage ε Unit
  | nil : Called [] (.ok ()) []
  | failed (call : TransportCall) (rest : List TransportCall) (error : ε) :
      Called (call :: rest) (.error (.transport error))
        [.exchanged (.performed call (.error error))]
  | next (call : TransportCall) {rest : List TransportCall} {result : Except (BoardError ε) Unit}
      {word : List (ClientEvent ε)} (h : Called rest result word) :
      Called (call :: rest) result (.exchanged (.performed call (.ok ())) :: word)

/-- Notifications, up to the first that is not an acknowledgement. -/
inductive Received : ClientLanguage ε BoardEvent
  | failed (error : ε) :
      Received (.error (.transport error)) [.exchanged (.received (.error error))]
  | undecodable (notification : Notification) (error : DecodeNotificationError)
      (h : observe notification = some (.error error)) :
      Received (.error (.decode error)) [.exchanged (.received (.ok notification))]
  | event (notification : Notification) (event : BoardEvent)
      (h : observe notification = some (.ok event)) :
      Received (.ok event) [.exchanged (.received (.ok notification))]
  | acknowledged (notification : Notification) (h : observe notification = none)
      {result : Except (BoardError ε) BoardEvent} {word : List (ClientEvent ε)}
      (hrest : Received result word) :
      Received result (.exchanged (.received (.ok notification)) :: word)

/-- What an event is about. -/
inductive EventKind
  | battery | pieces | position
  deriving DecidableEq

def EventKind.of : BoardEvent → EventKind
  | .batteryStatus _ => .battery
  | .pieceStatus _ => .pieces
  | .positionChanged _ => .position

/-- The observer is told of an event of this kind, and of no other. -/
inductive Told (kind : EventKind) (event : BoardEvent) :
    ClientLanguage ε (Option Unit)
  | told (h : .of event = kind) : Told kind event (.ok (some ())) [.told event]
  | passed (h : .of event ≠ kind) : Told kind event (.ok none) []

/-- Events up to the first of a kind. -/
def Awaited (kind : EventKind) : ClientLanguage ε Unit :=
  Rounds (Then Received (Told kind))

/-- What `use_board` writes after `initialize`. -/
def Served : ClientLanguage ε Unit :=
  Then (Called [.writeCommand .readBatteryLevel]) fun _ =>
    Then (Awaited .battery) fun _ =>
      Then (Called [.writeCommand .readPieceStatus]) fun _ =>
        Then (Awaited .pieces) fun _ => Awaited .position

/-- What `use_board` writes. -/
def Used : ClientLanguage ε Unit :=
  Then (Called initializeCalls) fun _ => Served

section Writes

variable (t : Transport σ ε)

theorem performAll_journaled (calls : List TransportCall)
    (board : BoardState (σ × List (ClientEvent ε))) :
    ∃ word, record (performAll (journaled t) calls board).2 = record board ++ word ∧
      Called calls ((performAll (journaled t) calls board).1.mapError .transport) word := by
  induction calls generalizing board with
  | nil => exact ⟨[], (List.append_nil _).symm, .nil⟩
  | cons call calls ih =>
      rw [performAll]
      have hrecord : record (board.perform (journaled t) call).2 = record board ++
          [.exchanged (.performed call (board.perform (journaled t) call).1)] := rfl
      generalize board.perform (journaled t) call = reply at hrecord ⊢
      obtain ⟨result, next⟩ := reply
      cases result with
      | error error => exact ⟨_, hrecord, .failed call calls error⟩
      | ok done =>
          obtain ⟨word, hword, hcalled⟩ := ih next
          refine ⟨_, ?_, .next call hcalled⟩
          show record (performAll (journaled t) calls next).2 = _
          rw [hword, hrecord, List.append_assoc]
          rfl

theorem writes_performAll (calls : List TransportCall) :
    Writes record (act fun board =>
      (performAll (journaled t) calls board).map (.mapError .transport) id) (Called calls) := by
  intro board result board' h
  obtain ⟨rfl, rfl⟩ := Prod.mk.inj (Option.some.inj h)
  exact performAll_journaled t calls board

theorem writes_initializeBoard :
    Writes record (act (AsyncBoard.session (journaled t)).initializeBoard)
      (Called initializeCalls) := by
  have heq : (AsyncBoard.session (journaled t)).initializeBoard = fun board =>
      (performAll (journaled t) initializeCalls board).map (.mapError .transport) id :=
    funext (AsyncBoard.initializeBoard_eq (journaled t))
  rw [heq]
  exact writes_performAll t initializeCalls

theorem writes_send (command : Command) :
    Writes record (act ((AsyncBoard.session (journaled t)).send command))
      (Called [.writeCommand command]) := by
  have heq : (AsyncBoard.session (journaled t)).send command = fun board =>
      (performAll (journaled t) [.writeCommand command] board).map (.mapError .transport) id :=
    funext fun board => AsyncBoard.send_eq (journaled t) board command
  rw [heq]
  exact writes_performAll t _

/-- By induction on the fuel: an acknowledgement is one round. -/
theorem writes_nextEvent (fuel : Nat) :
    Writes record ((AsyncBoard.session (journaled t)).nextEvent fuel) Received := by
  induction fuel with
  | zero =>
      intro board result board' h
      cases h
  | succ fuel ih =>
      intro board result board' h
      replace h : AsyncBoard.nextEvent (journaled t) (fuel + 1) board = some (result, board') := h
      have hrecord : record (board.receive (journaled t)).2 = record board ++
          [.exchanged (.received (board.receive (journaled t)).1)] := rfl
      rcases hreceive : board.receive (journaled t) with ⟨received, next⟩
      rw [hreceive] at hrecord
      cases received with
      | error error =>
          rw [AsyncBoard.nextEvent, hreceive] at h
          obtain ⟨rfl, rfl⟩ := Prod.mk.inj (Option.some.inj h)
          exact ⟨_, hrecord, .failed error⟩
      | ok notification =>
          rw [AsyncBoard.nextEvent_of_receive hreceive] at h
          cases hobserve : observe notification with
          | none =>
              rw [hobserve] at h
              obtain ⟨word, hword, hreceived⟩ := ih next result board' h
              refine ⟨_, ?_, .acknowledged notification hobserve hreceived⟩
              rw [hword, hrecord, List.append_assoc]
              rfl
          | some value =>
              rw [hobserve] at h
              obtain ⟨rfl, rfl⟩ := Prod.mk.inj (Option.some.inj h)
              refine ⟨_, hrecord, ?_⟩
              cases value with
              | error error => exact .undecodable notification error hobserve
              | ok event => exact .event notification event hobserve

/-- The observer is told of the events of a kind, and that is in the journal. -/
structure Reports (kind : EventKind)
    (tell : BoardEvent → Option (σ × List (ClientEvent ε) → σ × List (ClientEvent ε))) : Prop where
  told : ∀ event, .of event = kind →
    ∃ update, tell event = some update ∧ ∀ world, (update world).2 = world.2 ++ [.told event]
  passed : ∀ event, .of event ≠ kind → tell event = none

section Observer

variable (observer : Observer σ)

theorem reports_onBatteryStatus :
    Reports .battery (observer.journaled : Observer (σ × List (ClientEvent ε))).onBatteryStatus where
  told event h := by
    cases event with
    | batteryStatus => exact ⟨_, rfl, fun _ => rfl⟩
    | _ => cases h
  passed event h := by
    cases event with
    | batteryStatus => exact absurd rfl h
    | _ => rfl

theorem reports_onPieceStatus :
    Reports .pieces (observer.journaled : Observer (σ × List (ClientEvent ε))).onPieceStatus where
  told event h := by
    cases event with
    | pieceStatus => exact ⟨_, rfl, fun _ => rfl⟩
    | _ => cases h
  passed event h := by
    cases event with
    | pieceStatus => exact absurd rfl h
    | _ => rfl

theorem reports_onPositionChanged :
    Reports .position (observer.journaled : Observer (σ × List (ClientEvent ε))).onPositionChanged where
  told event h := by
    cases event with
    | positionChanged => exact ⟨_, rfl, fun _ => rfl⟩
    | _ => cases h
  passed event h := by
    cases event with
    | positionChanged => exact absurd rfl h
    | _ => rfl

end Observer

/-- A loop that tells the observer of the first event of a kind. -/
theorem writes_awaited {kind : EventKind}
    {tell : BoardEvent → Option (σ × List (ClientEvent ε) → σ × List (ClientEvent ε))}
    (h : Reports kind tell) (fuel : Nat) :
    Writes record (loop (round (AsyncBoard.session (journaled t)) fuel tell) fuel)
      (Awaited kind) := by
  refine writes_loop ((writes_nextEvent t fuel).bind fun event => ?_) fuel
  by_cases hkind : .of event = kind
  · obtain ⟨update, htell, hupdate⟩ := h.told event hkind
    rw [htell]
    intro board result board' hrun
    obtain ⟨rfl, rfl⟩ := Prod.mk.inj (Option.some.inj hrun)
    exact ⟨_, hupdate board.transport, .told hkind⟩
  · rw [h.passed event hkind]
    intro board result board' hrun
    obtain ⟨rfl, rfl⟩ := Prod.mk.inj (Option.some.inj hrun)
    exact ⟨[], (List.append_nil _).symm, .passed hkind⟩

theorem writes_useBoard (observer : Observer σ) (fuel : Nat) :
    Writes record (useBoard (AsyncBoard.session (journaled t)) observer.journaled fuel) Used :=
  (writes_initializeBoard t).bind fun _ =>
    (writes_send t _).bind fun _ =>
      (writes_awaited t (reports_onBatteryStatus observer) fuel).bind fun _ =>
        (writes_send t _).bind fun _ =>
          (writes_awaited t (reports_onPieceStatus observer) fuel).bind fun _ =>
            writes_awaited t (reports_onPositionChanged observer) fuel

end Writes

end Clients

end ChessnutMove
