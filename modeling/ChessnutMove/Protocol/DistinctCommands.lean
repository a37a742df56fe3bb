import ChessnutMove.Protocol.LedCommands

set_option autoImplicit false

/-! # Distinct commands on the wire

`Construction` is a call of one of the typed constructors of `Command`. Two constructions are sent
as the same bytes only if they are the same, but for one pair: an auto-move in force mode to the
empty board is the stop command. -/

namespace ChessnutMove

/-- A call of a constructor of `Command`. -/
inductive Construction
  | autoMove (position : Position) (mode : AutoMoveMode)
  | stopAutoMove
  | setLeds (pattern : LedPattern)
  | enableRealtimeUpdates
  | readBatteryLevel
  | readPieceStatus
  deriving DecidableEq

namespace Construction

/-- The command that a construction returns; `none` is a failed nibble assertion. -/
def command : Construction → Option Command
  | .autoMove position mode => Command.autoMove position mode
  | .stopAutoMove => some Command.stopAutoMove
  | .setLeds pattern => Command.setLeds pattern
  | .enableRealtimeUpdates => some Command.enableRealtimeUpdates
  | .readBatteryLevel => some Command.readBatteryLevel
  | .readPieceStatus => some Command.readPieceStatus

/-- The exception: `stop` stops automatic movement and `move` moves to the empty board by force. -/
def StopsLike (stop move : Construction) : Prop :=
  stop = .stopAutoMove ∧ ∃ position, move = .autoMove position .force ∧
    ∀ square, position.pieceAt square = none

/-- No construction fails an assertion. -/
theorem exists_command (construction : Construction) :
    ∃ command, construction.command = some command := by
  cases construction with
  | autoMove position mode => exact Command.exists_autoMove position mode
  | setLeds pattern => exact Command.exists_setLeds pattern
  | stopAutoMove | enableRealtimeUpdates | readBatteryLevel | readPieceStatus => exact ⟨_, rfl⟩

/-! ## Bytes -/

/-- The packed squares of the empty board. -/
def emptyBoard : PackedSquares := ⟨Vector.replicate packedSquareBytes 0⟩

/-- The bytes a construction is sent as. -/
def Sends : Construction → List UInt8 → Prop
  | .autoMove position mode, bytes =>
      ∃ packed, PackedSquares.encode position.squares encodePiece = some packed ∧
        bytes = 0x42 :: 0x21 :: (packed.bytes.toList ++ [mode.flag])
  | .stopAutoMove, bytes => bytes = 0x42 :: 0x21 :: (emptyBoard.bytes.toList ++ [0])
  | .setLeds pattern, bytes =>
      ∃ packed, PackedSquares.encode pattern.squares LedColor.encoded = some packed ∧
        bytes = 0x43 :: 0x20 :: packed.bytes.toList
  | .enableRealtimeUpdates, bytes => bytes = [0x21, 0x01, 0x00]
  | .readBatteryLevel, bytes => bytes = [0x41, 0x01, 0x0c]
  | .readPieceStatus, bytes => bytes = [0x41, 0x01, 0x0b]

theorem sends_of_command {construction : Construction} {command : Command}
    (h : construction.command = some command) : construction.Sends command.bytes := by
  cases construction with
  | autoMove position mode =>
      obtain ⟨packed, hpacked, rfl⟩ := Command.autoMove_eq_some_iff.1 h
      refine ⟨packed, hpacked, ?_⟩
      rw [Command.bytes_fromBytes, Vector.toList_append, Vector.toList_append]
      rfl
  | setLeds pattern =>
      obtain ⟨packed, hpacked, rfl⟩ := Command.setLeds_eq_some_iff.1 h
      refine ⟨packed, hpacked, ?_⟩
      rw [Command.bytes_fromBytes, Vector.toList_append]
      rfl
  | stopAutoMove | enableRealtimeUpdates | readBatteryLevel | readPieceStatus =>
      obtain rfl := Option.some.inj h
      rfl

/-- The first byte tells the commands apart, but for the two of automatic movement and for the two
    queries. -/
def opcode : Construction → UInt8
  | .autoMove .. | .stopAutoMove => 0x42
  | .setLeds _ => 0x43
  | .enableRealtimeUpdates => 0x21
  | .readBatteryLevel | .readPieceStatus => 0x41

theorem head?_of_sends {construction : Construction} {bytes : List UInt8}
    (h : construction.Sends bytes) : bytes.head? = some construction.opcode := by
  cases construction with
  | autoMove position mode =>
      obtain ⟨packed, -, rfl⟩ := h
      rfl
  | setLeds pattern =>
      obtain ⟨packed, -, rfl⟩ := h
      rfl
  | stopAutoMove | enableRealtimeUpdates | readBatteryLevel | readPieceStatus =>
      obtain rfl := h
      rfl

theorem opcode_of_stopsLike {construction construction' : Construction}
    (h : StopsLike construction construction') : construction.opcode = construction'.opcode := by
  obtain ⟨rfl, position, rfl, -⟩ := h
  rfl

/-! ## Equal bytes -/

theorem flag_injective : Function.Injective AutoMoveMode.flag := by
  intro mode mode' h
  cases mode <;> cases mode' <;> first | rfl | cases h

theorem encode_emptyBoard :
    PackedSquares.encode (Vector.replicate squareCount none) encodePiece = some emptyBoard := by
  have hzero : ∀ i, emptyBoard.bytes.get i = 0 := fun i => Vector.getElem_replicate _
  refine PackedSquares.encode_eq_some_iff.2 fun w => ?_
  simp only [Fin.getElem_fin, Vector.getElem_replicate, PackedSquares.nibbleAt, hzero]
  simp [encodePiece, Nibble.low, Nibble.high]

/-- Only the empty board is packed as the empty board. -/
theorem packed_eq_emptyBoard_iff {position : Position} {packed : PackedSquares}
    (h : PackedSquares.encode position.squares encodePiece = some packed) :
    packed = emptyBoard ↔ ∀ square, position.pieceAt square = none := by
  obtain ⟨squares⟩ := position
  constructor
  · rintro rfl square
    rw [Position.pieceAt, PackedSquares.encode_injective encodePiece_injective h encode_emptyBoard]
    exact Vector.getElem_replicate _
  · intro hnone
    have hsquares : squares = Vector.replicate squareCount none :=
      Vector.ext fun i hi => (hnone ⟨⟨i, hi⟩⟩).trans (Vector.getElem_replicate _).symm
    rw [hsquares, encode_emptyBoard, Option.some.injEq] at h
    exact h.symm

theorem packed_append_inj {packed packed' : PackedSquares} {flag flag' : UInt8} :
    packed.bytes.toList ++ [flag] = packed'.bytes.toList ++ [flag'] ↔
      packed = packed' ∧ flag = flag' := by
  obtain ⟨bytes⟩ := packed
  obtain ⟨bytes'⟩ := packed'
  constructor
  · intro h
    obtain ⟨hbytes, hflag⟩ := List.append_inj' h rfl
    obtain rfl := Vector.toList_inj.1 hbytes
    exact ⟨rfl, List.head_eq_of_cons_eq hflag⟩
  · rintro ⟨hpacked, rfl⟩
    rw [hpacked]

/-- An automatic move sent as the stop command. -/
theorem autoMove_eq_stop_iff {position : Position} {mode : AutoMoveMode} {packed : PackedSquares}
    (h : PackedSquares.encode position.squares encodePiece = some packed) :
    packed = emptyBoard ∧ mode.flag = 0 ↔ StopsLike .stopAutoMove (.autoMove position mode) := by
  rw [packed_eq_emptyBoard_iff h]
  constructor
  · rintro ⟨hnone, hflag⟩
    have hforce : mode = .force := flag_injective hflag
    exact ⟨rfl, position, by rw [hforce], hnone⟩
  · rintro ⟨-, position', hmove, hnone⟩
    cases hmove
    exact ⟨hnone, rfl⟩

theorem autoMove_sends_eq_iff {position position' : Position} {mode mode' : AutoMoveMode}
    {bytes bytes' : List UInt8} (h : (autoMove position mode).Sends bytes)
    (h' : (autoMove position' mode').Sends bytes') :
    bytes = bytes' ↔ position = position' ∧ mode = mode' := by
  obtain ⟨packed, hpacked, rfl⟩ := h
  obtain ⟨packed', hpacked', rfl⟩ := h'
  obtain ⟨squares⟩ := position
  obtain ⟨squares'⟩ := position'
  have hsquares := PackedSquares.encode_eq_iff encodePiece_injective hpacked hpacked'
  simp only [List.cons.injEq, true_and, packed_append_inj, flag_injective.eq_iff, hsquares,
    Position.mk.injEq]

theorem setLeds_sends_eq_iff {pattern pattern' : LedPattern} {bytes bytes' : List UInt8}
    (h : (setLeds pattern).Sends bytes) (h' : (setLeds pattern').Sends bytes') :
    bytes = bytes' ↔ pattern = pattern' := by
  obtain ⟨packed, hpacked, rfl⟩ := h
  obtain ⟨packed', hpacked', rfl⟩ := h'
  obtain ⟨squares⟩ := pattern
  obtain ⟨squares'⟩ := pattern'
  have hsquares := PackedSquares.encode_eq_iff LedColor.encoded_injective hpacked hpacked'
  obtain ⟨bytes⟩ := packed
  obtain ⟨bytes'⟩ := packed'
  simpa only [List.cons.injEq, true_and, Vector.toList_inj, PackedSquares.mk.injEq,
    LedPattern.mk.injEq] using hsquares

theorem stop_sends_eq_iff {position : Position} {mode : AutoMoveMode} {bytes bytes' : List UInt8}
    (h : (autoMove position mode).Sends bytes) (h' : stopAutoMove.Sends bytes') :
    bytes = bytes' ↔ StopsLike .stopAutoMove (.autoMove position mode) := by
  obtain ⟨packed, hpacked, rfl⟩ := h
  obtain rfl := h'
  simp only [← autoMove_eq_stop_iff hpacked, List.cons.injEq, true_and, packed_append_inj]

/-- Equal bytes, construction by construction. -/
theorem sends_eq_iff {construction construction' : Construction} {bytes bytes' : List UInt8}
    (h : construction.Sends bytes) (h' : construction'.Sends bytes') :
    bytes = bytes' ↔ construction = construction' ∨ StopsLike construction construction' ∨
      StopsLike construction' construction := by
  by_cases hopcode : construction.opcode = construction'.opcode
  · cases construction <;> cases construction' <;>
      first | (simp [opcode] at hopcode; done) | skip
    case autoMove.autoMove position mode position' mode' =>
      rw [autoMove_sends_eq_iff h h']
      simp [StopsLike]
    case autoMove.stopAutoMove position mode =>
      rw [stop_sends_eq_iff h h']
      simp [StopsLike]
    case stopAutoMove.autoMove position mode =>
      rw [eq_comm, stop_sends_eq_iff h' h]
      simp [StopsLike]
    case setLeds.setLeds pattern pattern' =>
      rw [setLeds_sends_eq_iff h h']
      simp [StopsLike]
    all_goals
      obtain rfl := h
      obtain rfl := h'
      simp [StopsLike]
  · refine iff_of_false ?_ ?_
    · rintro rfl
      exact hopcode (Option.some.inj ((head?_of_sends h).symm.trans (head?_of_sends h')))
    · rintro (rfl | hstop | hstop)
      · exact hopcode rfl
      · exact hopcode (opcode_of_stopsLike hstop)
      · exact hopcode (opcode_of_stopsLike hstop).symm

end Construction

/-- **Distinct commands are distinct on the wire.** Every two constructions yield commands, and
    these have the same bytes exactly if the constructions are the same or one of them stops
    automatic movement and the other moves by force to the empty board. -/
theorem bytes_eq_iff (construction construction' : Construction) :
    ∃ command command', construction.command = some command ∧
      construction'.command = some command' ∧
      (command.bytes = command'.bytes ↔ construction = construction' ∨
        construction.StopsLike construction' ∨ construction'.StopsLike construction) := by
  obtain ⟨command, hcommand⟩ := construction.exists_command
  obtain ⟨command', hcommand'⟩ := construction'.exists_command
  exact ⟨command, command', hcommand, hcommand',
    Construction.sends_eq_iff (Construction.sends_of_command hcommand)
      (Construction.sends_of_command hcommand')⟩

end ChessnutMove
