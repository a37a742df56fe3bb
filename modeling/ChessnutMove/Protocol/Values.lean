import Mathlib.Data.List.Basic

set_option autoImplicit false

/-! # Protocol values

The typed values of the Move protocol (`square.rs`, `position.rs`, `event.rs`, `errors.rs`):
squares in canonical A1-to-H8 order, positions, decoded events, and the errors the decoders
return. A Rust array `[T; N]` is a `Vector T N`, a byte is a `UInt8`, a `usize` that is only an
index or a length is a `Nat`. -/

namespace ChessnutMove

/-! ## Squares -/

def boardWidth : Nat := 8

/-- Number of squares on a chessboard. -/
def squareCount : Nat := boardWidth * boardWidth

/-- A chessboard file from A through H. -/
inductive File
  | a | b | c | d | e | f | g | h
  deriving DecidableEq, Repr

/-- A chessboard rank from one through eight. -/
inductive Rank
  | one | two | three | four | five | six | seven | eight
  deriving DecidableEq, Repr

/-- The zero-based file index from A through H. -/
def File.index : File → Fin 8
  | .a => 0 | .b => 1 | .c => 2 | .d => 3 | .e => 4 | .f => 5 | .g => 6 | .h => 7

/-- The zero-based rank index from one through eight. -/
def Rank.index : Rank → Fin 8
  | .one => 0 | .two => 1 | .three => 2 | .four => 3 | .five => 4 | .six => 5 | .seven => 6
  | .eight => 7

/-- A chessboard square stored in canonical A1-to-H8 order. The private byte of the Rust type is
    below `squareCount` in every value its constructors build, so the bound is part of the type. -/
structure Square where
  value : Fin squareCount
  deriving DecidableEq, Repr

namespace Square

/-- The square at a file and a rank. -/
def new (file : File) (rank : Rank) : Square :=
  ⟨⟨rank.index * boardWidth + file.index, by
    have hr := rank.index.isLt
    have hf := file.index.isLt
    simp only [squareCount, boardWidth]
    omega⟩⟩

/-- The canonical zero-based index. -/
def index (square : Square) : Fin squareCount := square.value

theorem index_lt (square : Square) : square.index.val < squareCount := square.index.isLt

/-- `Square::ALL`, the table from canonical indexes to squares. -/
def all : Vector Square squareCount := Vector.ofFn fun index => ⟨index⟩

end Square

/-! ## Pieces and positions -/

/-- Side to which a chess piece belongs. -/
inductive Color
  | white | black
  deriving DecidableEq, Repr

/-- Chess role of a piece. -/
inductive PieceKind
  | pawn | knight | bishop | rook | queen | king
  deriving DecidableEq, Repr

structure Piece where
  color : Color
  kind : PieceKind
  deriving DecidableEq, Repr

/-- Number of packed bytes used to encode all 64 board squares. -/
def boardStateLength : Nat := 32

/-- Piece occupancy for all 64 squares, in canonical order. -/
structure Position where
  squares : Vector (Option Piece) squareCount
  deriving DecidableEq

/-- The piece occupying a square, or `none` when it is empty. -/
def Position.pieceAt (position : Position) (square : Square) : Option Piece :=
  position.squares[square.index]

/-! ## Events -/

/-- Charging state and battery percentage reported by the board. -/
structure BatteryStatus where
  charging : Bool
  percentage : UInt8
  deriving DecidableEq, Repr

/-- Status reported for one tracked physical chess piece. -/
structure TrackedPieceStatus where
  piece : Piece
  x : UInt8
  y : UInt8
  batteryPercentage : Option UInt8
  deriving DecidableEq, Repr

/-- The unavailable white-pawn placeholder that fills fixed response arrays. -/
instance : Inhabited TrackedPieceStatus :=
  ⟨{ piece := ⟨.white, .pawn⟩, x := 0, y := 0, batteryPercentage := none }⟩

/-- Number of physical piece records in a tracked-piece response. -/
def trackedPieceCount : Nat := 34

/-- Status records for every physical piece tracked by the board. -/
structure PieceStatus where
  pieces : Vector TrackedPieceStatus trackedPieceCount
  deriving DecidableEq

/-- A decoded board-state or status notification. -/
inductive BoardEvent
  | positionChanged (position : Position)
  | batteryStatus (status : BatteryStatus)
  | pieceStatus (status : PieceStatus)
  deriving DecidableEq

/-! ## Decoder errors -/

structure NotificationTooShortError where
  expected : Nat
  actual : Nat
  deriving DecidableEq, Repr

inductive BatteryStatusError
  | invalidChargingFlag (value : UInt8)
  | invalidBatteryPercentage (value : UInt8)
  deriving DecidableEq, Repr

inductive PieceStatusError
  | invalidTrackedPiece (index : Nat) (value : UInt8)
  | invalidTrackedPieceBattery (index : Nat) (value : UInt8)
  deriving DecidableEq, Repr

/-- Reports why a command-response notification could not be decoded. -/
inductive DecodeResponseNotificationError
  | notificationTooShort (error : NotificationTooShortError)
  | pieceStatus (error : PieceStatusError)
  | batteryStatus (error : BatteryStatusError)
  | unexpectedNotification (responseType : UInt8)
  | invalidNotificationHeader (offset : Nat) (expected actual : UInt8)
  deriving DecidableEq, Repr

/-- Reports why a position notification could not be decoded. -/
inductive DecodePositionNotificationError
  | notificationTooShort (error : NotificationTooShortError)
  | invalidPiece (square : Square) (value : UInt8)
  deriving DecidableEq, Repr

end ChessnutMove
