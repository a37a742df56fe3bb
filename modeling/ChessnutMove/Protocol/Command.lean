import ChessnutMove.Library.PaddedBuffer
import ChessnutMove.Protocol.Led

set_option autoImplicit false

/-! # Commands

Typed construction of the commands of the Move API (`command.rs`). Every constructor passes a
statically sized array through `Command.fromBytes`, which copies it into a zeroed buffer of the
largest command's size; `bytes_fromBytes` says that what is written to the board is that array. -/

namespace ChessnutMove

/-- Selects the GATT write operation required by a command. -/
inductive WriteKind
  | withResponse | withoutResponse
  deriving DecidableEq, Repr

/-- Selects how an automatic movement reacts to user interaction. -/
inductive AutoMoveMode
  | force | normal
  deriving DecidableEq, Repr

def AutoMoveMode.flag : AutoMoveMode → UInt8
  | .force => 0x00
  | .normal => 0x01

def autoMovePrefix : Vector UInt8 2 := #v[0x42, 0x21]

def setLedPrefix : Vector UInt8 2 := #v[0x43, 0x20]

def autoMoveCommandLength : Nat := 35

def setLedCommandLength : Nat := 2 + boardStateLength

def constMax (left right : Nat) : Nat := if left > right then left else right

/-- Maximum number of bytes in a command. -/
def maxCommandLen : Nat := constMax autoMoveCommandLength setLedCommandLength

/-- An encoded command: the first `len` bytes of a fixed buffer. The fields of the Rust type are
    private, so the bound that keeps the slice of `bytes` in range is part of the type. -/
structure Command where
  buffer : Vector UInt8 maxCommandLen
  len : UInt8
  writeKind : WriteKind
  len_le : len.toNat ≤ maxCommandLen
  deriving DecidableEq

/-- The copy loop of `Command::from_bytes`. -/
def copyInto {n : Nat} (input : Vector UInt8 n) (h : n ≤ maxCommandLen) :
    Vector UInt8 maxCommandLen :=
  (List.finRange n).foldl
    (fun bytes (index : Fin n) => bytes.set index (input.get index) (by omega))
    (Vector.replicate maxCommandLen 0)

namespace Command

/-- Wraps a statically sized array. The bound is a compile-time assertion of the source, and the
    cast of the length to a byte is the one the source makes. -/
def fromBytes {n : Nat} (input : Vector UInt8 n) (writeKind : WriteKind)
    (h : n ≤ maxCommandLen := by decide) : Command where
  buffer := copyInto input h
  len := UInt8.ofNat n
  writeKind := writeKind
  len_le := by
    have hmax : maxCommandLen < 256 := by decide
    rw [UInt8.toNat_ofNat_of_lt' (Nat.lt_of_le_of_lt h hmax)]
    exact h

/-- The complete byte sequence to write to the board. -/
def bytes (command : Command) : List UInt8 := command.buffer.toList.take command.len.toNat

/-- A command that moves the physical pieces to a target position. `none` is a failed nibble
    assertion of the packing. -/
def autoMove (position : Position) (mode : AutoMoveMode) : Option Command := do
  let bytes := (← PackedSquares.encode position.squares encodePiece).intoBytes
  return fromBytes (autoMovePrefix ++ bytes ++ #v[mode.flag]) .withoutResponse

/-- A command that stops the current automatic movement. -/
def stopAutoMove : Command :=
  let command : Vector UInt8 autoMoveCommandLength := Vector.replicate autoMoveCommandLength 0
  let command := command.set 0 autoMovePrefix[0] (by decide)
  let command := command.set 1 autoMovePrefix[1] (by decide)
  fromBytes command .withoutResponse

/-- A command that enables realtime position notifications. -/
def enableRealtimeUpdates : Command := fromBytes #v[0x21, 0x01, 0x00] .withResponse

/-- A three-byte register query using a GATT write with response. -/
def queryCommand (register : UInt8) : Command := fromBytes #v[0x41, 0x01, register] .withResponse

def readBatteryLevel : Command := queryCommand 0x0c

def readPieceStatus : Command := queryCommand 0x0b

/-- A command that replaces the LED color of every square. `none` is a failed nibble assertion of
    the packing. -/
def setLeds (pattern : LedPattern) : Option Command := do
  let packed ← pattern.encode
  return fromBytes (setLedPrefix ++ packed) .withoutResponse

end Command

/-! ## The bytes of a command -/

/-- The buffer of a command: the array it was built from, then zeros. -/
theorem Command.pads_fromBytes {n : Nat} (input : Vector UInt8 n) (writeKind : WriteKind)
    (h : n ≤ maxCommandLen) :
    PaddedBuffer.Pads 0 (fromBytes input writeKind h).buffer input.toList :=
  PaddedBuffer.pads_foldl_set 0 input h

/-- The cast of the length to a byte loses nothing. -/
theorem Command.toNat_len_fromBytes {n : Nat} (input : Vector UInt8 n) (writeKind : WriteKind)
    (h : n ≤ maxCommandLen) : (fromBytes input writeKind h).len.toNat = n := by
  have hmax : maxCommandLen < 256 := by decide
  exact UInt8.toNat_ofNat_of_lt' (Nat.lt_of_le_of_lt h hmax)

/-- **What a command writes is the array it was built from.** -/
@[simp] theorem Command.bytes_fromBytes {n : Nat} (input : Vector UInt8 n) (writeKind : WriteKind)
    (h : n ≤ maxCommandLen) : (fromBytes input writeKind h).bytes = input.toList := by
  have htake := (pads_fromBytes input writeKind h).take_eq
  rw [Vector.length_toList] at htake
  rw [bytes, toNat_len_fromBytes]
  exact htake

/-- The bytes of an auto-move command: prefix, packed target, mode. -/
theorem Command.autoMove_eq_some_iff {position : Position} {mode : AutoMoveMode}
    {command : Command} : autoMove position mode = some command ↔
      ∃ packed, PackedSquares.encode position.squares encodePiece = some packed ∧
        command = fromBytes (autoMovePrefix ++ packed.intoBytes ++ #v[mode.flag])
          .withoutResponse := by
  simp only [autoMove, Option.bind_eq_bind, Option.pure_def, Option.bind_eq_some_iff,
    Option.some.injEq, @eq_comm _ command]

/-- The bytes of an LED command: prefix, packed colors. -/
theorem Command.setLeds_eq_some_iff {pattern : LedPattern} {command : Command} :
    setLeds pattern = some command ↔
      ∃ packed, PackedSquares.encode pattern.squares LedColor.encoded = some packed ∧
        command = fromBytes (setLedPrefix ++ packed.intoBytes) .withoutResponse := by
  unfold setLeds LedPattern.encode
  constructor
  · intro h
    cases hpacked : PackedSquares.encode pattern.squares LedColor.encoded with
    | none =>
        rw [hpacked] at h
        cases h
    | some packed =>
        rw [hpacked] at h
        exact ⟨packed, rfl, (Option.some.inj h).symm⟩
  · rintro ⟨packed, hpacked, rfl⟩
    rw [hpacked]
    rfl

end ChessnutMove
