import ChessnutMove.Protocol.Wire

set_option autoImplicit false

/-! # Notification decoders

The decoders of `protocol/mod.rs` over arbitrary byte sequences. A slice index is a `List` index
with its bound, which `requireLength` hands on as its result, so no decoder can index out of
range. -/

namespace ChessnutMove

def boardStateOffset : Nat := 2
def responseHeader : UInt8 := 0x41
def responseHeaderLength : Nat := 3
def batteryResponseLength : Nat := 5
def batteryResponsePayloadLength : UInt8 := 0x03
def batteryResponseType : UInt8 := 0x0c
def pieceStatusResponsePayloadLength : UInt8 := 0x89
def pieceStatusResponseType : UInt8 := 0x0b
def trackedPieceBytes : Nat := 4
def pieceStatusResponseLength : Nat :=
  responseHeaderLength + trackedPieceCount * trackedPieceBytes

/-! ## Slices -/

/-- `slice.get(start..)`. -/
def getFrom (bytes : List UInt8) (start : Nat) : Option (List UInt8) :=
  if start ≤ bytes.length then some (bytes.drop start) else none

/-- `slice.first_chunk::<N>()`. -/
def firstChunk (n : Nat) (bytes : List UInt8) : Option (Vector UInt8 n) :=
  if h : n ≤ bytes.length then some (Vector.ofFn fun i => bytes[i]) else none

/-! ## Positions -/

/-- Decodes a position notification: bytes two through thirty-three are the packed state of all 64
    squares, any trailing bytes are ignored. -/
def decodePositionNotification (bytes : List UInt8) :
    Except DecodePositionNotificationError Position :=
  let expectedMinimum := boardStateOffset + boardStateLength
  match (getFrom bytes boardStateOffset).bind (firstChunk boardStateLength) with
  | none => .error (.notificationTooShort { expected := expectedMinimum, actual := bytes.length })
  | some payload => do
      let packed := PackedSquares.fromBytes payload
      let squares ← packed.decode decodePiece
      return ⟨squares⟩

/-! ## Responses -/

/-- The bound that a passed check establishes is its result. -/
def requireLength (bytes : List UInt8) (expected : Nat) :
    Except NotificationTooShortError (PLift (expected ≤ bytes.length)) :=
  if h : bytes.length < expected then .error { expected, actual := bytes.length }
  else .ok ⟨Nat.le_of_not_lt h⟩

def requireHeaderByte (bytes : List UInt8) (offset : Nat) (expected : UInt8)
    (h : offset < bytes.length) : Except DecodeResponseNotificationError Unit :=
  let actual := bytes[offset]
  if actual = expected then .ok () else .error (.invalidNotificationHeader offset expected actual)

def validateBatteryPercentage (value : UInt8) : Except BatteryStatusError UInt8 :=
  if value ≤ 100 then .ok value else .error (.invalidBatteryPercentage value)

/-- Hardware reports `0xff` when a physical piece's battery telemetry is unavailable. -/
def validateTrackedPieceBattery (index : Nat) (value : UInt8) :
    Except PieceStatusError (Option UInt8) :=
  if value ≤ 100 then .ok (some value)
  else if value = 0xff then .ok none
  else .error (.invalidTrackedPieceBattery index value)

/-- Decodes the identity byte of one piece record. The record's index is only reported. -/
def decodeTrackedPiece (index : Nat) (value : UInt8) : Except PieceStatusError Piece :=
  match value with
  | 0x01 => .ok ⟨.white, .pawn⟩
  | 0x02 => .ok ⟨.white, .rook⟩
  | 0x03 => .ok ⟨.white, .knight⟩
  | 0x04 => .ok ⟨.white, .bishop⟩
  | 0x05 => .ok ⟨.white, .queen⟩
  | 0x06 => .ok ⟨.white, .king⟩
  | 0x07 => .ok ⟨.black, .pawn⟩
  | 0x08 => .ok ⟨.black, .rook⟩
  | 0x09 => .ok ⟨.black, .knight⟩
  | 0x0a => .ok ⟨.black, .bishop⟩
  | 0x0b => .ok ⟨.black, .queen⟩
  | 0x0c => .ok ⟨.black, .king⟩
  | value => .error (.invalidTrackedPiece index value)

def decodeBatteryStatus (bytes : List UInt8) :
    Except DecodeResponseNotificationError BatteryStatus := do
  let ⟨hlen⟩ ← (requireLength bytes batteryResponseLength).mapError .notificationTooShort
  have hlen : 5 ≤ bytes.length := hlen
  requireHeaderByte bytes 1 batteryResponsePayloadLength (by omega)
  let charging ← match bytes[3] with
    | 0 => .ok false
    | 1 => .ok true
    | value => .error (.batteryStatus (.invalidChargingFlag value))
  let percentage ← (validateBatteryPercentage bytes[4]).mapError .batteryStatus
  return { charging, percentage }

/-- Byte `field` of record `index` of a piece-status frame. -/
def trackedPieceOffset (index : Fin trackedPieceCount) (field : Fin 4) : Nat :=
  responseHeaderLength + index * trackedPieceBytes + field

theorem trackedPieceOffset_lt (index : Fin trackedPieceCount) (field : Fin 4) :
    trackedPieceOffset index field < pieceStatusResponseLength := by
  have hi := index.isLt
  have hf := field.isLt
  simp only [trackedPieceOffset, pieceStatusResponseLength, responseHeaderLength,
    trackedPieceCount, trackedPieceBytes] at *
  omega

/-- One iteration of the record loop: the identity is decoded before the battery is validated. -/
def decodeTrackedPieceStatus (bytes : List UInt8) (hlen : pieceStatusResponseLength ≤ bytes.length)
    (index : Fin trackedPieceCount) : Except PieceStatusError TrackedPieceStatus := do
  let byte (field : Fin 4) : UInt8 :=
    bytes.get ⟨trackedPieceOffset index field,
      Nat.lt_of_lt_of_le (trackedPieceOffset_lt index field) hlen⟩
  let piece ← decodeTrackedPiece index (byte 0)
  let batteryPercentage ← validateTrackedPieceBattery index (byte 3)
  return { piece, x := byte 1, y := byte 2, batteryPercentage }

def decodePieceStatus (bytes : List UInt8) :
    Except DecodeResponseNotificationError PieceStatus := do
  let ⟨hlen⟩ ← (requireLength bytes pieceStatusResponseLength).mapError .notificationTooShort
  requireHeaderByte bytes 1 pieceStatusResponsePayloadLength (Nat.lt_of_lt_of_le (by decide) hlen)
  let pieces ← (List.finRange trackedPieceCount).foldlM
    (fun (pieces : Vector TrackedPieceStatus trackedPieceCount) index => do
      let status ← (decodeTrackedPieceStatus bytes hlen index).mapError .pieceStatus
      return pieces.set index status index.isLt)
    (Vector.replicate trackedPieceCount default)
  return ⟨pieces⟩

/-- Decodes a battery or tracked-piece response notification. -/
def decodeResponseNotification (bytes : List UInt8) :
    Except DecodeResponseNotificationError BoardEvent := do
  let ⟨hlen⟩ ← (requireLength bytes responseHeaderLength).mapError .notificationTooShort
  have hlen : 3 ≤ bytes.length := hlen
  requireHeaderByte bytes 0 responseHeader (by omega)
  let responseType := bytes[2]
  if responseType = batteryResponseType then
    (decodeBatteryStatus bytes).map .batteryStatus
  else if responseType = pieceStatusResponseType then
    (decodePieceStatus bytes).map .pieceStatus
  else
    .error (.unexpectedNotification responseType)

end ChessnutMove
