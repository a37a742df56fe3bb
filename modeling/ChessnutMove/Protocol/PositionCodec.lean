import ChessnutMove.Protocol.Command
import ChessnutMove.Protocol.Decode

set_option autoImplicit false

/-! # Auto-move targets and position notifications

The two frames that carry a whole position share their layout: two leading bytes, then the packed
squares. Encoding a target and decoding a position are inverse to each other on those 32 bytes. -/

namespace ChessnutMove

/-- The payload of an auto-move command, `bytes()[2..34]`. -/
def Command.target (command : Command) : List UInt8 :=
  (command.bytes.drop boardStateOffset).take boardStateLength

/-- The packed target of an auto-move command is what `PackedSquares` encoded. -/
theorem Command.target_of_autoMove {position : Position} {mode : AutoMoveMode} {command : Command}
    (h : autoMove position mode = some command) :
    ∃ packed, PackedSquares.encode position.squares encodePiece = some packed ∧
      command.target = packed.bytes.toList := by
  obtain ⟨packed, hpacked, rfl⟩ := autoMove_eq_some_iff.1 h
  refine ⟨packed, hpacked, ?_⟩
  have hlen : packed.bytes.toList.length = boardStateLength := Vector.length_toList
  rw [target, bytes_fromBytes, Vector.toList_append, Vector.toList_append, List.append_assoc,
    PackedSquares.intoBytes]
  rw [show boardStateOffset = autoMovePrefix.toList.length from rfl, List.drop_left, ← hlen,
    List.take_left]

/-- Auto-move commands can be built for every position: no nibble assertion fires. -/
theorem Command.exists_autoMove (position : Position) (mode : AutoMoveMode) :
    ∃ command, autoMove position mode = some command := by
  obtain ⟨packed, hpacked⟩ := PackedSquares.encode_isSome position.squares encodePiece_le
  exact ⟨_, autoMove_eq_some_iff.2 ⟨packed, hpacked, rfl⟩⟩

theorem firstChunk_eq_some_iff {n : Nat} {bytes : List UInt8} {payload : Vector UInt8 n} :
    firstChunk n bytes = some payload ↔ bytes.take n = payload.toList := by
  unfold firstChunk
  constructor
  · intro h
    split at h
    · next hlen =>
        rw [Option.some.injEq] at h
        subst h
        refine List.ext_getElem (by simp [hlen]) fun i hi hi' => ?_
        simp
    · exact absurd h (by simp)
  · intro h
    have hlen : n ≤ bytes.length := by
      have hlength := congrArg List.length h
      simp only [List.length_take, Vector.length_toList] at hlength
      omega
    rw [dif_pos hlen, Option.some.injEq]
    refine Vector.ext fun i hi => ?_
    have hget := congrArg (·[i]?) h
    simpa [List.getElem?_take, hi, List.getElem?_eq_getElem (Nat.lt_of_lt_of_le hi hlen)] using hget

/-- The packed squares of a notification are its 32 bytes after the header, if it has them. -/
theorem payload_eq_some_iff {bytes : List UInt8} {payload : Vector UInt8 boardStateLength} :
    (getFrom bytes boardStateOffset).bind (firstChunk boardStateLength) = some payload ↔
      (bytes.drop boardStateOffset).take boardStateLength = payload.toList := by
  unfold getFrom
  by_cases hlen : boardStateOffset ≤ bytes.length
  · rw [if_pos hlen, Option.bind_some, firstChunk_eq_some_iff]
  · rw [if_neg hlen, List.drop_eq_nil_of_le (by omega)]
    constructor
    · intro h
      exact absurd h (by simp)
    · intro h
      have hlength := congrArg List.length h
      rw [List.take_nil, List.length_nil, Vector.length_toList] at hlength
      exact absurd hlength (by decide)

/-- A notification with its 32 payload bytes is decoded from them alone. -/
theorem decodePositionNotification_of_payload {bytes : List UInt8} {packed : PackedSquares}
    (h : (bytes.drop boardStateOffset).take boardStateLength = packed.bytes.toList) :
    decodePositionNotification bytes = (packed.decode decodePiece).map Position.mk := by
  unfold decodePositionNotification
  rw [payload_eq_some_iff.2 h]
  rfl

/-- A notification has its payload bytes exactly if it is long enough. -/
theorem exists_payload_iff {bytes : List UInt8} :
    (∃ packed : PackedSquares,
        (bytes.drop boardStateOffset).take boardStateLength = packed.bytes.toList) ↔
      boardStateOffset + boardStateLength ≤ bytes.length := by
  constructor
  · rintro ⟨packed, h⟩
    have hlength := congrArg List.length h
    rw [List.length_take, List.length_drop, Vector.length_toList] at hlength
    simp only [packedSquareBytes, squareCount, boardWidth, boardStateLength, boardStateOffset]
      at hlength ⊢
    omega
  · intro hlen
    have htake : ((bytes.drop boardStateOffset).take boardStateLength).length
        = boardStateLength := by
      rw [List.length_take, List.length_drop]
      omega
    exact ⟨⟨⟨_, htake⟩⟩, rfl⟩

/-- A notification without its payload bytes is too short. -/
theorem decodePositionNotification_of_short {bytes : List UInt8}
    (h : bytes.length < boardStateOffset + boardStateLength) :
    decodePositionNotification bytes
      = .error (.notificationTooShort ⟨boardStateOffset + boardStateLength, bytes.length⟩) := by
  unfold decodePositionNotification
  cases hpayload : (getFrom bytes boardStateOffset).bind (firstChunk boardStateLength) with
  | none => rfl
  | some payload =>
      have hlen := exists_payload_iff.1 ⟨⟨payload⟩, payload_eq_some_iff.1 hpayload⟩
      omega

/-- **The position notifications.** A byte sequence decodes to `position` exactly when it holds a
    whole payload at offset two and the payload decodes to the squares of `position`. -/
theorem decodePositionNotification_eq_ok_iff {bytes : List UInt8} {position : Position} :
    decodePositionNotification bytes = .ok position ↔
      ∃ packed : PackedSquares,
        (bytes.drop boardStateOffset).take boardStateLength = packed.bytes.toList ∧
        packed.decode decodePiece = .ok position.squares := by
  constructor
  · intro h
    by_cases hlen : boardStateOffset + boardStateLength ≤ bytes.length
    · obtain ⟨packed, hpacked⟩ := exists_payload_iff.2 hlen
      rw [decodePositionNotification_of_payload hpacked, Except.map_eq_ok_iff] at h
      obtain ⟨squares, hsquares, rfl⟩ := h
      exact ⟨packed, hpacked, hsquares⟩
    · rw [decodePositionNotification_of_short (Nat.lt_of_not_le hlen)] at h
      cases h
  · rintro ⟨packed, hpacked, hsquares⟩
    rw [decodePositionNotification_of_payload hpacked, hsquares]
    rfl

/-! ## Nibbles of a frame -/

/-- The nibble at a wire offset of a frame with two leading bytes: byte `2 + w / 2`, its low half at
    even offsets and its high half at odd ones. -/
def frameNibble (bytes : List UInt8) (w : WireIndex) : UInt8 :=
  let byte := bytes.getD (boardStateOffset + w / 2) 0
  if w.val % 2 = 0 then Nibble.low byte else Nibble.high byte

theorem frameNibble_eq_nibbleAt {bytes : List UInt8} {packed : PackedSquares}
    (h : (bytes.drop boardStateOffset).take boardStateLength = packed.bytes.toList)
    (w : WireIndex) : frameNibble bytes w = packed.nibbleAt w := by
  have hw : w.val / 2 < packedSquareBytes := by
    have hlt := w.isLt
    simp only [packedSquareBytes, squareCount, boardWidth] at hlt ⊢
    omega
  have hbyte : bytes.getD (boardStateOffset + w / 2) 0 = packed.bytes[w.val / 2] := by
    have hget := congrArg (·[w.val / 2]?) h
    have hlt : w.val / 2 < boardStateLength := hw
    simp only [List.getElem?_take, if_pos hlt, List.getElem?_drop, Vector.getElem?_toList,
      Vector.getElem?_eq_getElem hw] at hget
    rw [List.getD_eq_getElem?_getD, hget, Option.getD_some]
  simp only [frameNibble, PackedSquares.nibbleAt, hbyte]
  rfl

/-- **Encoder and decoder are mutually inverse.** The target of an auto-move command, behind any two
    header bytes and before any trailing bytes, decodes to the position it was built from; and the
    payload of any notification that decodes is the target of the command for its position. -/
theorem autoMove_decode_inverse (position : Position) (mode : AutoMoveMode) :
    (∃ command, Command.autoMove position mode = some command ∧
      ∀ (h₀ h₁ : UInt8) (trailing : List UInt8),
        decodePositionNotification ([h₀, h₁] ++ command.target ++ trailing) = .ok position) ∧
    ∀ bytes, decodePositionNotification bytes = .ok position →
      ∃ command, Command.autoMove position mode = some command ∧
        command.target = (bytes.drop boardStateOffset).take boardStateLength := by
  obtain ⟨command, hcommand⟩ := Command.exists_autoMove position mode
  obtain ⟨packed, hpacked, htarget⟩ := Command.target_of_autoMove hcommand
  refine ⟨⟨command, hcommand, fun h₀ h₁ trailing => ?_⟩, fun bytes hbytes => ?_⟩
  · refine decodePositionNotification_eq_ok_iff.2 ⟨packed, ?_,
      PackedSquares.decode_of_encode decodePiece_encodePiece hpacked⟩
    have hlen : packed.bytes.toList.length = boardStateLength := Vector.length_toList
    have hdrop : ([h₀, h₁] ++ (packed.bytes.toList ++ trailing)).drop boardStateOffset
        = packed.bytes.toList ++ trailing := rfl
    rw [htarget, List.append_assoc, hdrop, ← hlen, List.take_left]
  · obtain ⟨packed', htake, hdecode⟩ := decodePositionNotification_eq_ok_iff.1 hbytes
    have hencode := PackedSquares.encode_of_decode encodePiece_le
      (fun _ _ _ _ => encodePiece_of_decodePiece) hdecode
    rw [hpacked, Option.some.injEq] at hencode
    exact ⟨command, hcommand, by rw [htarget, htake, hencode]⟩

end ChessnutMove
