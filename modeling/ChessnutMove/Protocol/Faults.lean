import ChessnutMove.Library.FirstFault
import ChessnutMove.Protocol.PositionCodec
import ChessnutMove.Protocol.ResponseGrammar

set_option autoImplicit false

/-! # The faults of a notification

Every error a notification can be rejected with, as the list of all its faults in the order in which
the decoders look for them. The decoders report the first one, with its place, the expected and the
actual value; a notification without a fault is accepted. -/

namespace ChessnutMove

open FirstFault

variable {ε : Type}

/-- What is found in the byte at an offset, if there is one. -/
def foundAt (bytes : List UInt8) (offset : Nat) (found : UInt8 → List ε) : List ε :=
  bytes[offset]?.toList.flatMap found

theorem foundAt_of_lt {bytes : List UInt8} {offset : Nat} (found : UInt8 → List ε)
    (h : offset < bytes.length) : foundAt bytes offset found = found bytes[offset] := by
  rw [foundAt, List.getElem?_eq_getElem h]
  exact List.flatMap_singleton _ _

/-! ## The lists of faults -/

def lengthFaults (error : NotificationTooShortError → ε) (bytes : List UInt8) (expected : Nat) :
    List ε :=
  fault (expected ≤ bytes.length) (error { expected, actual := bytes.length })

def headerFaults (bytes : List UInt8) (offset : Nat) (expected : UInt8) :
    List DecodeResponseNotificationError :=
  foundAt bytes offset fun actual =>
    fault (actual = expected) (.invalidNotificationHeader offset expected actual)

def batteryFaults (bytes : List UInt8) : List DecodeResponseNotificationError :=
  lengthFaults .notificationTooShort bytes 5 ++ headerFaults bytes 1 0x03 ++
    foundAt bytes 3 (fun value =>
      fault (value = 0 ∨ value = 1) (.batteryStatus (.invalidChargingFlag value))) ++
    foundAt bytes 4 (fun value =>
      fault (value ≤ 100) (.batteryStatus (.invalidBatteryPercentage value)))

def recordFaults (bytes : List UInt8) (i : Fin trackedPieceCount) : List PieceStatusError :=
  foundAt bytes (3 + 4 * i.val) (fun value =>
      fault (0x01 ≤ value ∧ value ≤ 0x0c) (.invalidTrackedPiece i value)) ++
    foundAt bytes (6 + 4 * i.val) (fun value =>
      fault (value ≤ 100 ∨ value = 0xff) (.invalidTrackedPieceBattery i value))

def pieceFaults (bytes : List UInt8) : List DecodeResponseNotificationError :=
  lengthFaults .notificationTooShort bytes 139 ++ headerFaults bytes 1 0x89 ++
    (List.finRange trackedPieceCount).flatMap fun i =>
      (recordFaults bytes i).map .pieceStatus

def responseFaults (bytes : List UInt8) : List DecodeResponseNotificationError :=
  lengthFaults .notificationTooShort bytes 3 ++ headerFaults bytes 0 0x41 ++
    foundAt bytes 2 fun responseType =>
      if responseType = 0x0c then batteryFaults bytes
      else if responseType = 0x0b then pieceFaults bytes
      else [.unexpectedNotification responseType]

def squareFaults (square : Square) (value : UInt8) : List DecodePositionNotificationError :=
  fault (value ≤ 0x0c) (.invalidPiece square value)

/-- A position has two squares in a byte, from H8 down to A1, the first in the low nibble. -/
def positionFaults (bytes : List UInt8) : List DecodePositionNotificationError :=
  lengthFaults .notificationTooShort bytes 34 ++
    (List.finRange packedSquareBytes).flatMap fun i =>
      foundAt bytes (2 + i.val) fun value =>
        squareFaults (squareAtWireIndex (firstWireIndex i)) (Nibble.low value) ++
          squareFaults (squareAtWireIndex (secondWireIndex i)) (Nibble.high value)

/-- All faults of a notification; an acknowledgement has none. -/
def Notification.faults (notification : Notification) : List DecodeNotificationError :=
  match notification.source with
  | .position => (positionFaults notification.bytes).map .position
  | .commandResponse =>
      if notification.bytes.head? = some realtimeUpdatesAcknowledgement then []
      else (responseFaults notification.bytes).map .commandResponse

/-! ## The checks -/

section Checks

variable {bytes : List UInt8}

theorem requireLength_reports (error : NotificationTooShortError → ε) (expected : Nat) :
    Reports ((requireLength bytes expected).mapError error)
      (lengthFaults error bytes expected) := by
  refine reports_fault (fun h => ?_) fun h => ?_
  · rw [requireLength_of_le h]
    exact ⟨_, rfl⟩
  · rw [requireLength_of_lt (Nat.lt_of_not_le h)]
    rfl

theorem requireHeaderByte_reports {offset : Nat} (expected : UInt8) (h : offset < bytes.length) :
    Reports (requireHeaderByte bytes offset expected h) (headerFaults bytes offset expected) := by
  rw [headerFaults, foundAt_of_lt _ h]
  refine reports_fault (fun hbyte => ?_) fun hbyte => ?_
  · exact ⟨(), if_pos hbyte⟩
  · exact if_neg hbyte

theorem validateBatteryPercentage_reports (value : UInt8) :
    Reports (validateBatteryPercentage value)
      (fault (value ≤ 100) (.invalidBatteryPercentage value)) :=
  reports_fault (fun h => ⟨value, if_pos h⟩) fun h => if_neg h

theorem decodeTrackedPiece_reports (i : Nat) (value : UInt8) :
    Reports (decodeTrackedPiece i value)
      (fault (0x01 ≤ value ∧ value ≤ 0x0c) (.invalidTrackedPiece i value)) := by
  refine reports_fault (fun h => ?_) fun h => ?_
  · obtain ⟨hpos, hle⟩ := h
    unfold decodeTrackedPiece
    split
    case h_13 =>
      simp only [imp_false, ← UInt8.toNat_inj, UInt8.le_iff_toNat_le, UInt8.reduceToNat] at *
      omega
    all_goals exact ⟨_, rfl⟩
  · unfold decodeTrackedPiece
    split
    case h_13 => rfl
    all_goals exact absurd (by decide) h

theorem validateTrackedPieceBattery_reports (i : Nat) (value : UInt8) :
    Reports (validateTrackedPieceBattery i value)
      (fault (value ≤ 100 ∨ value = 0xff) (.invalidTrackedPieceBattery i value)) := by
  unfold validateTrackedPieceBattery
  refine reports_fault (fun h => ?_) fun h => ?_
  · by_cases hle : value ≤ 100
    · exact ⟨_, if_pos hle⟩
    · rw [if_neg hle, if_pos (h.resolve_left hle)]
      exact ⟨_, rfl⟩
  · rw [if_neg fun hle => h (.inl hle), if_neg fun hff => h (.inr hff)]

theorem decodePiece_reports (square : Square) (value : UInt8) :
    Reports (decodePiece square value) (squareFaults square value) := by
  refine reports_fault (fun h => exists_decodePiece_iff.2 h) fun h => ?_
  exact decodePiece_eq_error_iff.2 ⟨UInt8.not_le.1 h, rfl⟩

/-! ## The decoders -/

theorem decodeBatteryStatus_reports (bytes : List UInt8) :
    Reports (decodeBatteryStatus bytes) (batteryFaults bytes) := by
  rw [batteryFaults, List.append_assoc, List.append_assoc]
  refine (requireLength_reports DecodeResponseNotificationError.notificationTooShort 5).bind ?_
  rintro ⟨hlen⟩ -
  have hlen : 5 ≤ bytes.length := hlen
  refine (requireHeaderByte_reports batteryResponsePayloadLength (by omega)).bind fun _ _ => ?_
  rw [foundAt_of_lt _ (show 3 < bytes.length by omega),
    foundAt_of_lt _ (show 4 < bytes.length by omega)]
  have hrest : ∀ charging, Reports (do
      let percentage ← (validateBatteryPercentage bytes[4]).mapError
        DecodeResponseNotificationError.batteryStatus
      return ({ charging, percentage } : BatteryStatus))
      (fault (bytes[4] ≤ 100) (.batteryStatus (.invalidBatteryPercentage bytes[4]))) := by
    intro charging
    have hpercentage := (validateBatteryPercentage_reports bytes[4]).mapError
      DecodeResponseNotificationError.batteryStatus
    rw [map_fault] at hpercentage
    exact hpercentage.map _
  generalize bytes[3] = flag
  split
  · rw [fault, if_pos (.inl rfl), List.nil_append]
    exact hrest false
  · rw [fault, if_pos (.inr rfl), List.nil_append]
    exact hrest true
  · next value hzero hone =>
      refine .of_error rfl ?_
      rw [fault, if_neg (not_or.2 ⟨hzero, hone⟩)]
      rfl

theorem decodeTrackedPieceStatus_reports (hlen : pieceStatusResponseLength ≤ bytes.length)
    (i : Fin trackedPieceCount) :
    Reports (decodeTrackedPieceStatus bytes hlen i) (recordFaults bytes i) := by
  have hfound : ∀ (field : Fin 4) (found : UInt8 → List PieceStatusError),
      foundAt bytes (3 + field.val + 4 * i.val) found = found (bytes.get
        ⟨trackedPieceOffset i field, Nat.lt_of_lt_of_le (trackedPieceOffset_lt i field) hlen⟩) := by
    intro field found
    rw [← trackedPieceOffset_eq]
    exact foundAt_of_lt found _
  rw [recordFaults, show 3 + 4 * i.val = 3 + (0 : Fin 4).val + 4 * i.val from rfl,
    show 6 + 4 * i.val = 3 + (3 : Fin 4).val + 4 * i.val from rfl, hfound, hfound]
  refine (decodeTrackedPiece_reports i _).bind fun piece _ => ?_
  exact (validateTrackedPieceBattery_reports i _).map _

theorem decodePieceStatus_reports (bytes : List UInt8) :
    Reports (decodePieceStatus bytes) (pieceFaults bytes) := by
  rw [pieceFaults, List.append_assoc]
  refine (requireLength_reports DecodeResponseNotificationError.notificationTooShort 139).bind ?_
  rintro ⟨hlen⟩ -
  refine (requireHeaderByte_reports pieceStatusResponsePayloadLength _).bind fun _ _ => ?_
  refine Reports.map (reports_foldlM (fun pieces i => ?_) _ _) PieceStatus.mk
  exact ((decodeTrackedPieceStatus_reports hlen i).mapError _).map _

theorem decodeResponseNotification_reports (bytes : List UInt8) :
    Reports (decodeResponseNotification bytes) (responseFaults bytes) := by
  rw [responseFaults, List.append_assoc]
  refine (requireLength_reports DecodeResponseNotificationError.notificationTooShort 3).bind ?_
  rintro ⟨hlen⟩ -
  have hlen : 3 ≤ bytes.length := hlen
  refine (requireHeaderByte_reports responseHeader (by omega)).bind fun _ _ => ?_
  rw [foundAt_of_lt _ (show 2 < bytes.length by omega)]
  generalize bytes[2] = responseType
  show Reports (if responseType = batteryResponseType then
      (decodeBatteryStatus bytes).map BoardEvent.batteryStatus
    else if responseType = pieceStatusResponseType then
      (decodePieceStatus bytes).map BoardEvent.pieceStatus
    else .error (.unexpectedNotification responseType))
    (if responseType = batteryResponseType then batteryFaults bytes
    else if responseType = pieceStatusResponseType then pieceFaults bytes
    else [.unexpectedNotification responseType])
  split
  · exact (decodeBatteryStatus_reports bytes).map _
  · split
    · exact (decodePieceStatus_reports bytes).map _
    · exact reports_error _ []

/-- The bytes of the payload. -/
theorem getElem?_payload {packed : PackedSquares}
    (h : (bytes.drop boardStateOffset).take boardStateLength = packed.bytes.toList)
    (i : Fin packedSquareBytes) : bytes[2 + i.val]? = some (packed.bytes.get i) := by
  have hget := congrArg (·[i.val]?) h
  have hlt : i.val < boardStateLength := i.isLt
  simp only [List.getElem?_take, if_pos hlt, List.getElem?_drop, Vector.getElem?_toList,
    Vector.getElem?_eq_getElem i.isLt] at hget
  exact hget

theorem decode_reports (packed : PackedSquares) :
    Reports (packed.decode decodePiece) ((List.finRange packedSquareBytes).flatMap fun i =>
      squareFaults (squareAtWireIndex (firstWireIndex i)) (Nibble.low (packed.bytes.get i)) ++
        squareFaults (squareAtWireIndex (secondWireIndex i))
          (Nibble.high (packed.bytes.get i))) := by
  refine reports_foldlM (fun squares i => ?_) _ _
  refine (decodePiece_reports _ _).bind fun first _ => ?_
  exact (decodePiece_reports _ _).map _

theorem decodePositionNotification_reports (bytes : List UInt8) :
    Reports (decodePositionNotification bytes) (positionFaults bytes) := by
  by_cases hlen : 34 ≤ bytes.length
  · obtain ⟨packed, hpacked⟩ := exists_payload_iff.2 hlen
    rw [decodePositionNotification_of_payload hpacked, positionFaults, lengthFaults, fault,
      if_pos hlen, List.nil_append]
    have hfound : ∀ i, foundAt bytes (2 + i.val) (fun value =>
        squareFaults (squareAtWireIndex (firstWireIndex i)) (Nibble.low value) ++
          squareFaults (squareAtWireIndex (secondWireIndex i)) (Nibble.high value)) =
        squareFaults (squareAtWireIndex (firstWireIndex i)) (Nibble.low (packed.bytes.get i)) ++
          squareFaults (squareAtWireIndex (secondWireIndex i))
            (Nibble.high (packed.bytes.get i)) := by
      intro i
      rw [foundAt, getElem?_payload hpacked i]
      exact List.flatMap_singleton _ _
    simp only [hfound]
    exact (decode_reports packed).map _
  · rw [decodePositionNotification_of_short (Nat.lt_of_not_le hlen), positionFaults, lengthFaults,
      fault, if_neg hlen]
    exact reports_error _ _

end Checks

/-- **Every notification is rejected for its first fault**, and accepted if it has none. -/
theorem decodeNotification_first_fault (notification : Notification) :
    (∀ error, decodeNotification notification = .error error ↔
      notification.faults.head? = some error) ∧
    ((decodeNotification notification).isOk = true ↔ notification.faults = []) := by
  suffices h : Reports (decodeNotification notification) notification.faults from ⟨h, h.isOk_iff⟩
  obtain ⟨source, bytes⟩ := notification
  cases source with
  | position =>
      exact (((decodePositionNotification_reports bytes).map _).map _).mapError _
  | commandResponse =>
      unfold decodeNotification Notification.faults
      dsimp only
      split
      · exact reports_ok _
      · exact ((decodeResponseNotification_reports bytes).map _).mapError _

end ChessnutMove
