import ChessnutMove.Protocol.TrackedPieces
import ChessnutMove.Transport.Notification

set_option autoImplicit false

/-! # The grammar of command responses

Which byte sequences `decodeNotification` accepts on the command-response characteristic, what it
makes of them, and which piece record it reports when one is at fault. The frames are given by byte
offsets; the length that a decoder requires covers every byte it reads, so what follows a frame has
no effect. -/

namespace ChessnutMove

open Fill

/-! ## The frames -/

/-- A battery response: header, charging flag, percentage. -/
structure BatteryFrame (bytes : List UInt8) (status : BatteryStatus) : Prop where
  length : 5 ≤ bytes.length
  header : bytes.take 3 = [0x41, 0x03, 0x0c]
  flag : bytes[3]? = some 0 ∨ bytes[3]? = some 1
  charging : status.charging = true ↔ bytes[3]? = some 1
  percentage : bytes[4]? = some status.percentage
  percentage_le : status.percentage ≤ 100

/-- A piece-status response: header, then 34 records of identity, coordinates and battery. -/
structure PieceStatusFrame (bytes : List UInt8) (status : PieceStatus) : Prop where
  length : 139 ≤ bytes.length
  header : bytes.take 3 = [0x41, 0x89, 0x0b]
  identity : ∀ i : Fin trackedPieceCount, ∃ value, bytes[3 + 4 * i.val]? = some value ∧
    decodeTrackedPiece i value = .ok (status.pieces.get i).piece
  x : ∀ i : Fin trackedPieceCount, bytes[4 + 4 * i.val]? = some (status.pieces.get i).x
  y : ∀ i : Fin trackedPieceCount, bytes[5 + 4 * i.val]? = some (status.pieces.get i).y
  /-- The battery is absent for the byte `0xff` and for no other. -/
  battery : ∀ i : Fin trackedPieceCount, ∃ value, bytes[6 + 4 * i.val]? = some value ∧
    (value ≤ 100 ∧ (status.pieces.get i).batteryPercentage = some value ∨
      value = 0xff ∧ (status.pieces.get i).batteryPercentage = none)

/-- The fault of a record: of its identity, or, with a good identity, of its battery. -/
inductive RecordFault (bytes : List UInt8) (i : Fin trackedPieceCount) : PieceStatusError → Prop
  | identity (value : UInt8) (hvalue : bytes[3 + 4 * i.val]? = some value)
      (hfault : ∀ piece, decodeTrackedPiece i value ≠ .ok piece) :
      RecordFault bytes i (.invalidTrackedPiece i value)
  | battery (identity : UInt8) (piece : Piece) (value : UInt8)
      (hidentity : bytes[3 + 4 * i.val]? = some identity)
      (hpiece : decodeTrackedPiece i identity = .ok piece)
      (hvalue : bytes[6 + 4 * i.val]? = some value) (hlarge : 100 < value)
      (hdefined : value ≠ 0xff) :
      RecordFault bytes i (.invalidTrackedPieceBattery i value)

/-! ## The checks -/

theorem requireLength_of_le {bytes : List UInt8} {expected : Nat} (h : expected ≤ bytes.length) :
    requireLength bytes expected = .ok ⟨h⟩ :=
  dif_neg (Nat.not_lt_of_le h)

theorem requireLength_of_lt {bytes : List UInt8} {expected : Nat} (h : bytes.length < expected) :
    requireLength bytes expected = .error { expected, actual := bytes.length } :=
  dif_pos h

theorem requireHeaderByte_append {bytes : List UInt8} {offset : Nat} {expected : UInt8}
    (trailing : List UInt8) (h : offset < bytes.length)
    (h' : offset < (bytes ++ trailing).length) :
    requireHeaderByte (bytes ++ trailing) offset expected h'
      = requireHeaderByte bytes offset expected h := by
  simp only [requireHeaderByte, List.getElem_append_left h]

/-- The three header bytes. -/
theorem take_header_iff {bytes : List UInt8} {b₀ b₁ b₂ : UInt8} :
    bytes.take 3 = [b₀, b₁, b₂] ↔
      bytes[0]? = some b₀ ∧ bytes[1]? = some b₁ ∧ bytes[2]? = some b₂ := by
  rcases bytes with _ | ⟨x₀, _ | ⟨x₁, _ | ⟨x₂, rest⟩⟩⟩ <;> simp

/-- Where the fields of a record are. -/
theorem trackedPieceOffset_eq (i : Fin trackedPieceCount) (field : Fin 4) :
    trackedPieceOffset i field = 3 + field.val + 4 * i.val := by
  simp only [trackedPieceOffset, responseHeaderLength, trackedPieceBytes]
  omega

theorem decodeTrackedPiece_eq_error_iff {i : Nat} {value : UInt8} {error : PieceStatusError} :
    decodeTrackedPiece i value = .error error ↔
      (∀ piece, decodeTrackedPiece i value ≠ .ok piece) ∧ error = .invalidTrackedPiece i value := by
  unfold decodeTrackedPiece
  split <;> simp [eq_comm]

theorem validateTrackedPieceBattery_eq_ok_iff {i : Nat} {value : UInt8} {battery : Option UInt8} :
    validateTrackedPieceBattery i value = .ok battery ↔
      value ≤ 100 ∧ battery = some value ∨ value = 0xff ∧ battery = none := by
  unfold validateTrackedPieceBattery
  by_cases hle : value ≤ 100
  · have hne : value ≠ 0xff := by
      rintro rfl
      exact absurd hle (by decide)
    simp [hle, hne, eq_comm]
  · by_cases hff : value = 0xff
    · simp [hff, eq_comm]
    · simp [hle, hff]

theorem validateTrackedPieceBattery_eq_error_iff {i : Nat} {value : UInt8}
    {error : PieceStatusError} :
    validateTrackedPieceBattery i value = .error error ↔
      100 < value ∧ value ≠ 0xff ∧ error = .invalidTrackedPieceBattery i value := by
  unfold validateTrackedPieceBattery
  by_cases hle : value ≤ 100
  · simp [hle, UInt8.not_lt.2 hle]
  · by_cases hff : value = 0xff
    · simp [hff]
    · simp [hle, hff, UInt8.not_le.1 hle, eq_comm]

theorem validateBatteryPercentage_eq_ok_iff {value percentage : UInt8} :
    validateBatteryPercentage value = .ok percentage ↔ value = percentage ∧ percentage ≤ 100 := by
  unfold validateBatteryPercentage
  by_cases hle : value ≤ 100
  · rw [if_pos hle, Except.ok.injEq]
    exact ⟨fun h => ⟨h, h ▸ hle⟩, fun h => h.1⟩
  · rw [if_neg hle]
    exact iff_of_false (by simp) fun h => hle (h.1 ▸ h.2)

/-! ## The decoders -/

section Decoders

variable {bytes : List UInt8}

theorem decodeResponseNotification_of_short (h : bytes.length < 3) :
    decodeResponseNotification bytes = .error (.notificationTooShort ⟨3, bytes.length⟩) := by
  have hlen : bytes.length < responseHeaderLength := h
  rw [decodeResponseNotification, requireLength_of_lt hlen]
  rfl

theorem decodeResponseNotification_of_other_header {b₀ : UInt8} (hlen : 3 ≤ bytes.length)
    (hzero : bytes[0]? = some b₀) (hne : b₀ ≠ responseHeader) :
    decodeResponseNotification bytes
      = .error (.invalidNotificationHeader 0 responseHeader b₀) := by
  obtain ⟨hpos, hb₀⟩ := List.getElem?_eq_some_iff.1 hzero
  have hheader : requireHeaderByte bytes 0 responseHeader hpos
      = .error (.invalidNotificationHeader 0 responseHeader b₀) := by
    rw [requireHeaderByte, hb₀, if_neg hne]
  rw [decodeResponseNotification, requireLength_of_le (show responseHeaderLength ≤ _ from hlen)]
  simp only [Except.mapError, bind, Except.bind, hheader]

/-- Which of the two payload decoders a response goes to. -/
theorem decodeResponseNotification_of_header {responseType : UInt8}
    (hzero : bytes[0]? = some responseHeader) (htwo : bytes[2]? = some responseType) :
    decodeResponseNotification bytes =
      if responseType = batteryResponseType then (decodeBatteryStatus bytes).map .batteryStatus
      else if responseType = pieceStatusResponseType then
        (decodePieceStatus bytes).map .pieceStatus
      else .error (.unexpectedNotification responseType) := by
  obtain ⟨hlen, rfl⟩ := List.getElem?_eq_some_iff.1 htwo
  have hheader := (requireHeaderByte_eq_ok_iff (h := by omega) (u := ())).2 hzero
  rw [decodeResponseNotification, requireLength_of_le (show responseHeaderLength ≤ _ from hlen)]
  simp only [Except.mapError, bind, Except.bind, hheader]
  rfl

/-- What the response decoder finds before it looks at a payload. -/
theorem response_cases (bytes : List UInt8) :
    bytes.length < 3 ∨
      (3 ≤ bytes.length ∧ ∃ b₀, bytes[0]? = some b₀ ∧ b₀ ≠ responseHeader) ∨
      (bytes[0]? = some responseHeader ∧ ∃ responseType, bytes[2]? = some responseType) := by
  by_cases hlen : 3 ≤ bytes.length
  · have hzero : bytes[0]? = some bytes[0] := List.getElem?_eq_getElem (by omega)
    by_cases hheader : bytes[0] = responseHeader
    · exact .inr (.inr ⟨hheader ▸ hzero, _, List.getElem?_eq_getElem (show 2 < _ by omega)⟩)
    · exact .inr (.inl ⟨hlen, _, hzero, hheader⟩)
  · exact .inl (Nat.lt_of_not_le hlen)

theorem decodeBatteryStatus_of_short (h : bytes.length < 5) :
    decodeBatteryStatus bytes = .error (.notificationTooShort ⟨5, bytes.length⟩) := by
  have hlen : bytes.length < batteryResponseLength := h
  rw [decodeBatteryStatus, requireLength_of_lt hlen]
  rfl

theorem decodePieceStatus_of_short (h : bytes.length < 139) :
    decodePieceStatus bytes = .error (.notificationTooShort ⟨139, bytes.length⟩) := by
  have hlen : bytes.length < pieceStatusResponseLength := h
  rw [decodePieceStatus, requireLength_of_lt hlen]
  rfl

theorem decodeBatteryStatus_eq_ok_iff {status : BatteryStatus} :
    decodeBatteryStatus bytes = .ok status ↔
      5 ≤ bytes.length ∧ bytes[1]? = some batteryResponsePayloadLength ∧
        (bytes[3]? = some 0 ∧ status.charging = false ∨
          bytes[3]? = some 1 ∧ status.charging = true) ∧
        bytes[4]? = some status.percentage ∧ status.percentage ≤ 100 := by
  obtain ⟨charging, percentage⟩ := status
  by_cases hlen : 5 ≤ bytes.length
  · have hget : ∀ i (h : i < bytes.length) b, bytes[i]? = some b ↔ bytes[i] = b := fun i h b => by
      rw [List.getElem?_eq_getElem h, Option.some.injEq]
    rw [decodeBatteryStatus, requireLength_of_le (show batteryResponseLength ≤ _ from hlen),
      hget 3 (by omega), hget 3 (by omega), hget 4 (by omega)]
    simp only [Except.mapError_ok, Except.ok_bind, Except.bind_eq_ok_iff,
      requireHeaderByte_eq_ok_iff]
    generalize bytes[3] = flag
    split
    · simp only [Except.bind_eq_ok_iff, Except.mapError_eq_ok_iff,
        validateBatteryPercentage_eq_ok_iff, pure, Except.pure, Except.ok.injEq,
        BatteryStatus.mk.injEq]
      grind
    · simp only [Except.bind_eq_ok_iff, Except.mapError_eq_ok_iff,
        validateBatteryPercentage_eq_ok_iff, pure, Except.pure, Except.ok.injEq,
        BatteryStatus.mk.injEq]
      grind
    · next value hzero hone =>
        refine iff_of_false ?_ ?_
        · rintro ⟨-, -, h⟩
          cases h
        · rintro ⟨-, -, ⟨rfl, -⟩ | ⟨rfl, -⟩, -⟩
          · exact hzero rfl
          · exact hone rfl
  · rw [decodeBatteryStatus_of_short (Nat.lt_of_not_le hlen)]
    simp [hlen]

theorem decodeBatteryStatus_append (trailing : List UInt8) (h : 5 ≤ bytes.length) :
    decodeBatteryStatus (bytes ++ trailing) = decodeBatteryStatus bytes := by
  have hlen : batteryResponseLength ≤ bytes.length := h
  have hlen' : batteryResponseLength ≤ (bytes ++ trailing).length := by
    rw [List.length_append]
    omega
  rw [decodeBatteryStatus, decodeBatteryStatus, requireLength_of_le hlen, requireLength_of_le hlen']
  -- the five bytes that are read are the first five of both
  match bytes with
  | _ :: _ :: _ :: _ :: _ :: _ => rfl

theorem decodeTrackedPieceStatus_append (trailing : List UInt8)
    (hlen : pieceStatusResponseLength ≤ bytes.length)
    (hlen' : pieceStatusResponseLength ≤ (bytes ++ trailing).length) (i : Fin trackedPieceCount) :
    decodeTrackedPieceStatus (bytes ++ trailing) hlen' i
      = decodeTrackedPieceStatus bytes hlen i := by
  have hget : ∀ (j : Nat) (h : j < bytes.length) (h' : j < (bytes ++ trailing).length),
      (bytes ++ trailing).get ⟨j, h'⟩ = bytes.get ⟨j, h⟩ := fun j h h' =>
    List.getElem_append_left h
  simp only [decodeTrackedPieceStatus]
  rw [hget, hget, hget, hget]

theorem decodePieceStatus_append (trailing : List UInt8) (h : 139 ≤ bytes.length) :
    decodePieceStatus (bytes ++ trailing) = decodePieceStatus bytes := by
  have hlen : pieceStatusResponseLength ≤ bytes.length := h
  have hlen' : pieceStatusResponseLength ≤ (bytes ++ trailing).length := by
    rw [List.length_append]
    omega
  have hpos : 1 < bytes.length := Nat.lt_of_lt_of_le (by decide) hlen
  rw [decodePieceStatus, decodePieceStatus, requireLength_of_le hlen, requireLength_of_le hlen']
  simp only [Except.mapError_ok, Except.ok_bind, requireHeaderByte_append trailing hpos,
    decodeTrackedPieceStatus_append trailing hlen hlen']

theorem decodeBatteryStatus_ne_pieceStatus_error {error : PieceStatusError} :
    decodeBatteryStatus bytes ≠ .error (.pieceStatus error) := by
  intro h
  by_cases hlen : batteryResponseLength ≤ bytes.length
  · rw [decodeBatteryStatus, requireLength_of_le hlen] at h
    simp only [Except.mapError_ok, Except.ok_bind, Except.bind_eq_error_iff] at h
    rcases h with h | ⟨-, -, h⟩
    · simp only [requireHeaderByte] at h
      split at h <;> cases h
    · split at h <;> simp [Except.bind_eq_error_iff, Except.mapError_eq_error_iff, pure,
        Except.pure] at h
  · rw [decodeBatteryStatus_of_short (Nat.lt_of_not_le hlen)] at h
    cases h

/-- The record loop fails with the fault of its first record at fault. -/
theorem decodePieceStatus_eq_pieceStatus_error_iff {error : PieceStatusError} :
    decodePieceStatus bytes = .error (.pieceStatus error) ↔
      ∃ hlen : pieceStatusResponseLength ≤ bytes.length,
        bytes[1]? = some pieceStatusResponsePayloadLength ∧
        ∃ i, decodeTrackedPieceStatus bytes hlen i = .error error ∧
          ∀ j < i, ∃ status, decodeTrackedPieceStatus bytes hlen j = .ok status := by
  by_cases hlen : pieceStatusResponseLength ≤ bytes.length
  · by_cases hheader : bytes[1]? = some pieceStatusResponsePayloadLength
    · have hfault : ∀ i fault, (decodeTrackedPieceStatus bytes hlen i).mapError
          DecodeResponseNotificationError.pieceStatus = .error (.pieceStatus fault) ↔
            decodeTrackedPieceStatus bytes hlen i = .error fault := by
        intro i fault
        simp [Except.mapError_eq_error_iff]
      rw [decodePieceStatus_eq_fill hlen hheader, Except.map_eq_error_iff,
        fill_finRange_eq_error_iff]
      simp [hlen, hheader, hfault, Except.mapError_eq_ok_iff]
    · refine iff_of_false (fun h => ?_) (by simp [hheader])
      have hpos : 1 < bytes.length := Nat.lt_of_lt_of_le (by decide) hlen
      have hbyte : bytes[1] ≠ pieceStatusResponsePayloadLength := fun hb => hheader <| by
        rw [List.getElem?_eq_getElem hpos, hb]
      rw [decodePieceStatus, requireLength_of_le hlen] at h
      simp [requireHeaderByte, hbyte] at h
  · rw [decodePieceStatus_of_short (Nat.lt_of_not_le hlen)]
    simp [hlen]

/-- The fault of a record, by its bytes. -/
theorem decodeTrackedPieceStatus_eq_error_iff {hlen : pieceStatusResponseLength ≤ bytes.length}
    {i : Fin trackedPieceCount} {error : PieceStatusError} :
    decodeTrackedPieceStatus bytes hlen i = .error error ↔ RecordFault bytes i error := by
  have hget : ∀ field : Fin 4, bytes[3 + field.val + 4 * i.val]? = some (bytes.get
      ⟨trackedPieceOffset i field, Nat.lt_of_lt_of_le (trackedPieceOffset_lt i field) hlen⟩) := by
    intro field
    rw [← trackedPieceOffset_eq]
    exact List.getElem?_eq_getElem _
  have hidentity := hget 0
  have hbattery := hget 3
  simp only [decodeTrackedPieceStatus, Except.bind_eq_error_iff, decodeTrackedPiece_eq_error_iff,
    validateTrackedPieceBattery_eq_error_iff]
  constructor
  · rintro (⟨hfault, rfl⟩ | ⟨piece, hpiece, ⟨hlarge, hdefined, rfl⟩ | ⟨battery, -, h⟩⟩)
    · exact .identity _ hidentity hfault
    · exact .battery _ piece _ hidentity hpiece hbattery hlarge hdefined
    · cases h
  · intro h
    cases h with
    | identity value hvalue hfault =>
        obtain rfl := Option.some.inj (hvalue.symm.trans hidentity)
        exact .inl ⟨hfault, rfl⟩
    | battery identity piece value hidentity' hpiece hvalue hlarge hdefined =>
        obtain rfl := Option.some.inj (hidentity'.symm.trans hidentity)
        obtain rfl := Option.some.inj (hvalue.symm.trans hbattery)
        exact .inr ⟨piece, hpiece, .inl ⟨hlarge, hdefined, rfl⟩⟩

/-! ## Responses -/

theorem decodeResponseNotification_eq_batteryStatus_iff {status : BatteryStatus} :
    decodeResponseNotification bytes = .ok (.batteryStatus status) ↔ BatteryFrame bytes status := by
  have hframe : BatteryFrame bytes status ↔ bytes[0]? = some responseHeader ∧
      bytes[2]? = some batteryResponseType ∧ decodeBatteryStatus bytes = .ok status := by
    rw [decodeBatteryStatus_eq_ok_iff]
    constructor
    · intro h
      obtain ⟨hzero, hone, htwo⟩ := take_header_iff.1 h.header
      refine ⟨hzero, htwo, h.length, hone, ?_, h.percentage, h.percentage_le⟩
      rcases h.flag with hflag | hflag
      · refine .inl ⟨hflag, Bool.eq_false_iff.2 fun hcharging => ?_⟩
        rw [h.charging, hflag] at hcharging
        cases hcharging
      · exact .inr ⟨hflag, h.charging.2 hflag⟩
    · rintro ⟨hzero, htwo, hlen, hone, hflag, hpercentage, hle⟩
      refine ⟨hlen, take_header_iff.2 ⟨hzero, hone, htwo⟩, ?_, ?_, hpercentage, hle⟩
      · exact hflag.imp And.left And.left
      · rcases hflag with ⟨hflag, hcharging⟩ | ⟨hflag, hcharging⟩
        · simp [hflag, hcharging]
        · simp [hflag, hcharging]
  rw [hframe]
  rcases response_cases bytes with hshort | ⟨hlen, b₀, hzero, hne⟩ | ⟨hzero, responseType, htwo⟩
  · have hnone : bytes[2]? = none := List.getElem?_eq_none (by omega)
    simp [decodeResponseNotification_of_short hshort, hnone]
  · simp [decodeResponseNotification_of_other_header hlen hzero hne, hzero, hne]
  · rw [decodeResponseNotification_of_header hzero htwo]
    have hne : pieceStatusResponseType ≠ batteryResponseType := by decide
    by_cases hbattery : responseType = batteryResponseType
    · simp [hbattery, hzero, htwo, Except.map_eq_ok_iff]
    · by_cases hpieces : responseType = pieceStatusResponseType
      · simp [hpieces, htwo, hne, Except.map_eq_ok_iff]
      · simp [hbattery, hpieces, htwo]

theorem decodeResponseNotification_eq_pieceStatusFrame_iff {status : PieceStatus} :
    decodeResponseNotification bytes = .ok (.pieceStatus status) ↔
      PieceStatusFrame bytes status := by
  rw [decodeResponseNotification_eq_pieceStatus_iff]
  constructor
  · rintro ⟨hlen, hzero, hone, htwo, hrecords⟩
    have hrecord := fun i => decodeTrackedPieceStatus_eq_ok_iff.1 (hrecords i)
    simp only [trackedPieceOffset_eq, validateTrackedPieceBattery_eq_ok_iff] at hrecord
    exact
      { length := hlen
        header := take_header_iff.2 ⟨hzero, hone, htwo⟩
        identity := fun i => ⟨_, (hrecord i).1, decodeTrackedPiece_eq_ok_iff.2 rfl⟩
        x := fun i => (hrecord i).2.1
        y := fun i => (hrecord i).2.2.1
        battery := fun i => (hrecord i).2.2.2 }
  · intro h
    obtain ⟨hzero, hone, htwo⟩ := take_header_iff.1 h.header
    refine ⟨h.length, hzero, hone, htwo, fun i => decodeTrackedPieceStatus_eq_ok_iff.2 ?_⟩
    simp only [trackedPieceOffset_eq, validateTrackedPieceBattery_eq_ok_iff]
    obtain ⟨value, hvalue, hpiece⟩ := h.identity i
    rw [decodeTrackedPiece_eq_ok_iff.1 hpiece] at hvalue
    exact ⟨hvalue, h.x i, h.y i, h.battery i⟩

theorem decodeResponseNotification_ne_positionChanged (position : Position) :
    decodeResponseNotification bytes ≠ .ok (.positionChanged position) := by
  rcases response_cases bytes with hshort | ⟨hlen, b₀, hzero, hne⟩ | ⟨hzero, responseType, htwo⟩
  · simp [decodeResponseNotification_of_short hshort]
  · simp [decodeResponseNotification_of_other_header hlen hzero hne]
  · rw [decodeResponseNotification_of_header hzero htwo]
    split
    · simp [Except.map_eq_ok_iff]
    · split
      · simp [Except.map_eq_ok_iff]
      · simp

/-- A response that is not too short is decoded from the bytes of its frame. -/
theorem decodeResponseNotification_append (trailing : List UInt8)
    (h : ∀ error, decodeResponseNotification bytes ≠ .error (.notificationTooShort error)) :
    decodeResponseNotification (bytes ++ trailing) = decodeResponseNotification bytes := by
  have hget : ∀ {i : Nat} {b}, bytes[i]? = some b → (bytes ++ trailing)[i]? = some b := by
    intro i b hb
    obtain ⟨hi, -⟩ := List.getElem?_eq_some_iff.1 hb
    rw [List.getElem?_append_left hi, hb]
  rcases response_cases bytes with hshort | ⟨hlen, b₀, hzero, hne⟩ | ⟨hzero, responseType, htwo⟩
  · exact absurd (decodeResponseNotification_of_short hshort) (h _)
  · have hlen' : 3 ≤ (bytes ++ trailing).length := by
      rw [List.length_append]
      omega
    rw [decodeResponseNotification_of_other_header hlen hzero hne,
      decodeResponseNotification_of_other_header hlen' (hget hzero) hne]
  · have hresponse := decodeResponseNotification_of_header hzero htwo
    rw [hresponse, decodeResponseNotification_of_header (hget hzero) (hget htwo)]
    split
    · next hbattery =>
        by_cases hlen : 5 ≤ bytes.length
        · rw [decodeBatteryStatus_append trailing hlen]
        · rw [if_pos hbattery, decodeBatteryStatus_of_short (Nat.lt_of_not_le hlen)] at hresponse
          exact absurd hresponse (h _)
    · next hbattery =>
        split
        · next hpieces =>
            by_cases hlen : 139 ≤ bytes.length
            · rw [decodePieceStatus_append trailing hlen]
            · rw [if_neg hbattery, if_pos hpieces,
                decodePieceStatus_of_short (Nat.lt_of_not_le hlen)] at hresponse
              exact absurd hresponse (h _)
        · rfl

/-- A record decodes if it has no fault. -/
theorem exists_decodeTrackedPieceStatus_iff {hlen : pieceStatusResponseLength ≤ bytes.length}
    {i : Fin trackedPieceCount} :
    (∃ status, decodeTrackedPieceStatus bytes hlen i = .ok status) ↔
      ∀ fault, ¬ RecordFault bytes i fault := by
  simp only [← @decodeTrackedPieceStatus_eq_error_iff bytes hlen]
  cases decodeTrackedPieceStatus bytes hlen i <;> simp

/-- **The reported record** is the first one at fault. -/
theorem decodeResponseNotification_eq_pieceStatus_error_iff {error : PieceStatusError} :
    decodeResponseNotification bytes = .error (.pieceStatus error) ↔
      139 ≤ bytes.length ∧ bytes.take 3 = [0x41, 0x89, 0x0b] ∧
        ∃ i, RecordFault bytes i error ∧ ∀ j < i, ∀ fault, ¬ RecordFault bytes j fault := by
  rw [take_header_iff]
  rcases response_cases bytes with hshort | ⟨hlen, b₀, hzero, hne⟩ | ⟨hzero, responseType, htwo⟩
  · have hlen : ¬ 139 ≤ bytes.length := by omega
    simp [decodeResponseNotification_of_short hshort, hlen]
  · have hother : bytes[0]? ≠ some 0x41 := by
      rw [hzero, Ne, Option.some.injEq]
      exact hne
    simp [decodeResponseNotification_of_other_header hlen hzero hne, hother]
  · rw [decodeResponseNotification_of_header hzero htwo]
    have hne : pieceStatusResponseType ≠ batteryResponseType := by decide
    by_cases hpieces : responseType = pieceStatusResponseType
    · rw [hpieces] at htwo ⊢
      rw [if_neg hne, if_pos rfl, Except.map_eq_error_iff,
        decodePieceStatus_eq_pieceStatus_error_iff]
      simp only [exists_decodeTrackedPieceStatus_iff, decodeTrackedPieceStatus_eq_error_iff]
      constructor
      · rintro ⟨hlen, hone, hfault⟩
        exact ⟨hlen, ⟨hzero, hone, htwo⟩, hfault⟩
      · rintro ⟨hlen, ⟨-, hone, -⟩, hfault⟩
        exact ⟨hlen, hone, hfault⟩
    · have hother : bytes[2]? ≠ some 0x0b := by
        rw [htwo, Ne, Option.some.injEq]
        exact hpieces
      refine iff_of_false ?_ (by simp [hother])
      split
      · rw [Except.map_eq_error_iff]
        exact decodeBatteryStatus_ne_pieceStatus_error
      · simp

end Decoders

/-! ## Notifications of the command-response characteristic -/

/-- Everything but an acknowledgement is decided by the response decoder. -/
theorem decodeNotification_commandResponse_of_ne {bytes : List UInt8}
    (h : bytes[0]? ≠ some realtimeUpdatesAcknowledgement) :
    decodeNotification ⟨.commandResponse, bytes⟩
      = ((decodeResponseNotification bytes).map .event).mapError .commandResponse := by
  rw [← List.head?_eq_getElem?] at h
  exact if_neg h

theorem decodeNotification_commandResponse_of_eq {bytes : List UInt8}
    (h : bytes[0]? = some realtimeUpdatesAcknowledgement) :
    decodeNotification ⟨.commandResponse, bytes⟩ = .ok .realtimeUpdatesAcknowledged := by
  rw [← List.head?_eq_getElem?] at h
  exact if_pos h

theorem exists_acknowledgement_iff {bytes : List UInt8} :
    (∃ rest, bytes = 0x23 :: rest) ↔ bytes[0]? = some realtimeUpdatesAcknowledgement := by
  cases bytes <;> simp [realtimeUpdatesAcknowledgement]

/-- An acknowledgement does not start like a response. -/
theorem take_header_ne {bytes : List UInt8} (h : bytes[0]? = some realtimeUpdatesAcknowledgement)
    (b₁ b₂ : UInt8) : bytes.take 3 ≠ [0x41, b₁, b₂] := by
  intro htake
  have hzero := (take_header_iff.1 htake).1
  rw [h, Option.some.injEq] at hzero
  exact absurd hzero (by decide)

section Response

variable {bytes : List UInt8} (h : bytes[0]? ≠ some realtimeUpdatesAcknowledgement)

include h

theorem decodeNotification_eq_event_iff {event : BoardEvent} :
    decodeNotification ⟨.commandResponse, bytes⟩ = .ok (.event event) ↔
      decodeResponseNotification bytes = .ok event := by
  rw [decodeNotification_commandResponse_of_ne h]
  simp [Except.mapError_eq_ok_iff, Except.map_eq_ok_iff]

theorem decodeNotification_ne_acknowledged :
    decodeNotification ⟨.commandResponse, bytes⟩ ≠ .ok .realtimeUpdatesAcknowledged := by
  rw [decodeNotification_commandResponse_of_ne h]
  simp [Except.mapError_eq_ok_iff, Except.map_eq_ok_iff]

theorem decodeNotification_eq_error_iff {error : DecodeResponseNotificationError} :
    decodeNotification ⟨.commandResponse, bytes⟩ = .error (.commandResponse error) ↔
      decodeResponseNotification bytes = .error error := by
  rw [decodeNotification_commandResponse_of_ne h]
  simp [Except.mapError_eq_error_iff, Except.map_eq_error_iff]

/-- What is no acknowledgement is rejected unless it is one of the frames. -/
theorem exists_decodeNotification_error_iff :
    (∃ error, decodeNotification ⟨.commandResponse, bytes⟩ = .error error) ↔
      (∀ status, ¬ BatteryFrame bytes status) ∧ ∀ status, ¬ PieceStatusFrame bytes status := by
  simp only [← decodeResponseNotification_eq_batteryStatus_iff,
    ← decodeResponseNotification_eq_pieceStatusFrame_iff]
  rw [decodeNotification_commandResponse_of_ne h]
  cases hresult : decodeResponseNotification bytes with
  | error error => simp [Except.map, Except.mapError]
  | ok event =>
      cases event with
      | positionChanged position =>
          exact absurd hresult (decodeResponseNotification_ne_positionChanged position)
      | batteryStatus status => simp [Except.map]
      | pieceStatus status => simp [Except.map]

end Response

/-- What a command-response notification is decoded to. -/
structure ResponseGrammar (bytes : List UInt8)
    (result : Except DecodeNotificationError DecodedNotification) : Prop where
  acknowledged : result = .ok .realtimeUpdatesAcknowledged ↔ ∃ rest, bytes = 0x23 :: rest
  batteryStatus : ∀ status, result = .ok (.event (.batteryStatus status)) ↔
    BatteryFrame bytes status
  pieceStatus : ∀ status, result = .ok (.event (.pieceStatus status)) ↔
    PieceStatusFrame bytes status
  no_position : ∀ position, result ≠ .ok (.event (.positionChanged position))
  rejected : (∃ error, result = .error error) ↔ (¬ ∃ rest, bytes = 0x23 :: rest) ∧
    (∀ status, ¬ BatteryFrame bytes status) ∧ ∀ status, ¬ PieceStatusFrame bytes status
  /-- A piece fault is reported for the first record at fault, its identity before its battery. -/
  pieceFault : ∀ error, result = .error (.commandResponse (.pieceStatus error)) ↔
    139 ≤ bytes.length ∧ bytes.take 3 = [0x41, 0x89, 0x0b] ∧
      ∃ i, RecordFault bytes i error ∧ ∀ j < i, ∀ fault, ¬ RecordFault bytes j fault

theorem responseGrammar_of_acknowledgement {bytes : List UInt8}
    (h : bytes[0]? = some realtimeUpdatesAcknowledgement) :
    ResponseGrammar bytes (.ok .realtimeUpdatesAcknowledged) := by
  have hbattery : ∀ status, ¬ BatteryFrame bytes status := fun status hframe =>
    take_header_ne h _ _ hframe.header
  have hpieces : ∀ status, ¬ PieceStatusFrame bytes status := fun status hframe =>
    take_header_ne h _ _ hframe.header
  exact
    { acknowledged := by simp [exists_acknowledgement_iff, h]
      batteryStatus := by simp [hbattery]
      pieceStatus := by simp [hpieces]
      no_position := by simp
      rejected := by simp [exists_acknowledgement_iff, h]
      pieceFault := by simp [take_header_ne h] }

theorem responseGrammar_of_response {bytes : List UInt8}
    (h : bytes[0]? ≠ some realtimeUpdatesAcknowledgement) :
    ResponseGrammar bytes (decodeNotification ⟨.commandResponse, bytes⟩) where
  acknowledged := by
    rw [exists_acknowledgement_iff]
    exact iff_of_false (decodeNotification_ne_acknowledged h) h
  batteryStatus status := by
    rw [decodeNotification_eq_event_iff h, decodeResponseNotification_eq_batteryStatus_iff]
  pieceStatus status := by
    rw [decodeNotification_eq_event_iff h, decodeResponseNotification_eq_pieceStatusFrame_iff]
  no_position position hresult :=
    decodeResponseNotification_ne_positionChanged position
      ((decodeNotification_eq_event_iff h).1 hresult)
  rejected := by
    rw [exists_decodeNotification_error_iff h, exists_acknowledgement_iff]
    exact (and_iff_right h).symm
  pieceFault error := by
    rw [decodeNotification_eq_error_iff h, decodeResponseNotification_eq_pieceStatus_error_iff]

/-- What follows an acknowledgement is not looked at. -/
theorem decodeNotification_append_of_acknowledgement {bytes : List UInt8} (trailing : List UInt8)
    (h : bytes[0]? = some realtimeUpdatesAcknowledgement) :
    decodeNotification ⟨.commandResponse, bytes ++ trailing⟩
      = .ok .realtimeUpdatesAcknowledged := by
  have hpos : 0 < bytes.length := (List.getElem?_eq_some_iff.1 h).1
  have hhead : (bytes ++ trailing)[0]? = some realtimeUpdatesAcknowledgement := by
    rw [List.getElem?_append_left hpos, h]
  exact decodeNotification_commandResponse_of_eq hhead

/-- **The response decoder accepts its grammar.** A command-response notification is an
    acknowledgement, a battery frame, a piece-status frame, or an error; a piece fault names the
    first record at fault; and unless the frame is cut short, bytes after it change nothing. -/
theorem decodeNotification_commandResponse (bytes : List UInt8) :
    ResponseGrammar bytes (decodeNotification ⟨.commandResponse, bytes⟩) ∧
    ∀ trailing, (∀ error, decodeNotification ⟨.commandResponse, bytes⟩
        ≠ .error (.commandResponse (.notificationTooShort error))) →
      decodeNotification ⟨.commandResponse, bytes ++ trailing⟩
        = decodeNotification ⟨.commandResponse, bytes⟩ := by
  by_cases h : bytes[0]? = some realtimeUpdatesAcknowledgement
  · rw [decodeNotification_commandResponse_of_eq h]
    refine ⟨responseGrammar_of_acknowledgement h, fun trailing _ => ?_⟩
    exact decodeNotification_append_of_acknowledgement trailing h
  · refine ⟨responseGrammar_of_response h, fun trailing hlong => ?_⟩
    have hshort : ∀ error,
        decodeResponseNotification bytes ≠ .error (.notificationTooShort error) :=
      fun error hresult => hlong error ((decodeNotification_eq_error_iff h).2 hresult)
    have htrailing : (bytes ++ trailing)[0]? ≠ some realtimeUpdatesAcknowledgement := by
      cases bytes with
      | nil => exact absurd (decodeResponseNotification_of_short (by decide)) (hshort _)
      | cons b rest => exact h
    rw [decodeNotification_commandResponse_of_ne htrailing,
      decodeNotification_commandResponse_of_ne h, decodeResponseNotification_append trailing hshort]

end ChessnutMove
