import ChessnutMove.Protocol.Decode

set_option autoImplicit false

/-! # Tracked-piece frames

Which byte sequences `decodeResponseNotification` accepts as a piece-status response, and what the
accepted ones say about the order of the pieces. The protocol fixes which piece each of the 34
records reports (`trackedPieceAt`); the decoder checks that an identity byte names *some* piece, not
that it names the piece of its record. -/

namespace ChessnutMove

open Fill

/-! ## The checks, one by one -/

theorem requireLength_eq_ok_iff {bytes : List UInt8} {expected : Nat}
    {h : PLift (expected ≤ bytes.length)} :
    requireLength bytes expected = .ok h ↔ expected ≤ bytes.length := by
  unfold requireLength
  split
  · next hlt => simp [Nat.not_le_of_lt hlt]
  · simp [h.down, Subsingleton.elim h ⟨h.down⟩]

theorem requireHeaderByte_eq_ok_iff {bytes : List UInt8} {offset : Nat} {expected : UInt8}
    {h : offset < bytes.length} {u : Unit} :
    requireHeaderByte bytes offset expected h = .ok u ↔ bytes[offset]? = some expected := by
  unfold requireHeaderByte
  rw [List.getElem?_eq_getElem h, Option.some.injEq]
  by_cases hb : bytes[offset] = expected
  · simp [hb]
  · simp [hb]

/-- The identity code the protocol assigns to a piece. -/
def identityCode : Piece → UInt8
  | ⟨.white, .pawn⟩ => 0x01
  | ⟨.white, .rook⟩ => 0x02
  | ⟨.white, .knight⟩ => 0x03
  | ⟨.white, .bishop⟩ => 0x04
  | ⟨.white, .queen⟩ => 0x05
  | ⟨.white, .king⟩ => 0x06
  | ⟨.black, .pawn⟩ => 0x07
  | ⟨.black, .rook⟩ => 0x08
  | ⟨.black, .knight⟩ => 0x09
  | ⟨.black, .bishop⟩ => 0x0a
  | ⟨.black, .queen⟩ => 0x0b
  | ⟨.black, .king⟩ => 0x0c

/-- The identity decoder reads an identity code, whatever the record. -/
theorem decodeTrackedPiece_eq_ok_iff {i : Nat} {value : UInt8} {piece : Piece} :
    decodeTrackedPiece i value = .ok piece ↔ value = identityCode piece := by
  constructor
  · intro h
    unfold decodeTrackedPiece at h
    split at h <;> cases h <;> rfl
  · rintro rfl
    obtain ⟨color, kind⟩ := piece
    cases color <;> cases kind <;> rfl

theorem identityCode_injective : Function.Injective identityCode := by
  intro p p' h
  have hp := (decodeTrackedPiece_eq_ok_iff (i := 0)).2 (rfl : identityCode p = identityCode p)
  have hp' := (decodeTrackedPiece_eq_ok_iff (i := 0)).2 h
  exact Except.ok.inj (hp.symm.trans hp')

/-- The battery bytes the protocol defines. -/
def BatteryByte (value : UInt8) : Prop := value ≤ 100 ∨ value = 0xff

instance : DecidablePred BatteryByte := fun value =>
  inferInstanceAs (Decidable (value ≤ 100 ∨ value = 0xff))

theorem exists_validateTrackedPieceBattery {index : Nat} {value : UInt8} :
    (∃ battery, validateTrackedPieceBattery index value = .ok battery) ↔ BatteryByte value := by
  unfold validateTrackedPieceBattery BatteryByte
  by_cases hle : value ≤ 100
  · simp [hle]
  · by_cases hff : value = 0xff
    · simp [hff]
    · simp [hle, hff]

/-! ## The accepted frames -/

/-- With the right length and length byte, the record loop is one fill. -/
theorem decodePieceStatus_eq_fill {bytes : List UInt8}
    (hlen : pieceStatusResponseLength ≤ bytes.length)
    (hheader : bytes[1]? = some pieceStatusResponsePayloadLength) :
    decodePieceStatus bytes = (fill ((List.finRange trackedPieceCount).map fun i =>
      (i, (decodeTrackedPieceStatus bytes hlen i).mapError
        DecodeResponseNotificationError.pieceStatus))
      (Vector.replicate trackedPieceCount default)).map PieceStatus.mk := by
  have hlength : requireLength bytes pieceStatusResponseLength = .ok ⟨hlen⟩ :=
    requireLength_eq_ok_iff.2 hlen
  have hbyte := (requireHeaderByte_eq_ok_iff (h := Nat.lt_of_lt_of_le (by decide) hlen)
    (u := ())).2 hheader
  rw [decodePieceStatus, hlength]
  simp only [Except.mapError_ok, Except.ok_bind, hbyte, fill, List.foldlM_map]
  rfl

theorem decodePieceStatus_eq_ok_iff {bytes : List UInt8} {status : PieceStatus} :
    decodePieceStatus bytes = .ok status ↔
      ∃ hlen : pieceStatusResponseLength ≤ bytes.length,
        bytes[1]? = some pieceStatusResponsePayloadLength ∧
        ∀ i, decodeTrackedPieceStatus bytes hlen i = .ok status.pieces[i] := by
  have hloop : ∀ (hlen : pieceStatusResponseLength ≤ bytes.length)
      (_ : bytes[1]? = some pieceStatusResponsePayloadLength),
      decodePieceStatus bytes = .ok status ↔
        ∀ i, decodeTrackedPieceStatus bytes hlen i = .ok status.pieces[i] := by
    intro hlen hheader
    obtain ⟨pieces⟩ := status
    rw [decodePieceStatus_eq_fill hlen hheader, Except.map_eq_ok_iff]
    simp only [PieceStatus.mk.injEq, exists_eq_right]
    rw [fill_eq_ok_iff]
    · simp [Except.mapError_eq_ok_iff]
    · simp [Function.comp_def, List.nodup_finRange]
    · simp
  constructor
  · intro h
    have hchecks := h
    simp only [decodePieceStatus, Except.bind_eq_ok_iff, Except.mapError_eq_ok_iff,
      requireLength_eq_ok_iff, requireHeaderByte_eq_ok_iff] at hchecks
    obtain ⟨⟨hlen⟩, -, -, hheader, -⟩ := hchecks
    exact ⟨hlen, hheader, (hloop hlen hheader).1 h⟩
  · rintro ⟨hlen, hheader, hrecords⟩
    exact (hloop hlen hheader).2 hrecords

/-- A decoded record, field by field. -/
theorem decodeTrackedPieceStatus_eq_ok_iff {bytes : List UInt8}
    {hlen : pieceStatusResponseLength ≤ bytes.length} {i : Fin trackedPieceCount}
    {status : TrackedPieceStatus} :
    decodeTrackedPieceStatus bytes hlen i = .ok status ↔
      bytes[trackedPieceOffset i 0]? = some (identityCode status.piece) ∧
      bytes[trackedPieceOffset i 1]? = some status.x ∧
      bytes[trackedPieceOffset i 2]? = some status.y ∧
      ∃ battery, bytes[trackedPieceOffset i 3]? = some battery ∧
        validateTrackedPieceBattery i battery = .ok status.batteryPercentage := by
  obtain ⟨piece, x, y, batteryPercentage⟩ := status
  have hget : ∀ field, bytes[trackedPieceOffset i field]? = some (bytes.get
      ⟨trackedPieceOffset i field, Nat.lt_of_lt_of_le (trackedPieceOffset_lt i field) hlen⟩) :=
    fun field => List.getElem?_eq_getElem _
  simp only [decodeTrackedPieceStatus, Except.bind_eq_ok_iff, decodeTrackedPiece_eq_ok_iff, hget,
    Option.some.injEq, exists_eq_left']
  constructor
  · rintro ⟨piece', hpiece, battery, hbattery, hstatus⟩
    cases hstatus
    exact ⟨hpiece, rfl, rfl, hbattery⟩
  · rintro ⟨hpiece, rfl, rfl, hbattery⟩
    exact ⟨piece, hpiece, batteryPercentage, hbattery, rfl⟩

/-- **The piece-status responses.** A byte sequence decodes to `status` exactly when it is long
    enough, carries the three header bytes, and every record decodes to its entry of `status`. -/
theorem decodeResponseNotification_eq_pieceStatus_iff {bytes : List UInt8} {status : PieceStatus} :
    decodeResponseNotification bytes = .ok (.pieceStatus status) ↔
      ∃ hlen : pieceStatusResponseLength ≤ bytes.length,
        bytes[0]? = some responseHeader ∧
        bytes[1]? = some pieceStatusResponsePayloadLength ∧
        bytes[2]? = some pieceStatusResponseType ∧
        ∀ i, decodeTrackedPieceStatus bytes hlen i = .ok status.pieces[i] := by
  simp only [decodeResponseNotification, Except.bind_eq_ok_iff, Except.mapError_eq_ok_iff,
    requireLength_eq_ok_iff, requireHeaderByte_eq_ok_iff]
  have hbranch : ∀ hlen : 3 ≤ bytes.length,
      (if bytes[2] = batteryResponseType then (decodeBatteryStatus bytes).map .batteryStatus
        else if bytes[2] = pieceStatusResponseType then (decodePieceStatus bytes).map .pieceStatus
        else .error (.unexpectedNotification bytes[2])) = .ok (BoardEvent.pieceStatus status) ↔
      bytes[2]? = some pieceStatusResponseType ∧ decodePieceStatus bytes = .ok status := by
    intro hlen
    rw [List.getElem?_eq_getElem (show 2 < bytes.length by omega), Option.some.injEq]
    have hne : batteryResponseType ≠ pieceStatusResponseType := by decide
    by_cases hbattery : bytes[2] = batteryResponseType
    · rw [if_pos hbattery, hbattery]
      simp [Except.map_eq_ok_iff, hne]
    · rw [if_neg hbattery]
      by_cases hpieces : bytes[2] = pieceStatusResponseType
      · simp [hpieces, Except.map_eq_ok_iff]
      · simp [hpieces]
  constructor
  · rintro ⟨⟨hlen3⟩, -, -, hzero, h⟩
    obtain ⟨htwo, hpieces⟩ := (hbranch hlen3).1 h
    obtain ⟨hlen, hone, hrecords⟩ := decodePieceStatus_eq_ok_iff.1 hpieces
    exact ⟨hlen, hzero, hone, htwo, hrecords⟩
  · rintro ⟨hlen, hzero, hone, htwo, hrecords⟩
    have hlen3 : responseHeaderLength ≤ bytes.length := Nat.le_trans (by decide) hlen
    exact ⟨⟨hlen3⟩, hlen3, (), hzero,
      (hbranch hlen3).2 ⟨htwo, decodePieceStatus_eq_ok_iff.2 ⟨hlen, hone, hrecords⟩⟩⟩

/-! ## The order of the records -/

/-- The protocol's order within one colour: eight pawns, two rooks, two knights, two bishops, two
    queens, one king. -/
def trackedPieceKind (position : Nat) : PieceKind :=
  if position < 8 then .pawn
  else if position < 10 then .rook
  else if position < 12 then .knight
  else if position < 14 then .bishop
  else if position < 16 then .queen
  else .king

/-- The piece the protocol assigns to a record: the white pieces, then the black ones. -/
def trackedPieceAt (i : Fin trackedPieceCount) : Piece :=
  if i.val < 17 then ⟨.white, trackedPieceKind i⟩ else ⟨.black, trackedPieceKind (i - 17)⟩

/-- What decoding a frame must not do: report another piece than the protocol's for some record. -/
def KeepsPieceOrder (bytes : List UInt8) : Prop :=
  ∀ status, decodeResponseNotification bytes = .ok (.pieceStatus status) →
    ∀ i : Fin trackedPieceCount, status.pieces[i].piece = trackedPieceAt i

/-- The frames all of whose checked bytes are in range: length, header, identities that name some
    piece, battery bytes the protocol defines. -/
structure AcceptableFrame (bytes : List UInt8) : Prop where
  length : pieceStatusResponseLength ≤ bytes.length
  header : bytes[0]? = some responseHeader ∧ bytes[1]? = some pieceStatusResponsePayloadLength ∧
    bytes[2]? = some pieceStatusResponseType
  identity : ∀ i, ∃ piece, bytes[trackedPieceOffset i 0]? = some (identityCode piece)
  battery : ∀ i, ∃ battery, bytes[trackedPieceOffset i 3]? = some battery ∧ BatteryByte battery

/-- The identity bytes follow the protocol's order. -/
def IdentitiesInOrder (bytes : List UInt8) : Prop :=
  ∀ i, bytes[trackedPieceOffset i ⟨0, by decide⟩]? = some (identityCode (trackedPieceAt i))

/-- The acceptable frames are the accepted ones. -/
theorem exists_pieceStatus_iff {bytes : List UInt8} :
    (∃ status, decodeResponseNotification bytes = .ok (.pieceStatus status)) ↔
      AcceptableFrame bytes := by
  simp only [decodeResponseNotification_eq_pieceStatus_iff]
  constructor
  · rintro ⟨status, hlen, hzero, hone, htwo, hrecords⟩
    refine ⟨hlen, ⟨hzero, hone, htwo⟩, fun i => ?_, fun i => ?_⟩
    · exact ⟨_, (decodeTrackedPieceStatus_eq_ok_iff.1 (hrecords i)).1⟩
    · obtain ⟨-, -, -, battery, hget, hvalid⟩ := decodeTrackedPieceStatus_eq_ok_iff.1 (hrecords i)
      exact ⟨battery, hget, exists_validateTrackedPieceBattery.1 ⟨_, hvalid⟩⟩
  · intro h
    have hrecord : ∀ i, ∃ status, decodeTrackedPieceStatus bytes h.length i = .ok status := by
      intro i
      obtain ⟨piece, hpiece⟩ := h.identity i
      obtain ⟨battery, hget, hbattery⟩ := h.battery i
      obtain ⟨percentage, hvalid⟩ := exists_validateTrackedPieceBattery.2 hbattery
      have hbyte : ∀ field, ∃ byte, bytes[trackedPieceOffset i field]? = some byte := fun field =>
        ⟨_, List.getElem?_eq_getElem (Nat.lt_of_lt_of_le (trackedPieceOffset_lt i field) h.length)⟩
      obtain ⟨x, hx⟩ := hbyte 1
      obtain ⟨y, hy⟩ := hbyte 2
      exact ⟨⟨piece, x, y, percentage⟩,
        decodeTrackedPieceStatus_eq_ok_iff.2 ⟨hpiece, hx, hy, battery, hget, hvalid⟩⟩
    choose status hstatus using hrecord
    exact ⟨⟨Vector.ofFn status⟩, h.length, h.header.1, h.header.2.1, h.header.2.2,
      fun i => by simp [hstatus i]⟩

/-- **When a frame cannot relabel a piece.** Exactly when it is rejected for another reason or its
    identity bytes follow the protocol's order. -/
theorem keepsPieceOrder_iff (bytes : List UInt8) :
    KeepsPieceOrder bytes ↔ (AcceptableFrame bytes → IdentitiesInOrder bytes) := by
  constructor
  · intro horder hframe i
    obtain ⟨status, hstatus⟩ := exists_pieceStatus_iff.2 hframe
    obtain ⟨hlen, -, -, -, hrecords⟩ := decodeResponseNotification_eq_pieceStatus_iff.1 hstatus
    rw [← horder status hstatus i]
    exact (decodeTrackedPieceStatus_eq_ok_iff.1 (hrecords i)).1
  · intro h status hstatus i
    have hbyte : bytes[trackedPieceOffset i 0]? = some (identityCode (trackedPieceAt i)) :=
      h (exists_pieceStatus_iff.1 ⟨status, hstatus⟩) i
    obtain ⟨hlen, -, -, -, hrecords⟩ := decodeResponseNotification_eq_pieceStatus_iff.1 hstatus
    have hcode := (decodeTrackedPieceStatus_eq_ok_iff.1 (hrecords i)).1
    rw [hbyte, Option.some.injEq] at hcode
    exact (identityCode_injective hcode).symm

/-- A piece-status frame with the given identity bytes and no battery telemetry. -/
def pieceStatusFrame (identities : List UInt8) : List UInt8 :=
  [responseHeader, pieceStatusResponsePayloadLength, pieceStatusResponseType] ++
    identities.flatMap fun identity => [identity, 0, 0, 0xff]

/-- The protocol's order with the two kings exchanged. -/
def exchangedKings : List UInt8 :=
  [1, 1, 1, 1, 1, 1, 1, 1, 2, 2, 3, 3, 4, 4, 5, 5, 12, 7, 7, 7, 7, 7, 7, 7, 7, 8, 8, 9, 9, 10, 10,
    11, 11, 6]

/-- The frame with exchanged kings is decoded, and reports the black king as the white one. -/
theorem exchangedKings_relabels : ¬ KeepsPieceOrder (pieceStatusFrame exchangedKings) := by
  have hdecodes : ((decodeResponseNotification (pieceStatusFrame exchangedKings)).toOption.bind
      fun event => match event with
        | .pieceStatus status => some status.pieces[16].piece
        | _ => none) = some ⟨.black, .king⟩ := by
    decide +kernel
  intro h
  cases hevent : decodeResponseNotification (pieceStatusFrame exchangedKings) with
  | error e => simp [hevent, Except.toOption] at hdecodes
  | ok event =>
      cases event with
      | positionChanged p => simp [hevent, Except.toOption] at hdecodes
      | batteryStatus s => simp [hevent, Except.toOption] at hdecodes
      | pieceStatus status =>
          have hking := h status hevent ⟨16, by decide⟩
          simp only [hevent, Except.toOption, Option.bind_some, Option.some.injEq] at hdecodes
          rw [Fin.getElem_fin, hdecodes] at hking
          exact absurd hking (by decide)

end ChessnutMove
