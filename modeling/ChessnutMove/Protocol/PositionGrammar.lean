import ChessnutMove.Protocol.PositionCodec

set_option autoImplicit false

/-! # The grammar of position notifications

Which byte sequences `decodePositionNotification` accepts, where it puts the pieces of those it
accepts, and which error it reports for the others, in terms of the nibbles of the frame. The
squares come in reversed canonical order, two to a byte. -/

namespace ChessnutMove

/-- The wire offset of the square at a file and a rank. -/
theorem positionIndex_new {file : File} {rank : Rank} {w : WireIndex}
    (h : w.val = 63 - (8 * rank.index.val + file.index.val)) :
    w = positionIndex (Square.new file rank).index := by
  refine Fin.ext ?_
  simp only [h, positionIndex, Square.new, Square.index, squareCount, boardWidth]
  omega

/-- What a position notification is decoded to. -/
structure PositionGrammar (bytes : List UInt8)
    (result : Except DecodePositionNotificationError Position) : Prop where
  tooShort : ∀ error, result = .error (.notificationTooShort error) ↔
    bytes.length < 34 ∧ error = { expected := 34, actual := bytes.length }
  accepted : (∃ position, result = .ok position) ↔
    34 ≤ bytes.length ∧ ∀ w, frameNibble bytes w ≤ 0x0c
  /-- Every square holds the piece whose code is its nibble. -/
  placed : ∀ position, result = .ok position → ∀ (file : File) (rank : Rank) (w : WireIndex),
    w.val = 63 - (8 * rank.index.val + file.index.val) →
      encodePiece (position.pieceAt (Square.new file rank)) = frameNibble bytes w
  /-- The reported square is the one with the smallest wire offset whose nibble is no piece code. -/
  invalidPiece : ∀ square value, result = .error (.invalidPiece square value) ↔
    34 ≤ bytes.length ∧ ∃ w : WireIndex, square.index.val = 63 - w.val ∧
      value = frameNibble bytes w ∧ 0x0c < value ∧ ∀ w' < w, frameNibble bytes w' ≤ 0x0c

/-- The square reported for a wire offset. -/
theorem eq_squareAtWireIndex_iff {square : Square} {w : WireIndex} :
    square = squareAtWireIndex w ↔ square.index.val = 63 - w.val := by
  have hindex := index_squareAtWireIndex w
  constructor
  · rintro rfl
    rw [hindex]
    rfl
  · intro h
    obtain ⟨index⟩ := square
    obtain ⟨index', hindex'⟩ : ∃ index', squareAtWireIndex w = ⟨index'⟩ := ⟨_, rfl⟩
    rw [hindex', Square.mk.injEq]
    rw [hindex'] at hindex
    exact Fin.ext (h.trans (congrArg Fin.val hindex).symm)

section Payload

variable {bytes : List UInt8} {packed : PackedSquares}
  (hpacked : (bytes.drop boardStateOffset).take boardStateLength = packed.bytes.toList)

include hpacked

/-- All pieces decode exactly if every nibble is a piece code. -/
theorem exists_decode_payload_iff :
    (∃ squares, packed.decode decodePiece = .ok squares) ↔
      ∀ w, frameNibble bytes w ≤ 0x0c := by
  constructor
  · rintro ⟨squares, hsquares⟩ w
    rw [frameNibble_eq_nibbleAt hpacked]
    exact exists_decodePiece_iff.1 ⟨_, PackedSquares.decode_eq_ok_iff.1 hsquares w⟩
  · intro hcodes
    cases hdecode : packed.decode decodePiece with
    | ok squares => exact ⟨squares, rfl⟩
    | error error =>
        obtain ⟨w, hw, -⟩ := PackedSquares.decode_eq_error_iff.1 hdecode
        have hcode := hcodes w
        rw [frameNibble_eq_nibbleAt hpacked] at hcode
        exact absurd hcode (UInt8.not_le.2 (decodePiece_eq_error_iff.1 hw).1)

/-- A decoded cell holds the piece of its nibble. -/
theorem encodePiece_of_decode_payload {squares : Vector (Option Piece) squareCount}
    (h : packed.decode decodePiece = .ok squares) (w : WireIndex) :
    encodePiece (squares.get (positionIndex w)) = frameNibble bytes w := by
  rw [frameNibble_eq_nibbleAt hpacked]
  exact encodePiece_of_decodePiece (PackedSquares.decode_eq_ok_iff.1 h w)

/-- The only error a whole payload can have is its first nibble that is no piece code. -/
theorem decode_payload_eq_error_iff {error : DecodePositionNotificationError} :
    packed.decode decodePiece = .error error ↔
      ∃ w, 0x0c < frameNibble bytes w ∧
        error = .invalidPiece (squareAtWireIndex w) (frameNibble bytes w) ∧
        ∀ w' < w, frameNibble bytes w' ≤ 0x0c := by
  simp only [PackedSquares.decode_eq_error_iff, decodePiece_eq_error_iff, exists_decodePiece_iff,
    frameNibble_eq_nibbleAt hpacked, and_assoc]

/-- The grammar of a notification with a whole payload. -/
theorem positionGrammar_of_payload :
    PositionGrammar bytes ((packed.decode decodePiece).map Position.mk) := by
  have hlen : 34 ≤ bytes.length := exists_payload_iff.1 ⟨packed, hpacked⟩
  refine ⟨fun error => ?_, ?_, ?_, fun square value => ?_⟩
  · refine iff_of_false (fun h => ?_) (fun h => absurd hlen (Nat.not_le_of_lt h.1))
    rw [Except.map_eq_error_iff, decode_payload_eq_error_iff hpacked] at h
    obtain ⟨w, -, hinvalid, -⟩ := h
    cases hinvalid
  · rw [← exists_decode_payload_iff hpacked]
    simp only [Except.map_eq_ok_iff, hlen, true_and]
    constructor
    · rintro ⟨position, squares, hsquares, -⟩
      exact ⟨squares, hsquares⟩
    · rintro ⟨squares, hsquares⟩
      exact ⟨⟨squares⟩, squares, hsquares, rfl⟩
  · intro position hposition file rank w hw
    obtain ⟨squares, hsquares, rfl⟩ := Except.map_eq_ok_iff.1 hposition
    have hcell := encodePiece_of_decode_payload hpacked hsquares w
    rw [positionIndex_new hw, positionIndex_positionIndex] at hcell
    rw [positionIndex_new hw]
    exact hcell
  · rw [Except.map_eq_error_iff, decode_payload_eq_error_iff hpacked]
    constructor
    · rintro ⟨w, hlarge, hinvalid, hsmaller⟩
      cases hinvalid
      exact ⟨hlen, w, eq_squareAtWireIndex_iff.1 rfl, rfl, hlarge, hsmaller⟩
    · rintro ⟨-, w, hsquare, rfl, hlarge, hsmaller⟩
      exact ⟨w, hlarge, by rw [eq_squareAtWireIndex_iff.2 hsquare], hsmaller⟩

end Payload

/-- The grammar of a notification that is too short. -/
theorem positionGrammar_of_short {bytes : List UInt8} (h : bytes.length < 34) :
    PositionGrammar bytes (.error (.notificationTooShort ⟨34, bytes.length⟩)) := by
  have hlen : ¬ 34 ≤ bytes.length := Nat.not_le_of_lt h
  refine ⟨fun error => ?_, by simp [hlen], by simp, by simp [hlen]⟩
  rw [Except.error.injEq, DecodePositionNotificationError.notificationTooShort.injEq]
  exact ⟨fun herror => ⟨h, herror.symm⟩, fun herror => herror.2.symm⟩

/-- The payload is in the bytes 2 to 33. -/
theorem payload_congr {bytes bytes' : List UInt8}
    (h : ∀ i, 2 ≤ i → i < 34 → bytes'[i]? = bytes[i]?) :
    (bytes'.drop boardStateOffset).take boardStateLength
      = (bytes.drop boardStateOffset).take boardStateLength := by
  refine List.ext_getElem? fun i => ?_
  rw [List.getElem?_take, List.getElem?_take, List.getElem?_drop, List.getElem?_drop]
  split
  · next hi =>
      refine h _ (Nat.le_add_right ..) ?_
      simp only [boardStateOffset, boardStateLength] at hi ⊢
      omega
  · rfl

/-- **The position decoder accepts its grammar.** It decides by length and by the 64 nibbles of the
    payload, puts every piece on the square of its nibble, reports the first nibble that is no piece
    code, and does not look at any other byte of a frame that is long enough. -/
theorem decodePositionNotification_grammar (bytes : List UInt8) :
    PositionGrammar bytes (decodePositionNotification bytes) ∧
    ∀ bytes', 34 ≤ bytes.length → 34 ≤ bytes'.length →
      (∀ i, 2 ≤ i → i < 34 → bytes'[i]? = bytes[i]?) →
        decodePositionNotification bytes' = decodePositionNotification bytes := by
  refine ⟨?_, fun bytes' hlen hlen' hsame => ?_⟩
  · by_cases hlen : boardStateOffset + boardStateLength ≤ bytes.length
    · obtain ⟨packed, hpacked⟩ := exists_payload_iff.2 hlen
      rw [decodePositionNotification_of_payload hpacked]
      exact positionGrammar_of_payload hpacked
    · have hshort : bytes.length < 34 := Nat.lt_of_not_le hlen
      rw [decodePositionNotification_of_short hshort]
      exact positionGrammar_of_short hshort
  · obtain ⟨packed, hpacked⟩ := exists_payload_iff.2 hlen
    rw [decodePositionNotification_of_payload hpacked,
      decodePositionNotification_of_payload ((payload_congr hsame).trans hpacked)]

end ChessnutMove
