import ChessnutMove.Library.Codec
import ChessnutMove.Protocol.Values

set_option autoImplicit false

/-! # Wire codecs

The private conversions of `protocol/wire`: the four-bit piece codes (`pieces.rs`) and
`PackedSquares` (`squares.rs`), which reverses canonical square order and packs two four-bit values
into each byte. `encode` asserts that every value fits in a nibble, so it is partial here; the
decode loop threads the array it fills and leaves at the first error of its callback.

`decode_eq_ok_iff` is the specification of that loop, and the two theorems after it say that the two
directions are inverse to each other for every cell codec whose two halves are. -/

namespace ChessnutMove

open Nibble Fill

/-! ## Piece codes -/

/-- Encodes one optional piece as the Move protocol's four-bit piece code. -/
def encodePiece : Option Piece → UInt8
  | none => 0x0
  | some ⟨.black, .queen⟩ => 0x1
  | some ⟨.black, .king⟩ => 0x2
  | some ⟨.black, .bishop⟩ => 0x3
  | some ⟨.black, .pawn⟩ => 0x4
  | some ⟨.black, .knight⟩ => 0x5
  | some ⟨.white, .rook⟩ => 0x6
  | some ⟨.white, .pawn⟩ => 0x7
  | some ⟨.black, .rook⟩ => 0x8
  | some ⟨.white, .bishop⟩ => 0x9
  | some ⟨.white, .knight⟩ => 0xa
  | some ⟨.white, .queen⟩ => 0xb
  | some ⟨.white, .king⟩ => 0xc

/-- Decodes one four-bit piece code and attaches its square to any error. -/
def decodePiece (square : Square) (value : UInt8) :
    Except DecodePositionNotificationError (Option Piece) :=
  match value with
  | 0x0 => .ok none
  | 0x1 => .ok (some ⟨.black, .queen⟩)
  | 0x2 => .ok (some ⟨.black, .king⟩)
  | 0x3 => .ok (some ⟨.black, .bishop⟩)
  | 0x4 => .ok (some ⟨.black, .pawn⟩)
  | 0x5 => .ok (some ⟨.black, .knight⟩)
  | 0x6 => .ok (some ⟨.white, .rook⟩)
  | 0x7 => .ok (some ⟨.white, .pawn⟩)
  | 0x8 => .ok (some ⟨.black, .rook⟩)
  | 0x9 => .ok (some ⟨.white, .bishop⟩)
  | 0xa => .ok (some ⟨.white, .knight⟩)
  | 0xb => .ok (some ⟨.white, .queen⟩)
  | 0xc => .ok (some ⟨.white, .king⟩)
  | value => .error (.invalidPiece square value)

/-- Every piece code fits in a nibble. -/
theorem encodePiece_le (piece : Option Piece) : encodePiece piece ≤ 0x0f := by
  rcases piece with _ | ⟨color, kind⟩
  · decide
  · cases color <;> cases kind <;> decide

/-- The piece table read forwards and then backwards. -/
theorem decodePiece_encodePiece (square : Square) (piece : Option Piece) :
    decodePiece square (encodePiece piece) = .ok piece := by
  rcases piece with _ | ⟨color, kind⟩
  · rfl
  · cases color <;> cases kind <;> rfl

/-- A code that decodes is the code of what it decodes to. -/
theorem encodePiece_of_decodePiece {square : Square} {value : UInt8} {piece : Option Piece}
    (h : decodePiece square value = .ok piece) : encodePiece piece = value := by
  unfold decodePiece at h
  split at h <;> cases h <;> rfl

theorem encodePiece_injective : Function.Injective encodePiece := by
  intro piece piece' h
  have hpiece := decodePiece_encodePiece ⟨⟨0, by decide⟩⟩ piece
  rw [h, decodePiece_encodePiece] at hpiece
  exact (Except.ok.inj hpiece).symm

/-- The codes above the white king's are no piece codes. -/
theorem decodePiece_eq_error_iff {square : Square} {value : UInt8}
    {error : DecodePositionNotificationError} :
    decodePiece square value = .error error ↔
      0x0c < value ∧ error = .invalidPiece square value := by
  unfold decodePiece
  split
  case h_14 =>
    have hlt : 0x0c < value := by
      simp only [imp_false, ← UInt8.toNat_inj, UInt8.lt_iff_toNat_lt, UInt8.reduceToNat] at *
      omega
    simp [hlt, eq_comm]
  all_goals simp; try decide

theorem exists_decodePiece_iff {square : Square} {value : UInt8} :
    (∃ piece, decodePiece square value = .ok piece) ↔ value ≤ 0x0c := by
  cases h : decodePiece square value with
  | ok piece =>
      refine iff_of_true ⟨piece, rfl⟩ (UInt8.not_lt.1 fun hlt => ?_)
      rw [decodePiece_eq_error_iff.2 ⟨hlt, rfl⟩] at h
      cases h
  | error error =>
      have hlt := (decodePiece_eq_error_iff.1 h).1
      exact iff_of_false (by simp) (UInt8.not_le.2 hlt)

/-! ## Packed squares -/

def packedSquareBytes : Nat := squareCount / 2

/-- Two four-bit square values packed into each byte in Chessnut wire order. -/
structure PackedSquares where
  bytes : Vector UInt8 packedSquareBytes
  deriving DecidableEq

/-- A Move wire offset. -/
abbrev WireIndex := Fin squareCount

/-- Converts a Move wire offset into a canonical A1-to-H8 array index. -/
def positionIndex (wireIndex : WireIndex) : Fin squareCount :=
  ⟨squareCount - 1 - wireIndex, by
    have h := wireIndex.isLt
    simp only [squareCount, boardWidth] at h ⊢
    omega⟩

/-- The canonical square associated with a Move wire offset. -/
def squareAtWireIndex (wireIndex : WireIndex) : Square := Square.all[positionIndex wireIndex]

/-- The wire offset in the low nibble of a byte: `byte_index * 2`. -/
def firstWireIndex (byteIndex : Fin packedSquareBytes) : WireIndex :=
  ⟨byteIndex * 2, by
    have h := byteIndex.isLt
    simp only [packedSquareBytes, squareCount, boardWidth] at h ⊢
    omega⟩

/-- The wire offset in the high nibble of a byte: `first_wire_index + 1`. -/
def secondWireIndex (byteIndex : Fin packedSquareBytes) : WireIndex :=
  ⟨byteIndex * 2 + 1, by
    have h := byteIndex.isLt
    simp only [packedSquareBytes, squareCount, boardWidth] at h ⊢
    omega⟩

/-- `core::array::from_fn` with a callback that may panic. -/
def arrayFromFn {α : Type} {n : Nat} (f : Fin n → Option α) : Option (Vector α n) :=
  if h : ∀ i, (f i).isSome then some (Vector.ofFn fun i => (f i).get (h i)) else none

namespace PackedSquares

variable {T ε : Type}

/-- Packs canonical values into reversed Move wire order. `none` is the panic of an `assert!`: some
    value does not fit within a nibble. -/
def encode (squares : Vector T squareCount) (encode : T → UInt8) : Option PackedSquares :=
  (arrayFromFn fun byteIndex =>
    let first := encode squares[positionIndex (firstWireIndex byteIndex)]
    let second := encode squares[positionIndex (secondWireIndex byteIndex)]
    if first ≤ 0x0f ∧ second ≤ 0x0f then some (Nibble.join first second) else none).map .mk

/-- Decodes packed values into canonical order, leaving at the first error of the callback. -/
def decode [Inhabited T] (packed : PackedSquares) (decode : Square → UInt8 → Except ε T) :
    Except ε (Vector T squareCount) :=
  (List.finRange packedSquareBytes).foldlM
    (fun squares byteIndex => do
      let byte := packed.bytes[byteIndex]
      let firstSquare := squareAtWireIndex (firstWireIndex byteIndex)
      let secondSquare := squareAtWireIndex (secondWireIndex byteIndex)
      let squares := squares.set firstSquare.index (← decode firstSquare (Nibble.low byte))
      return squares.set secondSquare.index (← decode secondSquare (Nibble.high byte)))
    (Vector.replicate squareCount default)

def fromBytes (bytes : Vector UInt8 packedSquareBytes) : PackedSquares := ⟨bytes⟩

def intoBytes (packed : PackedSquares) : Vector UInt8 packedSquareBytes := packed.bytes

/-- The nibble at a wire offset: the low half of its byte at even offsets, the high half at odd
    ones. -/
def nibbleAt (packed : PackedSquares) (wireIndex : WireIndex) : UInt8 :=
  let byte := packed.bytes.get ⟨wireIndex / 2, by
    have h := wireIndex.isLt
    simp only [packedSquareBytes, squareCount, boardWidth] at h ⊢
    omega⟩
  if wireIndex.val % 2 = 0 then low byte else high byte

end PackedSquares

/-! ## The wire order -/

@[simp] theorem index_squareAtWireIndex (w : WireIndex) :
    (squareAtWireIndex w).index = positionIndex w := by
  simp [squareAtWireIndex, Square.all, Square.index]

theorem positionIndex_positionIndex (w : WireIndex) : positionIndex (positionIndex w) = w := by
  have h := w.isLt
  refine Fin.ext ?_
  simp only [positionIndex, squareCount, boardWidth] at h ⊢
  omega

theorem positionIndex_injective : Function.Injective positionIndex := by
  intro w w' h
  rw [← positionIndex_positionIndex w, h, positionIndex_positionIndex]

/-- The two nibbles of the bytes, in order, are the wire offsets in order. -/
theorem finRange_eq_flatMap : List.finRange squareCount
    = (List.finRange packedSquareBytes).flatMap fun b => [firstWireIndex b, secondWireIndex b] := by
  decide

/-- Every wire offset is the low or the high half of a byte. -/
theorem exists_byteIndex (w : WireIndex) :
    ∃ b, w = firstWireIndex b ∨ w = secondWireIndex b := by
  have hmem : w ∈ List.finRange squareCount := List.mem_finRange w
  rw [finRange_eq_flatMap, List.mem_flatMap] at hmem
  obtain ⟨b, -, hb⟩ := hmem
  exact ⟨b, by simpa using hb⟩

namespace PackedSquares

variable {T ε : Type}

@[simp] theorem nibbleAt_firstWireIndex (packed : PackedSquares) (b : Fin packedSquareBytes) :
    packed.nibbleAt (firstWireIndex b) = low packed.bytes[b] := by
  simp [nibbleAt, firstWireIndex, Vector.get]

@[simp] theorem nibbleAt_secondWireIndex (packed : PackedSquares) (b : Fin packedSquareBytes) :
    packed.nibbleAt (secondWireIndex b) = high packed.bytes[b] := by
  have hodd : (b.val * 2 + 1) / 2 = b.val := by omega
  simp [nibbleAt, secondWireIndex, Vector.get, hodd]

/-- What the callback of `decode` is given fits in a nibble. -/
theorem nibbleAt_le (packed : PackedSquares) (w : WireIndex) : packed.nibbleAt w ≤ 0x0f := by
  obtain ⟨b, rfl | rfl⟩ := exists_byteIndex w
  · rw [nibbleAt_firstWireIndex]
    exact low_le _
  · rw [nibbleAt_secondWireIndex]
    exact high_le _

/-! ## What the two loops compute -/

theorem arrayFromFn_eq_some_iff {α : Type} {n : Nat} {f : Fin n → Option α} {v : Vector α n} :
    arrayFromFn f = some v ↔ ∀ i, f i = some (v.get i) := by
  unfold arrayFromFn
  constructor
  · intro h i
    split at h
    · next hsome =>
        rw [Option.some.injEq] at h
        have hget : (Vector.ofFn fun i => (f i).get (hsome i)).get i = (f i).get (hsome i) :=
          Vector.getElem_ofFn _
        rw [← h, hget, Option.some_get]
    · exact absurd h (by simp)
  · intro h
    have hsome : ∀ i, (f i).isSome := fun i => by rw [h i]; rfl
    rw [dif_pos hsome, Option.some.injEq]
    refine Vector.ext fun i hi => ?_
    rw [Vector.getElem_ofFn]
    simp only [h ⟨i, hi⟩, Option.get_some]
    rfl

/-- **What `encode` computes.** It returns `packed` exactly when every value fits in a nibble and
    the nibble at each wire offset is the value of the square there. -/
theorem encode_eq_some_iff {squares : Vector T squareCount} {e : T → UInt8}
    {packed : PackedSquares} :
    encode squares e = some packed ↔ ∀ w, e squares[positionIndex w] ≤ 0x0f ∧
      packed.nibbleAt w = e squares[positionIndex w] := by
  obtain ⟨bytes⟩ := packed
  have hmk : encode squares e = some ⟨bytes⟩ ↔ ∀ b : Fin packedSquareBytes,
      (e squares[positionIndex (firstWireIndex b)] ≤ 0x0f ∧
        e squares[positionIndex (secondWireIndex b)] ≤ 0x0f) ∧
      join (e squares[positionIndex (firstWireIndex b)])
        (e squares[positionIndex (secondWireIndex b)]) = bytes[b] := by
    simp only [encode, Option.map_eq_some_iff, PackedSquares.mk.injEq, exists_eq_right,
      arrayFromFn_eq_some_iff, Option.ite_none_right_eq_some, Option.some.injEq]
    rfl
  rw [hmk]
  constructor
  · intro h w
    obtain ⟨b, rfl | rfl⟩ := exists_byteIndex w
    · obtain ⟨⟨hf, hs⟩, hb⟩ := h b
      rw [nibbleAt_firstWireIndex, ← hb, low_join hf hs]
      exact ⟨hf, rfl⟩
    · obtain ⟨⟨hf, hs⟩, hb⟩ := h b
      rw [nibbleAt_secondWireIndex, ← hb, high_join hf hs]
      exact ⟨hs, rfl⟩
  · intro h b
    have hfirst := h (firstWireIndex b)
    have hsecond := h (secondWireIndex b)
    rw [nibbleAt_firstWireIndex] at hfirst
    rw [nibbleAt_secondWireIndex] at hsecond
    refine ⟨⟨hfirst.1, hsecond.1⟩, ?_⟩
    rw [← hfirst.2, ← hsecond.2, join_low_high]

/-- The decode loop is one fill in wire order. -/
theorem decode_eq_fill [Inhabited T] (packed : PackedSquares) (d : Square → UInt8 → Except ε T) :
    packed.decode d = fill
      ((List.finRange squareCount).map fun w =>
        ((squareAtWireIndex w).index, d (squareAtWireIndex w) (packed.nibbleAt w)))
      (Vector.replicate squareCount default) := by
  rw [finRange_eq_flatMap, List.map_flatMap, fill_flatMap]
  unfold decode
  congr 1
  funext squares b
  simp only [List.map_cons, List.map_nil, nibbleAt_firstWireIndex, nibbleAt_secondWireIndex]
  -- each of the two callbacks of an iteration either stores its value or ends the loop
  cases hfirst : d (squareAtWireIndex (firstWireIndex b)) (low packed.bytes[b]) with
  | error e => rfl
  | ok first =>
      cases hsecond : d (squareAtWireIndex (secondWireIndex b)) (high packed.bytes[b]) with
      | error e => rfl
      | ok second => rfl

/-- **What `decode` computes.** It returns `squares` exactly when at every wire offset the callback
    returned the cell of the square there. -/
theorem decode_eq_ok_iff [Inhabited T] {packed : PackedSquares} {d : Square → UInt8 → Except ε T}
    {squares : Vector T squareCount} :
    packed.decode d = .ok squares ↔
      ∀ w, d (squareAtWireIndex w) (packed.nibbleAt w) = .ok squares[positionIndex w] := by
  have hkeys : ((List.finRange squareCount).map fun w =>
      ((squareAtWireIndex w).index, d (squareAtWireIndex w) (packed.nibbleAt w))).map Prod.fst
      = (List.finRange squareCount).map positionIndex := by
    rw [List.map_map]
    exact List.map_congr_left fun w _ => index_squareAtWireIndex w
  rw [decode_eq_fill, fill_eq_ok_iff]
  · simp
  · rw [hkeys]
    exact (List.nodup_finRange _).map positionIndex_injective
  · intro i
    rw [hkeys, List.mem_map]
    exact ⟨positionIndex i, List.mem_finRange _, positionIndex_positionIndex i⟩

/-- **How `decode` fails.** With the error the callback returns at some wire offset, when it
    succeeded at all earlier ones. -/
theorem decode_eq_error_iff [Inhabited T] {packed : PackedSquares}
    {d : Square → UInt8 → Except ε T} {error : ε} :
    packed.decode d = .error error ↔
      ∃ w, d (squareAtWireIndex w) (packed.nibbleAt w) = .error error ∧
        ∀ w' < w, ∃ value, d (squareAtWireIndex w') (packed.nibbleAt w') = .ok value := by
  rw [decode_eq_fill, fill_finRange_eq_error_iff]

/-! ## The two directions are inverse -/

/-- Encoding succeeds when every cell value fits in a nibble. -/
theorem encode_isSome (squares : Vector T squareCount) {e : T → UInt8} (he : ∀ t, e t ≤ 0x0f) :
    ∃ packed, encode squares e = some packed := by
  refine ⟨⟨Vector.ofFn fun b => join (e squares[positionIndex (firstWireIndex b)])
    (e squares[positionIndex (secondWireIndex b)])⟩, encode_eq_some_iff.2 fun w => ⟨he _, ?_⟩⟩
  obtain ⟨b, rfl | rfl⟩ := exists_byteIndex w
  · simp [low_join (he _) (he _)]
  · simp [high_join (he _) (he _)]

/-- Different cells are packed differently, if their values differ. -/
theorem encode_injective {squares squares' : Vector T squareCount} {e : T → UInt8}
    {packed : PackedSquares} (he : Function.Injective e) (h : encode squares e = some packed)
    (h' : encode squares' e = some packed) : squares = squares' := by
  refine Vector.ext fun i hi => ?_
  have hcell := (encode_eq_some_iff.1 h (positionIndex ⟨i, hi⟩)).2
  have hcell' := (encode_eq_some_iff.1 h' (positionIndex ⟨i, hi⟩)).2
  simp only [positionIndex_positionIndex, Fin.getElem_fin] at hcell hcell'
  exact he (hcell.symm.trans hcell')

theorem encode_eq_iff {squares squares' : Vector T squareCount} {e : T → UInt8}
    {packed packed' : PackedSquares} (he : Function.Injective e)
    (h : encode squares e = some packed) (h' : encode squares' e = some packed') :
    packed = packed' ↔ squares = squares' := by
  constructor
  · rintro rfl
    exact encode_injective he h h'
  · rintro rfl
    exact Option.some.inj (h.symm.trans h')

/-- What was encoded decodes to itself, if the cell codec reads back what it writes. -/
theorem decode_of_encode [Inhabited T] {squares : Vector T squareCount} {e : T → UInt8}
    {d : Square → UInt8 → Except ε T} {packed : PackedSquares} (hde : ∀ s t, d s (e t) = .ok t)
    (h : encode squares e = some packed) : packed.decode d = .ok squares := by
  refine decode_eq_ok_iff.2 fun w => ?_
  rw [(encode_eq_some_iff.1 h w).2]
  exact hde _ _

/-- What decodes is the encoding of its value, if the cell codec writes back what it reads. -/
theorem encode_of_decode [Inhabited T] {squares : Vector T squareCount} {e : T → UInt8}
    {d : Square → UInt8 → Except ε T} {packed : PackedSquares} (he : ∀ t, e t ≤ 0x0f)
    (hed : ∀ s n t, n ≤ 0x0f → d s n = .ok t → e t = n) (h : packed.decode d = .ok squares) :
    encode squares e = some packed := by
  refine encode_eq_some_iff.2 fun w => ⟨he _, ?_⟩
  exact (hed _ _ _ (packed.nibbleAt_le w) (decode_eq_ok_iff.1 h w)).symm

end PackedSquares

end ChessnutMove
