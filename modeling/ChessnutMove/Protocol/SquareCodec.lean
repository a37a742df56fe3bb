import ChessnutMove.Library.Callback
import ChessnutMove.Protocol.Wire

set_option autoImplicit false

/-! # Packed squares as a codec

`PackedSquares` is generic in the cells and in the two callbacks, and the callback of `decode` is an
`FnMut`. `decodeM` is `decode` over a callback in any monad; `decode` is the case of a callback
without a state, and the calls `decode` makes are what a callback that keeps a log of them has
written down at the end. -/

namespace ChessnutMove

open Nibble Fill Callback

namespace PackedSquares

variable {T ε σ : Type}

/-- `PackedSquares::decode` over a callback with effects. -/
def decodeM {m : Type → Type} [Monad m] [Inhabited T] (packed : PackedSquares)
    (decode : Square → UInt8 → m T) : m (Vector T squareCount) :=
  (List.finRange packedSquareBytes).foldlM
    (fun squares byteIndex => do
      let byte := packed.bytes.get byteIndex
      let firstSquare := squareAtWireIndex (firstWireIndex byteIndex)
      let secondSquare := squareAtWireIndex (secondWireIndex byteIndex)
      let squares := squares.set firstSquare.index (← decode firstSquare (Nibble.low byte))
        firstSquare.index_lt
      return squares.set secondSquare.index (← decode secondSquare (Nibble.high byte))
        secondSquare.index_lt)
    (Vector.replicate squareCount default)

theorem decode_eq_decodeM [Inhabited T] (packed : PackedSquares)
    (d : Square → UInt8 → Except ε T) : packed.decode d = packed.decodeM d := rfl

/-- The arguments the callback of `decode` gets if it never fails: from H8 down to A1, each square
    with its nibble. -/
def wireOrder (packed : PackedSquares) : List (Square × UInt8) :=
  Square.all.toList.reverse.map fun square =>
    (square, packed.nibbleAt (positionIndex square.index))

/-- The squares in the order of their wire offsets. -/
theorem map_squareAtWireIndex :
    (List.finRange squareCount).map squareAtWireIndex = Square.all.toList.reverse := by
  decide

theorem wireOrder_eq_map (packed : PackedSquares) : packed.wireOrder
    = (List.finRange squareCount).map fun w => (squareAtWireIndex w, packed.nibbleAt w) := by
  rw [wireOrder, ← map_squareAtWireIndex, List.map_map]
  refine List.map_congr_left fun w _ => ?_
  simp only [Function.comp_apply, index_squareAtWireIndex, positionIndex_positionIndex]

/-- The decode loop is one fill in wire order. -/
theorem decodeM_eq_fillM {m : Type → Type} [Monad m] [LawfulMonad m] [Inhabited T]
    (packed : PackedSquares) (d : Square → UInt8 → m T) :
    packed.decodeM d = fillM (packed.wireOrder.map fun call => (call.1.index, d call.1 call.2))
      (Vector.replicate squareCount default) := by
  rw [wireOrder_eq_map, List.map_map, finRange_eq_flatMap, List.map_flatMap, fillM_flatMap]
  unfold decodeM
  congr 1
  funext squares b
  have hbyte : packed.bytes.get b = packed.bytes[b] := rfl
  simp [fillM, nibbleAt_firstWireIndex, nibbleAt_secondWireIndex, hbyte]

/-- The decode loop makes the calls of its transcript and stores what they return. -/
theorem run_decodeM [Inhabited T] (packed : PackedSquares)
    (d : Square × UInt8 → ExceptT ε (StateM σ) T) (s : σ) :
    (packed.decodeM fun square value => d (square, value)).run.run s =
      (fill ((transcript d packed.wireOrder s).1.map fun call => (call.1.1.index, call.2))
        (Vector.replicate squareCount default), (transcript d packed.wireOrder s).2) := by
  rw [decodeM_eq_fillM]
  exact run_fillM d (fun call => call.1.index) packed.wireOrder _ s

/-- What a run of `decode` says about the calls it made. -/
structure CallsInWireOrder (packed : PackedSquares)
    (calls : List ((Square × UInt8) × Except ε T))
    (result : Except ε (Vector T squareCount)) : Prop where
  /-- Every call got the next square in wire order and its nibble. -/
  order : calls.map Prod.fst <+: packed.wireOrder
  /-- An error is that of the last call, and no call before it failed. -/
  error : ∀ error, result = .error error ↔
    ∃ before square, calls = before ++ [(square, .error error)] ∧ ∀ call ∈ before, call.2.isOk
  /-- Without an error every square had its call, and its cell holds what that call returned. -/
  ok : ∀ squares, result = .ok squares → calls.map Prod.fst = packed.wireOrder ∧
    ∀ call ∈ calls, call.2 = .ok squares[call.1.1.index]

/-- Each square has one call at most. -/
theorem nodup_wireOrder (packed : PackedSquares) :
    (packed.wireOrder.map fun call => call.1.index).Nodup := by
  have hindexes : (packed.wireOrder.map fun call => call.1.index)
      = (List.finRange squareCount).map positionIndex := by
    rw [wireOrder_eq_map, List.map_map]
    exact List.map_congr_left fun w _ => index_squareAtWireIndex w
  rw [hindexes]
  exact (List.nodup_finRange _).map positionIndex_injective

section Calls

variable {packed : PackedSquares} {calls before : List ((Square × UInt8) × Except ε T)}

theorem exists_ok_of_isOk (hok : ∀ call ∈ calls, call.2.isOk) :
    ∀ write ∈ calls.map fun call => (call.1.1.index, call.2), ∃ value, write.2 = .ok value := by
  intro write hmem
  obtain ⟨call, hcall, rfl⟩ := List.mem_map.1 hmem
  exact Except.isOk_iff_exists.1 (hok call hcall)

/-- Every call returned a value, so the fill stored one in each cell. -/
theorem callsInWireOrder_of_isOk (hkeys : calls.map Prod.fst = packed.wireOrder)
    (hok : ∀ call ∈ calls, call.2.isOk) (squares : Vector T squareCount) :
    CallsInWireOrder packed calls
      (fill (calls.map fun call => (call.1.1.index, call.2)) squares) := by
  have hnodup : ((calls.map fun call => (call.1.1.index, call.2)).map Prod.fst).Nodup := by
    have hindexes := packed.nodup_wireOrder
    rw [← hkeys, List.map_map] at hindexes
    rw [List.map_map]
    exact hindexes
  obtain ⟨filled, hfill⟩ := fill_isOk squares (exists_ok_of_isOk hok)
  refine ⟨hkeys ▸ List.prefix_rfl, fun error => ?_, fun squares' hsquares => ⟨hkeys, ?_⟩⟩
  · rw [hfill]
    refine iff_of_false (by simp) ?_
    rintro ⟨before, square, hcalls, -⟩
    have hlast := hok (square, .error error) (by rw [hcalls]; simp)
    cases hlast
  · intro call hcall
    exact eq_ok_of_fill hnodup hsquares _ (List.mem_map_of_mem hcall)

/-- The last call failed, and so the fill did. -/
theorem callsInWireOrder_of_error {key : Square × UInt8} {error : ε}
    (horder : calls.map Prod.fst <+: packed.wireOrder)
    (hcalls : calls = before ++ [(key, .error error)])
    (hok : ∀ call ∈ before, call.2.isOk) (squares : Vector T squareCount) :
    CallsInWireOrder packed calls
      (fill (calls.map fun call => (call.1.1.index, call.2)) squares) := by
  have hfill : fill (calls.map fun call => (call.1.1.index, call.2)) squares = .error error := by
    refine fill_eq_error_iff.2 ⟨before.map fun call => (call.1.1.index, call.2), key.1.index, [],
      ?_, exists_ok_of_isOk hok⟩
    rw [hcalls, List.map_append, List.map_cons, List.map_nil]
  refine ⟨horder, fun error' => ?_, fun squares' hsquares => ?_⟩
  · rw [hfill, Except.error.injEq]
    constructor
    · rintro rfl
      exact ⟨before, key, hcalls, hok⟩
    · rintro ⟨before', key', hcalls', -⟩
      have hlast := congrArg List.getLast? (hcalls.symm.trans hcalls')
      simp only [List.getLast?_concat, Option.some.injEq, Prod.mk.injEq, Except.error.injEq]
        at hlast
      exact hlast.2
  · rw [hfill] at hsquares
    cases hsquares

end Calls

/-- The calls of a transcript and the fill with their results tell the same story. -/
theorem callsInWireOrder [Inhabited T] (packed : PackedSquares)
    (d : Square × UInt8 → ExceptT ε (StateM σ) T) (s : σ) :
    CallsInWireOrder packed (transcript d packed.wireOrder s).1
      ((packed.decodeM fun square value => d (square, value)).run.run s).1 := by
  rw [run_decodeM]
  have horder := transcript_prefix d packed.wireOrder s
  rcases transcript_cases d packed.wireOrder s with ⟨hok, hkeys⟩ | ⟨before, key, error, hcalls, hok⟩
  · exact callsInWireOrder_of_isOk hkeys hok _
  · exact callsInWireOrder_of_error horder hcalls hok _

/-- **A lossless codec.** With a nibble encoder and a fallible decoder of one cell: what is encoded
    decodes to itself if the cells do; a payload that decodes is the encoding of its value if the
    cells' are; and whatever state the decoder keeps, its calls come in wire order up to the first
    error, each square once, and fill every cell of a result. -/
theorem packedSquares_codec [Inhabited T] (e : T → UInt8) (he : ∀ t, e t ≤ 0x0f) :
    (∀ d : Square → UInt8 → Except ε T, (∀ s t, d s (e t) = .ok t) →
      ∀ squares, ∃ packed, encode squares e = some packed ∧ packed.decode d = .ok squares) ∧
    (∀ d : Square → UInt8 → Except ε T, (∀ s n v, n ≤ 0x0f → d s n = .ok v → e v = n) →
      ∀ packed squares, packed.decode d = .ok squares → encode squares e = some packed) ∧
    ∀ (σ : Type) (d : Square → UInt8 → ExceptT ε (StateM σ) T) (packed : PackedSquares) (s : σ),
      ∃ calls, CallsInWireOrder packed calls ((packed.decodeM d).run.run s).1 ∧
        (packed.decodeM fun square value =>
            logged (fun call => d call.1 call.2) (square, value)).run.run (s, []) =
          (((packed.decodeM d).run.run s).1, ((packed.decodeM d).run.run s).2, calls) := by
  refine ⟨fun d hde squares => ?_, fun d hed packed squares h => ?_, fun σ d packed s => ?_⟩
  · obtain ⟨packed, hpacked⟩ := encode_isSome squares he
    exact ⟨packed, hpacked, decode_of_encode hde hpacked⟩
  · exact encode_of_decode he hed h
  · refine ⟨_, packed.callsInWireOrder (fun call => d call.1 call.2) s, ?_⟩
    rw [run_decodeM, transcript_logged, run_decodeM packed (fun call => d call.1 call.2)]
    simp

/-- Two rooks in opposite corners. -/
def corners : Vector (Option Piece) squareCount :=
  ((Vector.replicate squareCount none).set 0 (some ⟨.white, .rook⟩) (by decide)).set 63
    (some ⟨.black, .rook⟩) (by decide)

/-- The piece decoder, which also counts its calls. -/
def decodeAndCount (square : Square) (value : UInt8) :
    ExceptT DecodePositionNotificationError (StateM Nat) (Option Piece) :=
  fun count => (decodePiece square value, count + 1)

/-- The codec of the piece codes on two rooks: there, back, and with a decoder that counts. -/
theorem packedSquares_codec_pieces :
    (∀ piece, encodePiece piece ≤ 0x0f) ∧
    ∃ packed, encode corners encodePiece = some packed ∧ packed.decode decodePiece = .ok corners ∧
      (∀ squares, packed.decode decodePiece = .ok squares →
        encode squares encodePiece = some packed) ∧
      ∃ calls, CallsInWireOrder packed calls ((packed.decodeM decodeAndCount).run.run 0).1 := by
  obtain ⟨hthere, hback, hcalls⟩ := packedSquares_codec encodePiece encodePiece_le
  obtain ⟨packed, hpacked, hdecode⟩ := hthere decodePiece decodePiece_encodePiece corners
  refine ⟨encodePiece_le, packed, hpacked, hdecode, ?_, ?_⟩
  · exact hback decodePiece (fun _ _ _ _ h => encodePiece_of_decodePiece h) packed
  · obtain ⟨calls, horder, -⟩ := hcalls Nat decodeAndCount packed 0
    exact ⟨calls, horder⟩

end PackedSquares

end ChessnutMove
