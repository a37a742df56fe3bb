import ChessnutMove.Protocol.PositionCodec

set_option autoImplicit false

/-! # LED commands

What the LED command of an edited pattern carries for each square. Two squares share a byte, so that
an edit leaves its neighbour alone is a fact about nibbles. -/

namespace ChessnutMove

namespace LedPattern

/-- The pattern after a sequence of `set_color` edits. -/
def edited (pattern : LedPattern) (edits : List (Square × LedColor)) : LedPattern :=
  edits.foldl (fun pattern edit => pattern.setColor edit.1 edit.2) pattern

/-- The color of the last edit made to a square, or the one it had if there is none. -/
def lastColor (pattern : LedPattern) (edits : List (Square × LedColor)) (square : Square) :
    LedColor :=
  ((edits.filter fun edit => edit.1 = square).getLast?.map Prod.snd).getD (pattern.colorAt square)

/-- Of the edits made to a square, the last one counts. -/
theorem colorAt_edited (pattern : LedPattern) (edits : List (Square × LedColor))
    (square : Square) : (pattern.edited edits).colorAt square = pattern.lastColor edits square := by
  induction edits generalizing pattern with
  | nil => rfl
  | cons edit rest ih =>
      obtain ⟨square', color⟩ := edit
      have hrest : (pattern.edited ((square', color) :: rest)).colorAt square
          = (pattern.setColor square' color).lastColor rest square := ih _
      rw [hrest, lastColor, lastColor, colorAt_setColor]
      by_cases hsquare : square' = square
      · rw [if_pos hsquare, List.filter_cons_of_pos (by simp [hsquare]), List.getLast?_cons]
        cases (rest.filter fun edit => edit.1 = square).getLast? <;> rfl
      · rw [if_neg hsquare, List.filter_cons_of_neg (by simp [hsquare])]

/-- Edits to different squares commute. -/
theorem setColor_comm (pattern : LedPattern) {square square' : Square} (h : square ≠ square')
    (color color' : LedColor) :
    (pattern.setColor square color).setColor square' color'
      = (pattern.setColor square' color').setColor square color := by
  refine ext_colorAt fun other => ?_
  simp only [colorAt_setColor]
  by_cases hsquare : square = other
  · have hother : square' ≠ other := fun h' => h (hsquare.trans h'.symm)
    rw [if_neg hother, if_neg hother]
  · rw [if_neg hsquare, if_neg hsquare]

end LedPattern

namespace Command

/-- LED commands can be built for every pattern: no nibble assertion fires. -/
theorem exists_setLeds (pattern : LedPattern) : ∃ command, setLeds pattern = some command := by
  obtain ⟨packed, hpacked⟩ := PackedSquares.encode_isSome pattern.squares LedColor.encoded_le
  exact ⟨_, setLeds_eq_some_iff.2 ⟨packed, hpacked, rfl⟩⟩

/-- An LED command is 34 bytes that start with the prefix. -/
theorem length_bytes_of_setLeds {pattern : LedPattern} {command : Command}
    (h : setLeds pattern = some command) :
    command.bytes.length = 34 ∧ command.bytes.take 2 = [0x43, 0x20] := by
  obtain ⟨packed, -, rfl⟩ := setLeds_eq_some_iff.1 h
  rw [bytes_fromBytes]
  refine ⟨Vector.length_toList, ?_⟩
  rw [Vector.toList_append]
  exact List.take_left' rfl

/-- The payload of an LED command is what `PackedSquares` encoded. -/
theorem target_of_setLeds {pattern : LedPattern} {command : Command}
    (h : setLeds pattern = some command) :
    ∃ packed, PackedSquares.encode pattern.squares LedColor.encoded = some packed ∧
      command.target = packed.bytes.toList := by
  obtain ⟨packed, hpacked, rfl⟩ := setLeds_eq_some_iff.1 h
  refine ⟨packed, hpacked, ?_⟩
  have hlen : packed.bytes.toList.length = boardStateLength := Vector.length_toList
  rw [target, bytes_fromBytes, Vector.toList_append, PackedSquares.intoBytes]
  rw [show boardStateOffset = setLedPrefix.toList.length from rfl, List.drop_left, ← hlen,
    List.take_length]

/-- The nibble of an LED command at a wire offset is the color of the square there. -/
theorem frameNibble_of_setLeds {pattern : LedPattern} {command : Command}
    (h : setLeds pattern = some command) {square : Square} {w : WireIndex}
    (hw : w.val = 63 - square.index.val) :
    frameNibble command.bytes w = (pattern.colorAt square).encoded := by
  obtain ⟨packed, hpacked, htarget⟩ := target_of_setLeds h
  have hsquare : w = positionIndex square.index := Fin.ext hw
  rw [frameNibble_eq_nibbleAt htarget, (PackedSquares.encode_eq_some_iff.1 hpacked w).2]
  simp only [hsquare, positionIndex_positionIndex]
  rfl

end Command

/-- **LED commands light the squares asked for.** After any edits the command is built, has its
    length and prefix, and carries for every square the code of its last edit; one more edit changes
    no other square's nibble, and edits to different squares commute. -/
theorem setLeds_edited (pattern : LedPattern) (edits : List (Square × LedColor)) :
    ∃ command, Command.setLeds (pattern.edited edits) = some command ∧
      command.bytes.length = 34 ∧ command.bytes.take 2 = [0x43, 0x20] ∧
      (∀ (square : Square) (w : WireIndex), w.val = 63 - square.index.val →
        frameNibble command.bytes w = (pattern.lastColor edits square).encoded) ∧
      (∀ square color, ∃ command',
        Command.setLeds (pattern.edited (edits ++ [(square, color)])) = some command' ∧
        command'.bytes.length = command.bytes.length ∧
        command'.bytes.take 2 = command.bytes.take 2 ∧
        ∀ w : WireIndex, w.val ≠ 63 - square.index.val →
          frameNibble command'.bytes w = frameNibble command.bytes w) ∧
      ∀ before square square' color color' after, square ≠ square' →
        pattern.edited (before ++ (square, color) :: (square', color') :: after)
          = pattern.edited (before ++ (square', color') :: (square, color) :: after) := by
  obtain ⟨command, hcommand⟩ := Command.exists_setLeds (pattern.edited edits)
  obtain ⟨hlength, hprefix⟩ := Command.length_bytes_of_setLeds hcommand
  refine ⟨command, hcommand, hlength, hprefix, fun square w hw => ?_, fun square color => ?_, ?_⟩
  · rw [Command.frameNibble_of_setLeds hcommand hw, LedPattern.colorAt_edited]
  · obtain ⟨command', hcommand'⟩ :=
      Command.exists_setLeds (pattern.edited (edits ++ [(square, color)]))
    obtain ⟨hlength', hprefix'⟩ := Command.length_bytes_of_setLeds hcommand'
    refine ⟨command', hcommand', by rw [hlength', hlength], by rw [hprefix', hprefix], ?_⟩
    intro w hw
    have hother : w.val = 63 - (squareAtWireIndex w).index.val := by
      rw [index_squareAtWireIndex]
      have hlt := w.isLt
      simp only [positionIndex, squareCount, boardWidth] at hlt ⊢
      omega
    have hne : square ≠ squareAtWireIndex w := by
      rintro rfl
      exact hw hother
    rw [Command.frameNibble_of_setLeds hcommand hother,
      Command.frameNibble_of_setLeds hcommand' hother, LedPattern.edited, List.foldl_append]
    exact congrArg LedColor.encoded ((LedPattern.colorAt_setColor ..).trans (if_neg hne))
  · intro before square square' color color' after hne
    simp only [LedPattern.edited, List.foldl_append, List.foldl_cons,
      LedPattern.setColor_comm _ hne]

end ChessnutMove
