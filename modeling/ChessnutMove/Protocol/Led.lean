import ChessnutMove.Protocol.Wire

set_option autoImplicit false

/-! # LED patterns

Square-addressed LED patterns and their packed encoding (`led.rs`). -/

namespace ChessnutMove

/-- A color supported by a square LED. -/
inductive LedColor
  | off | red | green | blue
  deriving DecidableEq, Repr

/-- The four-bit value used in packed LED commands. -/
def LedColor.encoded : LedColor → UInt8
  | .off => 0
  | .red => 1
  | .green => 2
  | .blue => 3

theorem LedColor.encoded_le (color : LedColor) : color.encoded ≤ 0x0f := by
  cases color <;> decide

theorem LedColor.encoded_injective : Function.Injective LedColor.encoded := by
  intro color color' h
  cases color <;> cases color' <;> first | rfl | cases h

/-- LED colors for all 64 squares, in canonical order. -/
structure LedPattern where
  squares : Vector LedColor squareCount
  deriving DecidableEq

namespace LedPattern

/-- The same color on every square. -/
def all (color : LedColor) : LedPattern := ⟨Vector.replicate squareCount color⟩

/-- The selected color of a square. -/
def colorAt (pattern : LedPattern) (square : Square) : LedColor :=
  pattern.squares.get square.index

/-- Replaces the selected color of one square. -/
def setColor (pattern : LedPattern) (square : Square) (color : LedColor) : LedPattern :=
  ⟨pattern.squares.set square.index color square.index_lt⟩

/-- The packed squares of a pattern; `none` is a failed nibble assertion of the packing. -/
def encode (pattern : LedPattern) : Option (Vector UInt8 boardStateLength) :=
  (PackedSquares.encode pattern.squares LedColor.encoded).map PackedSquares.intoBytes

/-- A color is the last one that was set. -/
theorem colorAt_setColor (pattern : LedPattern) (square square' : Square) (color : LedColor) :
    (pattern.setColor square color).colorAt square'
      = if square = square' then color else pattern.colorAt square' := by
  obtain ⟨index⟩ := square
  obtain ⟨index'⟩ := square'
  simp only [Square.mk.injEq, Fin.ext_iff]
  exact Vector.getElem_set index.isLt index'.isLt

/-- Patterns with the same colors are the same. -/
theorem ext_colorAt {pattern pattern' : LedPattern}
    (h : ∀ square, pattern.colorAt square = pattern'.colorAt square) : pattern = pattern' := by
  obtain ⟨squares⟩ := pattern
  obtain ⟨squares'⟩ := pattern'
  congr 1
  exact Vector.ext fun i hi => h ⟨⟨i, hi⟩⟩

end LedPattern

end ChessnutMove
