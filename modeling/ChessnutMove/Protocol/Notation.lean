import ChessnutMove.Protocol.Values
import Mathlib.Data.Fintype.Basic

set_option autoImplicit false

/-! # Square notation

Files, ranks and squares as text (`protocol/square.rs`). The parser reads the bytes of a string, so
it is stated over every string; what it accepts is what `fmt` prints, and nothing else but the same
with a capital file letter. -/

namespace ChessnutMove

/-! ## Files and ranks -/

def File.fromAscii (byte : UInt8) : Option File :=
  match byte with
  | 0x61 | 0x41 => some .a
  | 0x62 | 0x42 => some .b
  | 0x63 | 0x43 => some .c
  | 0x64 | 0x44 => some .d
  | 0x65 | 0x45 => some .e
  | 0x66 | 0x46 => some .f
  | 0x67 | 0x47 => some .g
  | 0x68 | 0x48 => some .h
  | _ => none

/-- `Display for File`. -/
def File.fmt : File → String
  | .a => "a" | .b => "b" | .c => "c" | .d => "d" | .e => "e" | .f => "f" | .g => "g" | .h => "h"

def Rank.fromAscii (byte : UInt8) : Option Rank :=
  match byte with
  | 0x31 => some .one
  | 0x32 => some .two
  | 0x33 => some .three
  | 0x34 => some .four
  | 0x35 => some .five
  | 0x36 => some .six
  | 0x37 => some .seven
  | 0x38 => some .eight
  | _ => none

/-- `Display for Rank`. -/
def Rank.fmt : Rank → String
  | .one => "1" | .two => "2" | .three => "3" | .four => "4" | .five => "5" | .six => "6"
  | .seven => "7" | .eight => "8"

/-- Reports that a string is not exactly one valid file and one valid rank. -/
structure ParseSquareError where
  deriving DecidableEq, Repr

namespace Square

/-! ## Squares -/

/-- Creates a square from a canonical zero-based index. -/
def fromIndex (index : Nat) : Option Square :=
  if h : index < squareCount then some ⟨⟨index, h⟩⟩ else none

/-- The square's file. A remainder below eight leaves no case for `unreachable!`. -/
def file (square : Square) : File :=
  match (⟨square.value % boardWidth, Nat.mod_lt _ (by decide)⟩ : Fin 8) with
  | 0 => .a | 1 => .b | 2 => .c | 3 => .d | 4 => .e | 5 => .f | 6 => .g | 7 => .h

/-- The square's rank. -/
def rank (square : Square) : Rank :=
  match (⟨square.value / boardWidth, Nat.div_lt_of_lt_mul square.value.isLt⟩ : Fin 8) with
  | 0 => .one | 1 => .two | 2 => .three | 3 => .four | 4 => .five | 5 => .six | 6 => .seven
  | 7 => .eight

/-- `Display for Square`. -/
def fmt (square : Square) : String := square.file.fmt ++ square.rank.fmt

/-- `FromStr for Square`. -/
def fromStr (value : String) : Except ParseSquareError Square :=
  match value.toUTF8.data.toList with
  | [file, rank] => do
      let file ← match File.fromAscii file with
        | some file => Except.ok file
        | none => .error ⟨⟩
      let rank ← match Rank.fromAscii rank with
        | some rank => Except.ok rank
        | none => .error ⟨⟩
      return Square.new file rank
  | _ => .error ⟨⟩

/-! ## Coordinates -/

theorem index_file (square : Square) :
    square.file.index = ⟨square.value % boardWidth, Nat.mod_lt _ (by decide)⟩ := by
  unfold file
  split
  all_goals next h => exact h.symm

theorem index_rank (square : Square) :
    square.rank.index = ⟨square.value / boardWidth, Nat.div_lt_of_lt_mul square.value.isLt⟩ := by
  unfold rank
  split
  all_goals next h => exact h.symm

theorem new_file_rank (square : Square) : Square.new square.file square.rank = square := by
  obtain ⟨value⟩ := square
  rw [Square.mk.injEq, Fin.ext_iff]
  show (rank ⟨value⟩).index.val * boardWidth + (file ⟨value⟩).index.val = value.val
  rw [index_file, index_rank]
  exact Nat.div_add_mod' _ _

theorem file_new (file : File) (rank : Rank) : (Square.new file rank).file = file := by
  cases file <;> cases rank <;> rfl

theorem rank_new (file : File) (rank : Rank) : (Square.new file rank).rank = rank := by
  cases file <;> cases rank <;> rfl

theorem fromIndex_eq_some_iff {index : Nat} {square : Square} :
    fromIndex index = some square ↔ square.index.val = index := by
  unfold fromIndex
  split
  · next h =>
      rw [Option.some.injEq]
      constructor
      · rintro rfl
        rfl
      · rintro rfl
        rfl
  · next h =>
      refine iff_of_false (by simp) ?_
      rintro rfl
      exact h square.index_lt

end Square

/-! ## Text -/

/-- The bytes of a string, `as_bytes`. -/
theorem bytes_inj {s s' : String} : s.toUTF8.data.toList = s'.toUTF8.data.toList ↔ s = s' := by
  constructor
  · intro h
    exact String.toByteArray_inj.1 (ByteArray.ext (Array.toList_inj.1 h))
  · rintro rfl
    rfl

theorem bytes_append (s s' : String) :
    (s ++ s').toUTF8.data.toList = s.toUTF8.data.toList ++ s'.toUTF8.data.toList := by
  show (s ++ s').toByteArray.data.toList = _
  rw [String.toByteArray_append, ByteArray.data_append, Array.toList_append]
  rfl

theorem File.fromAscii_eq_some_iff {byte : UInt8} {file : File} :
    File.fromAscii byte = some file ↔ file.fmt.toUTF8.data.toList = [byte] ∨
      file.fmt.capitalize.toUTF8.data.toList = [byte] := by
  constructor
  · unfold File.fromAscii
    split
    all_goals
      intro h
      cases h <;> decide
  · rintro (h | h)
    all_goals
      cases file
      all_goals
        obtain rfl := List.singleton_inj.1 h
        rfl

theorem Rank.fromAscii_eq_some_iff {byte : UInt8} {rank : Rank} :
    Rank.fromAscii byte = some rank ↔ rank.fmt.toUTF8.data.toList = [byte] := by
  constructor
  · unfold Rank.fromAscii
    split
    all_goals
      intro h
      cases h <;> rfl
  · intro h
    cases rank
    all_goals
      obtain rfl := List.singleton_inj.1 h
      rfl

namespace Square

theorem capitalize_fmt (square : Square) :
    square.fmt.capitalize = square.file.fmt.capitalize ++ square.rank.fmt := by
  unfold fmt
  generalize square.file = file
  generalize square.rank = rank
  cases file <;> cases rank <;> decide

theorem fromStr_of_bytes {value : String} {file : File} {rank : Rank} {fileByte rankByte : UInt8}
    (hvalue : value.toUTF8.data.toList = [fileByte, rankByte])
    (hfile : File.fromAscii fileByte = some file) (hrank : Rank.fromAscii rankByte = some rank) :
    fromStr value = .ok (Square.new file rank) := by
  simp only [fromStr, hvalue, hfile, hrank]
  rfl

theorem fromStr_eq_ok_iff {value : String} {square : Square} :
    fromStr value = .ok square ↔ value = square.fmt ∨ value = square.fmt.capitalize := by
  constructor
  · intro h
    unfold fromStr at h
    split at h
    · next fileByte rankByte hvalue =>
        cases hfile : File.fromAscii fileByte with
        | none =>
            rw [hfile] at h
            cases h
        | some file =>
            cases hrank : Rank.fromAscii rankByte with
            | none =>
                rw [hfile, hrank] at h
                cases h
            | some rank =>
                rw [hfile, hrank] at h
                obtain rfl : Square.new file rank = square := Except.ok.inj h
                have hrank := Rank.fromAscii_eq_some_iff.1 hrank
                rw [capitalize_fmt, fmt, file_new, rank_new, ← bytes_inj, ← bytes_inj, bytes_append,
                  bytes_append, hrank, hvalue]
                refine (File.fromAscii_eq_some_iff.1 hfile).imp (fun hfile => ?_) fun hfile => ?_
                all_goals
                  rw [hfile]
                  rfl
    · cases h
  · obtain ⟨fileByte, hfile⟩ : ∃ byte, square.file.fmt.toUTF8.data.toList = [byte] := by
      cases square.file <;> exact ⟨_, rfl⟩
    obtain ⟨capital, hcapital⟩ : ∃ byte,
        square.file.fmt.capitalize.toUTF8.data.toList = [byte] := by
      cases square.file <;> exact ⟨_, rfl⟩
    obtain ⟨rankByte, hrank⟩ : ∃ byte, square.rank.fmt.toUTF8.data.toList = [byte] := by
      cases square.rank <;> exact ⟨_, rfl⟩
    rintro (rfl | rfl)
    · rw [← new_file_rank square]
      refine fromStr_of_bytes ?_ (File.fromAscii_eq_some_iff.2 (.inl hfile))
        (Rank.fromAscii_eq_some_iff.2 hrank)
      rw [new_file_rank, fmt, bytes_append, hfile, hrank]
      rfl
    · rw [← new_file_rank square]
      refine fromStr_of_bytes ?_ (File.fromAscii_eq_some_iff.2 (.inr hcapital))
        (Rank.fromAscii_eq_some_iff.2 hrank)
      rw [new_file_rank, capitalize_fmt, bytes_append, hcapital, hrank]
      rfl

/-- What a square, its coordinates and its notation have to do with each other. -/
structure Notated (square : Square) : Prop where
  /-- Exactly two texts denote the square: what it prints, and that with a capital letter. -/
  parsed : ∀ value, fromStr value = .ok square ↔
    value = square.fmt ∨ value = square.fmt.capitalize
  /-- No other square prints the same. -/
  printed : ∀ other : Square, other.fmt = square.fmt → other = square
  /-- It has one file and one rank, and they are at its index. -/
  placed : ∀ file rank, Square.new file rank = square ↔ square.file = file ∧ square.rank = rank
  indexed : ∀ index, fromIndex index = some square ↔
    index = square.rank.index * boardWidth + square.file.index

/-- **Squares and their notation are the same thing.** -/
theorem notated (square : Square) : Notated square := by
  refine ⟨fun value => fromStr_eq_ok_iff, ?_, ?_, ?_⟩
  · intro other hfmt
    have hother : fromStr other.fmt = .ok other := fromStr_eq_ok_iff.2 (.inl rfl)
    rw [hfmt, fromStr_eq_ok_iff.2 (.inl rfl)] at hother
    exact (Except.ok.inj hother).symm
  · intro file rank
    constructor
    · rintro rfl
      exact ⟨file_new file rank, rank_new file rank⟩
    · rintro ⟨rfl, rfl⟩
      exact new_file_rank square
  · intro index
    rw [fromIndex_eq_some_iff, index_file, index_rank]
    show square.value.val = index ↔
      index = square.value / boardWidth * boardWidth + square.value % boardWidth
    rw [Nat.div_add_mod']
    exact eq_comm

end Square

end ChessnutMove
