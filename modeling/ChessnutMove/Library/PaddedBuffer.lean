import Mathlib.Data.Fintype.Basic
import Mathlib.Data.List.FinRange

set_option autoImplicit false

/-! # Values in a buffer of fixed capacity

`Pads filler cells values` says that the cells of a buffer start with the values and hold the filler
from there on. The cells alone forget how many values there are: the same cells hold two lists
exactly when one of them is the other followed by fillers, and `Pads.eq_iff` says that the cells
together with the length determine the values. `pads_foldl_set` is the loop that copies an array
into a buffer of fillers, and `foldl_finRange_invariant` the rule for loops over the indexes of an
array in order that it is proved with. -/

namespace PaddedBuffer

variable {α : Type} {capacity : Nat}

/-- The cells start with the values and hold the filler from there on. -/
def Pads (filler : α) (cells : Vector α capacity) (values : List α) : Prop :=
  cells.toList = values ++ List.replicate (capacity - values.length) filler

namespace Pads

section OneBuffer

variable {filler : α} {cells : Vector α capacity} {values : List α}

theorem length_le (h : Pads filler cells values) : values.length ≤ capacity := by
  have hlength := congrArg List.length h
  rw [Vector.length_toList, List.length_append, List.length_replicate] at hlength
  omega

/-- The values are read back by their number. -/
theorem take_eq (h : Pads filler cells values) : cells.toList.take values.length = values := by
  rw [h, List.take_left]

theorem drop_eq (h : Pads filler cells values) :
    cells.toList.drop values.length = List.replicate (capacity - values.length) filler := by
  rw [h, List.drop_left]

/-- Behind the values there is nothing but fillers. -/
theorem getElem_eq (h : Pads filler cells values) {j : Nat} (hj : j < capacity)
    (hle : values.length ≤ j) : cells[j] = filler := by
  have hmem : cells[j] ∈ cells.toList.drop values.length := by
    refine List.mem_iff_getElem.2 ⟨j - values.length, ?_, ?_⟩
    · rw [List.length_drop, Vector.length_toList]
      omega
    · rw [List.getElem_drop, Vector.getElem_toList]
      congr 1
      omega
  rw [h.drop_eq] at hmem
  exact List.eq_of_mem_replicate hmem

/-- The next value is stored in the first cell behind the values. -/
theorem set_next (h : Pads filler cells values) (a : α) {i : Nat} (hi : i < capacity)
    (hlength : values.length = i) : Pads filler (cells.set i a) (values ++ [a]) := by
  subst hlength
  have hroom : capacity - values.length = (capacity - (values ++ [a]).length) + 1 := by
    rw [List.length_append, List.length_singleton]
    omega
  unfold Pads
  rw [Vector.toList_set, h, List.set_append_right _ _ (Nat.le_refl _), Nat.sub_self, hroom,
    List.replicate_succ, List.set_cons_zero, List.append_assoc, List.singleton_append]

/-- Fillers behind the values are not told apart from the rest of the buffer. -/
theorem append_replicate (h : Pads filler cells values) {k : Nat}
    (hle : values.length + k ≤ capacity) :
    Pads filler cells (values ++ List.replicate k filler) := by
  have hrest : capacity - values.length
      = k + (capacity - (values ++ List.replicate k filler).length) := by
    rw [List.length_append, List.length_replicate]
    omega
  unfold Pads
  rw [h, hrest, ← List.replicate_append_replicate, List.append_assoc]

end OneBuffer

section TwoBuffers

variable {filler : α} {cells cells' : Vector α capacity} {values values' : List α}

/-- The values determine the cells. -/
theorem cells_eq (h : Pads filler cells values) (h' : Pads filler cells' values) :
    cells = cells' :=
  Vector.toList_inj.1 (h.trans h'.symm)

/-- **The cells and the length determine the values.** -/
theorem eq_iff (h : Pads filler cells values) (h' : Pads filler cells' values') :
    values = values' ↔ cells = cells' ∧ values.length = values'.length := by
  constructor
  · rintro rfl
    exact ⟨h.cells_eq h', rfl⟩
  · rintro ⟨rfl, hlength⟩
    rw [← h.take_eq, ← h'.take_eq, hlength]

/-- **What the cells alone forget.** The same cells hold a second, no shorter list exactly if it is
    the first one followed by fillers. -/
theorem cells_eq_iff (h : Pads filler cells values) (h' : Pads filler cells' values')
    (hle : values.length ≤ values'.length) :
    cells = cells' ↔
      values' = values ++ List.replicate (values'.length - values.length) filler := by
  have hroom : values.length + (values'.length - values.length) ≤ capacity := by
    have hle' := h'.length_le
    omega
  have hpadded := h.append_replicate hroom
  have hlength : (values ++ List.replicate (values'.length - values.length) filler).length
      = values'.length := by
    rw [List.length_append, List.length_replicate]
    omega
  rw [eq_comm (b := _ ++ _), hpadded.eq_iff h', and_iff_left hlength]

end TwoBuffers

end Pads

theorem pads_replicate (filler : α) : Pads filler (Vector.replicate capacity filler) [] := by
  unfold Pads
  rw [Vector.toList_replicate, List.nil_append, List.length_nil, Nat.sub_zero]

/-! ## Copying into a buffer -/

/-- A loop over the indexes of an array in order keeps an invariant that counts its iterations. -/
theorem foldl_finRange_invariant {β : Type} {n : Nat} (P : Nat → β → Prop) {body : β → Fin n → β}
    {b : β} (start : P 0 b) (step : ∀ i b, P i.val b → P (i.val + 1) (body b i)) :
    P n ((List.finRange n).foldl body b) := by
  induction n with
  | zero => exact start
  | succ n ih =>
      rw [List.finRange_succ_last, List.foldl_append, List.foldl_map, List.foldl_cons,
        List.foldl_nil]
      exact step (Fin.last n) _ (ih fun i b hi => step i.castSucc b hi)

section Copy

variable {n : Nat} (filler : α) (input : Vector α n)

/-- One iteration: the cells hold one more of the values of the array. -/
theorem Pads.set_take {cells : Vector α capacity} (i : Fin n) (hi : i.val < capacity)
    (h : Pads filler cells (input.toList.take i)) :
    Pads filler (cells.set i (input.get i)) (input.toList.take (i.val + 1)) := by
  have hlt : i.val < input.toList.length := by
    rw [Vector.length_toList]
    exact i.isLt
  have hnext : input.toList.take (i.val + 1) = input.toList.take i ++ [input.get i] := by
    rw [List.take_succ_eq_append_getElem hlt, Vector.getElem_toList]
    rfl
  rw [hnext]
  exact h.set_next (input.get i) hi (List.length_take_of_le (Nat.le_of_lt hlt))

/-- **The copy loop.** A buffer of fillers that an array was copied into cell by cell holds the
    array. -/
theorem pads_foldl_set (h : n ≤ capacity) :
    Pads filler
      ((List.finRange n).foldl
        (fun cells (index : Fin n) =>
          cells.set index (input.get index) (Nat.lt_of_lt_of_le index.isLt h))
        (Vector.replicate capacity filler))
      input.toList := by
  -- After `copied` iterations the buffer holds the first `copied` values.
  have hloop := foldl_finRange_invariant
    (fun copied cells => Pads filler cells (input.toList.take copied)) (pads_replicate filler)
    fun i cells => Pads.set_take filler input i (Nat.lt_of_lt_of_le i.isLt h)
  rwa [List.take_of_length_le (Nat.le_of_eq Vector.length_toList)] at hloop

end Copy

end PaddedBuffer
