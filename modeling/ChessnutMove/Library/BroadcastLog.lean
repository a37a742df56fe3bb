import Mathlib.Algebra.GroupWithZero.Nat
import Mathlib.Data.List.Basic

set_option autoImplicit false

/-! # A broadcast channel that keeps its last values

A sender appends values and the channel keeps the last `capacity` of them. Every reader has a
position of its own, counted in values sent. A reader whose next value has been discarded is told
how many values it missed and goes on with the oldest one kept.

No state holds the whole history: `Keeps` relates the channel to it, and `Covers` says what the
results a reader got mean for the part of the history that it has passed. -/

variable {α : Type}

/-- The channel after `discarded + kept.length` values. -/
structure BroadcastLog (α : Type) where
  capacity : Nat
  discarded : Nat
  kept : List α
  closed : Bool
  bound : kept.length ≤ capacity

namespace BroadcastLog

/-- What a reader is handed. -/
inductive Received (α : Type)
  | value (a : α)
  | lagged (missed : Nat)
  | closed
  deriving DecidableEq

namespace Received

/-- The value handed over, if any. -/
def value? : Received α → Option α
  | value a => some a
  | _ => none

/-- How many values were passed over. -/
def missed : Received α → Nat
  | lagged missed => missed
  | _ => 0

end Received

/-! ## Sending -/

def new (capacity : Nat) : BroadcastLog α := ⟨capacity, 0, [], false, Nat.zero_le _⟩

theorem length_tail_append_le {c : BroadcastLog α} (a : α) :
    (c.kept ++ [a]).tail.length ≤ c.capacity := by
  rw [List.length_tail, List.length_append]
  exact c.bound

/-- Appends a value and discards the oldest one when there is no room for it. -/
def send (c : BroadcastLog α) (a : α) : BroadcastLog α :=
  if h : (c.kept ++ [a]).length ≤ c.capacity then { c with kept := c.kept ++ [a], bound := h }
  else
    { c with
      discarded := c.discarded + 1
      kept := (c.kept ++ [a]).tail
      bound := length_tail_append_le a }

def close (c : BroadcastLog α) : BroadcastLog α := { c with closed := true }

/-- The channel holds the end of a history. -/
structure Keeps (c : BroadcastLog α) (history : List α) : Prop where
  discarded_eq : c.discarded = history.length - c.capacity
  kept_eq : c.kept = history.drop c.discarded

theorem keeps_new (capacity : Nat) : (new capacity : BroadcastLog α).Keeps [] :=
  ⟨(Nat.zero_sub capacity).symm, rfl⟩

theorem Keeps.length_kept {c : BroadcastLog α} {history : List α} (h : c.Keeps history) :
    c.discarded + c.kept.length = history.length := by
  have hdiscarded := h.discarded_eq
  rw [h.kept_eq, List.length_drop]
  omega

theorem Keeps.close {c : BroadcastLog α} {history : List α} (h : c.Keeps history) :
    c.close.Keeps history := ⟨h.discarded_eq, h.kept_eq⟩

theorem Keeps.send {c : BroadcastLog α} {history : List α} (h : c.Keeps history) (a : α) :
    (c.send a).Keeps (history ++ [a]) := by
  have hlength := h.length_kept
  have hdiscarded := h.discarded_eq
  have hdrop : (history ++ [a]).drop c.discarded = c.kept ++ [a] := by
    rw [List.drop_append_of_le_length (by omega), ← h.kept_eq]
  unfold BroadcastLog.send
  split
  · next hroom =>
      rw [List.length_append, List.length_singleton] at hroom
      refine ⟨?_, hdrop.symm⟩
      rw [List.length_append, List.length_singleton]
      show c.discarded = history.length + 1 - c.capacity
      omega
  · next hfull =>
      have hbound := c.bound
      rw [List.length_append, List.length_singleton] at hfull
      refine ⟨?_, ?_⟩
      · rw [List.length_append, List.length_singleton]
        show c.discarded + 1 = history.length + 1 - c.capacity
        omega
      · show (c.kept ++ [a]).tail = (history ++ [a]).drop (c.discarded + 1)
        rw [← hdrop, List.tail_drop]

/-- Sending one value after another. -/
theorem Keeps.foldl_send {c : BroadcastLog α} {history : List α} (h : c.Keeps history)
    (values : List α) : (values.foldl BroadcastLog.send c).Keeps (history ++ values) := by
  induction values generalizing c history with
  | nil => exact (List.append_nil history).symm ▸ h
  | cons a values ih =>
      rw [List.append_cons]
      exact ih (h.send a)

@[simp] theorem capacity_new (n : Nat) : (new n : BroadcastLog α).capacity = n := rfl
@[simp] theorem capacity_close (c : BroadcastLog α) : c.close.capacity = c.capacity := rfl
@[simp] theorem closed_close (c : BroadcastLog α) : c.close.closed = true := rfl

@[simp] theorem capacity_send (c : BroadcastLog α) (a : α) : (c.send a).capacity = c.capacity := by
  unfold send
  split <;> rfl

@[simp] theorem closed_send (c : BroadcastLog α) (a : α) : (c.send a).closed = c.closed := by
  unfold send
  split <;> rfl

theorem foldl_send_capacity (c : BroadcastLog α) (values : List α) :
    (values.foldl send c).capacity = c.capacity := by
  induction values generalizing c with
  | nil => rfl
  | cons a values ih => rw [List.foldl_cons, ih, capacity_send]

theorem foldl_send_closed (c : BroadcastLog α) (values : List α) :
    (values.foldl send c).closed = c.closed := by
  induction values generalizing c with
  | nil => rfl
  | cons a values ih => rw [List.foldl_cons, ih, closed_send]

/-! ## Reading -/

/-- What the reader at a position is handed, and its next position; `none` while it has to wait. -/
def recv (c : BroadcastLog α) (next : Nat) : Option (Received α × Nat) :=
  if next < c.discarded then some (.lagged (c.discarded - next), c.discarded)
  else
    match c.kept[next - c.discarded]? with
    | some a => some (.value a, next + 1)
    | none => if c.closed then some (.closed, next) else none

variable {c : BroadcastLog α} {history : List α} {next : Nat}

/-- The reader lags exactly when more values than the channel keeps were sent behind its position;
    it is told their number, and the oldest value kept is next. -/
theorem Keeps.recv_of_lt (h : c.Keeps history) (hlag : next + c.capacity < history.length) :
    c.recv next
      = some (.lagged (history.length - c.capacity - next), history.length - c.capacity) := by
  have hdiscarded := h.discarded_eq
  unfold recv
  rw [if_pos (by omega), hdiscarded]

/-- Otherwise it is handed the value at its position. -/
theorem Keeps.recv_of_le (h : c.Keeps history) (hnear : history.length ≤ next + c.capacity) {a : α}
    (hget : history[next]? = some a) : c.recv next = some (.value a, next + 1) := by
  have hdiscarded := h.discarded_eq
  unfold recv
  rw [if_neg (by omega), h.kept_eq, List.getElem?_drop, Nat.add_sub_cancel' (by omega), hget]

/-- At the end of the history it waits, or learns that nothing follows. -/
theorem Keeps.recv_end (h : c.Keeps history) :
    c.recv history.length = if c.closed then some (.closed, history.length) else none := by
  have hdiscarded := h.discarded_eq
  unfold recv
  rw [if_neg (by omega), h.kept_eq, List.getElem?_drop, Nat.add_sub_cancel' (by omega),
    List.getElem?_eq_none (Nat.le_refl _)]

/-- **What a read means.** The result accounts for the values between the reader's positions. -/
inductive Reads (c : BroadcastLog α) (history : List α) (next : Nat) : Received α → Nat → Prop
  | lagged (h : next + c.capacity < history.length) :
      Reads c history next (.lagged (history.length - c.capacity - next))
        (history.length - c.capacity)
  | value (a : α) (hnear : history.length ≤ next + c.capacity) (hget : history[next]? = some a) :
      Reads c history next (.value a) (next + 1)
  | closed (hend : next = history.length) (hclosed : c.closed = true) :
      Reads c history next .closed next

theorem Keeps.reads (h : c.Keeps history) {item : Received α}
    {next' : Nat} (hnext : next ≤ history.length) (hrecv : c.recv next = some (item, next')) :
    Reads c history next item next' := by
  by_cases hlag : next + c.capacity < history.length
  · rw [h.recv_of_lt hlag] at hrecv
    cases hrecv
    exact .lagged hlag
  · cases hget : history[next]? with
    | some a =>
        rw [h.recv_of_le (Nat.le_of_not_lt hlag) hget] at hrecv
        cases hrecv
        exact .value a (Nat.le_of_not_lt hlag) hget
    | none =>
        have hend : next = history.length :=
          Nat.le_antisymm hnext (List.getElem?_eq_none_iff.1 hget)
        subst hend
        rw [h.recv_end] at hrecv
        split at hrecv
        · next hclosed =>
            cases hrecv
            exact .closed rfl hclosed
        · cases hrecv

theorem Reads.next_le {item : Received α} {next' : Nat} (h : Reads c history next item next')
    (hnext : next ≤ history.length) : next ≤ next' ∧ next' ≤ history.length := by
  cases h with
  | lagged hlag => omega
  | value a _ hget => exact ⟨Nat.le_succ next, (List.getElem?_eq_some_iff.1 hget).1⟩
  | closed => exact ⟨Nat.le_refl next, hnext⟩

/-! ## What a reader has passed -/

/-- The results of a reader, with the gaps of its lag notices filled in, are a piece of history. -/
inductive Covers : List (Received α) → List α → Prop
  | nil : Covers [] []
  | value {items : List (Received α)} {passed : List α} (h : Covers items passed) (a : α) :
      Covers (items ++ [.value a]) (passed ++ [a])
  | lagged {items : List (Received α)} {passed : List α} (h : Covers items passed) (gap : List α) :
      Covers (items ++ [.lagged gap.length]) (passed ++ gap)
  | closed {items : List (Received α)} {passed : List α} (h : Covers items passed) :
      Covers (items ++ [.closed]) passed

namespace Covers

variable {items : List (Received α)} {passed : List α}

/-- Values are handed over in order, each once. -/
theorem sublist (h : Covers items passed) : (items.filterMap Received.value?).Sublist passed := by
  induction h with
  | nil => exact List.Sublist.refl _
  | value h a ih =>
      rw [List.filterMap_append]
      exact ih.append (List.Sublist.refl [a])
  | lagged h gap ih =>
      rw [List.filterMap_append]
      exact ih.append (List.nil_sublist gap)
  | closed h ih =>
      rw [List.filterMap_append]
      exact (List.append_nil _).symm ▸ ih

/-- What was not handed over was announced as missed. -/
theorem length_eq (h : Covers items passed) :
    (items.filterMap Received.value?).length + (items.map Received.missed).sum = passed.length := by
  induction h with
  | nil => rfl
  | value h a ih =>
      simp only [List.filterMap_append, List.map_append, List.length_append, List.sum_append, ← ih,
        List.filterMap_cons, Received.value?, Received.missed, List.map_cons, List.map_nil]
      simp only [List.filterMap_nil, List.length_singleton, List.sum_cons, List.sum_nil]
      omega
  | lagged h gap ih =>
      simp only [List.filterMap_append, List.map_append, List.length_append, List.sum_append, ← ih,
        List.filterMap_cons, Received.value?, Received.missed, List.map_cons, List.map_nil]
      simp only [List.filterMap_nil, List.length_nil, List.sum_cons, List.sum_nil]
      omega
  | closed h ih =>
      simp only [List.filterMap_append, List.map_append, List.length_append, List.sum_append, ← ih,
        List.filterMap_cons, Received.value?, Received.missed, List.map_cons, List.map_nil]
      rfl

/-- A reader that missed nothing was handed everything. -/
theorem eq_of_missed_eq_zero (h : Covers items passed)
    (hmissed : (items.map Received.missed).sum = 0) : items.filterMap Received.value? = passed :=
  h.sublist.eq_of_length (by have hlength := h.length_eq; omega)

/-- One more read carries the account on. -/
theorem step {start next' : Nat} {item : Received α}
    (h : Covers items ((history.take next).drop start)) (hstart : start ≤ next)
    (hnext : next ≤ history.length) (hread : c.Reads history next item next') :
    Covers (items ++ [item]) ((history.take next').drop start) := by
  have hlength : (history.take next).length = next := List.length_take_of_le hnext
  cases hread with
  | lagged hlag =>
      have hsplit : (history.take (history.length - c.capacity)).drop start
          = (history.take next).drop start
            ++ (history.drop next).take (history.length - c.capacity - next) := by
        have htake : history.take (history.length - c.capacity) = history.take next
            ++ (history.drop next).take (history.length - c.capacity - next) := by
          rw [← List.take_add, Nat.add_sub_cancel' (by omega)]
        rw [htake, List.drop_append_of_le_length (hlength.symm ▸ hstart)]
      have hgap : ((history.drop next).take (history.length - c.capacity - next)).length
          = history.length - c.capacity - next := by
        rw [List.length_take, List.length_drop]
        omega
      have hcovers := h.lagged ((history.drop next).take (history.length - c.capacity - next))
      rw [hgap] at hcovers
      rw [hsplit]
      exact hcovers
  | value a _ hget =>
      rw [List.take_add_one, hget, Option.toList_some,
        List.drop_append_of_le_length (hlength.symm ▸ hstart)]
      exact h.value a
  | closed => exact h.closed

end Covers

end BroadcastLog
