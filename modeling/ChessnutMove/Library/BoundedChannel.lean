import Mathlib.Data.List.Basic

set_option autoImplicit false

/-! # A bounded channel with many senders and one receiver

First in, first out. A sender first reserves a place and pushes its value later; the values that
wait and the places reserved are at most `capacity`. Once the receiver closed the channel no place
is reserved any more, but one reserved before can still be used. The receiver learns that every
sender is gone only once the queue is empty. -/

/-- The state of the channel as its receiver sees it. -/
structure BoundedChannel (α : Type) where
  capacity : Nat
  queue : List α
  /-- The places that are reserved and not used yet. -/
  reserved : Nat
  senders : Nat
  closed : Bool
  bound : queue.length + reserved ≤ capacity

namespace BoundedChannel

variable {α : Type}

/-- A fresh channel with one sender. -/
def new (capacity : Nat) : BoundedChannel α := ⟨capacity, [], 0, 1, false, Nat.zero_le _⟩

/-- A sender is given a place. -/
def CanReserve (c : BoundedChannel α) : Prop :=
  c.closed = false ∧ 0 < c.senders ∧ c.queue.length + c.reserved < c.capacity

instance (c : BoundedChannel α) : Decidable c.CanReserve :=
  inferInstanceAs (Decidable (_ ∧ _ ∧ _))

/-- Reserves a place. -/
def reserve (c : BoundedChannel α) (h : c.CanReserve) : BoundedChannel α :=
  { c with
    reserved := c.reserved + 1
    bound := by
      have hroom := h.2.2
      omega }

/-- A sender holds a place, whether or not the channel has been closed meanwhile. -/
def CanPush (c : BoundedChannel α) : Prop := 0 < c.senders ∧ 0 < c.reserved

instance (c : BoundedChannel α) : Decidable c.CanPush :=
  inferInstanceAs (Decidable (_ ∧ _))

/-- Puts a value in a reserved place. -/
def push (c : BoundedChannel α) (a : α) (h : c.CanPush) : BoundedChannel α :=
  { c with
    queue := c.queue ++ [a]
    reserved := c.reserved - 1
    bound := by
      have hbound := c.bound
      have hreserved := h.2
      simp only [List.length_append, List.length_singleton]
      omega }

/-- Drops the oldest value. -/
def pop (c : BoundedChannel α) : BoundedChannel α :=
  { c with
    queue := c.queue.tail
    bound := by
      have hb := c.bound
      simp only [List.length_tail]
      omega }

/-- Drops every waiting value. -/
def drained (c : BoundedChannel α) : BoundedChannel α :=
  { c with
    queue := []
    bound := by
      have hbound := c.bound
      simp only [List.length_nil]
      omega }

/-- The receiver lets no sender reserve a place from here on. -/
def close (c : BoundedChannel α) : BoundedChannel α := { c with closed := true }

/-- One more sender, cloned from an existing one. -/
def cloneSender (c : BoundedChannel α) : BoundedChannel α := { c with senders := c.senders + 1 }

/-- One sender less. -/
def dropSender (c : BoundedChannel α) : BoundedChannel α := { c with senders := c.senders - 1 }

@[simp] theorem queue_new (capacity : Nat) : (new capacity : BoundedChannel α).queue = [] := rfl
@[simp] theorem reserved_new (capacity : Nat) : (new capacity : BoundedChannel α).reserved = 0 :=
  rfl
@[simp] theorem closed_new (capacity : Nat) : (new capacity : BoundedChannel α).closed = false :=
  rfl

section Fields

variable (c : BoundedChannel α) (a : α) (hreserve : c.CanReserve) (hpush : c.CanPush)

@[simp] theorem queue_reserve : (c.reserve hreserve).queue = c.queue := rfl
@[simp] theorem reserved_reserve : (c.reserve hreserve).reserved = c.reserved + 1 := rfl
@[simp] theorem closed_reserve : (c.reserve hreserve).closed = c.closed := rfl
@[simp] theorem queue_push : (c.push a hpush).queue = c.queue ++ [a] := rfl
@[simp] theorem reserved_push : (c.push a hpush).reserved = c.reserved - 1 := rfl
@[simp] theorem closed_push : (c.push a hpush).closed = c.closed := rfl
@[simp] theorem queue_pop : c.pop.queue = c.queue.tail := rfl
@[simp] theorem reserved_pop : c.pop.reserved = c.reserved := rfl
@[simp] theorem closed_pop : c.pop.closed = c.closed := rfl
@[simp] theorem queue_drained : c.drained.queue = [] := rfl
@[simp] theorem reserved_drained : c.drained.reserved = c.reserved := rfl
@[simp] theorem closed_drained : c.drained.closed = c.closed := rfl
@[simp] theorem queue_close : c.close.queue = c.queue := rfl
@[simp] theorem reserved_close : c.close.reserved = c.reserved := rfl
@[simp] theorem closed_close : c.close.closed = true := rfl
@[simp] theorem queue_cloneSender : c.cloneSender.queue = c.queue := rfl
@[simp] theorem reserved_cloneSender : c.cloneSender.reserved = c.reserved := rfl
@[simp] theorem closed_cloneSender : c.cloneSender.closed = c.closed := rfl
@[simp] theorem queue_dropSender : c.dropSender.queue = c.queue := rfl
@[simp] theorem reserved_dropSender : c.dropSender.reserved = c.reserved := rfl
@[simp] theorem closed_dropSender : c.dropSender.closed = c.closed := rfl

end Fields

end BoundedChannel
