import Mathlib.Data.List.Basic

set_option autoImplicit false

/-! # A channel that keeps its latest value

A sender replaces the value, a receiver reads it whenever it likes and waits for it to be replaced.
Values that were replaced before a receiver looked are never seen by it. `Keeps` relates the channel
to the history of its values, and `Follows` says what a receiver has been told of that history. -/

variable {α : Type}

/-- The channel after `version` replacements of its first value. -/
structure Watch (α : Type) where
  value : α
  version : Nat
  closed : Bool

namespace Watch

def new (a : α) : Watch α := ⟨a, 0, false⟩

/-- Replaces the value, also when nobody listens. -/
def sendReplace (c : Watch α) (a : α) : Watch α := { c with value := a, version := c.version + 1 }

def close (c : Watch α) : Watch α := { c with closed := true }

/-- The values of the channel up to now, oldest first. -/
structure Keeps (c : Watch α) (history : List α) : Prop where
  length_eq : history.length = c.version + 1
  getElem?_version : history[c.version]? = some c.value

theorem keeps_new (a : α) : (new a).Keeps [a] := ⟨rfl, rfl⟩

theorem Keeps.close {c : Watch α} {history : List α} (h : c.Keeps history) :
    c.close.Keeps history := ⟨h.length_eq, h.getElem?_version⟩

theorem Keeps.sendReplace {c : Watch α} {history : List α} (h : c.Keeps history) (a : α) :
    (c.sendReplace a).Keeps (history ++ [a]) := by
  refine ⟨?_, ?_⟩
  · rw [List.length_append, h.length_eq]
    rfl
  · rw [show (c.sendReplace a).version = history.length from h.length_eq.symm,
      List.getElem?_concat_length]
    rfl

/-- Replacing the value again and again. -/
theorem Keeps.foldl_sendReplace {c : Watch α} {history : List α} (h : c.Keeps history)
    (more : List α) : (more.foldl Watch.sendReplace c).Keeps (history ++ more) := by
  induction more generalizing c history with
  | nil => rwa [List.append_nil]
  | cons a more ih =>
      rw [List.foldl_cons, List.append_cons]
      exact ih (h.sendReplace a)

@[simp] theorem closed_foldl_sendReplace (c : Watch α) (more : List α) :
    (more.foldl Watch.sendReplace c).closed = c.closed := by
  induction more generalizing c with
  | nil => rfl
  | cons a more ih => rw [List.foldl_cons, ih, sendReplace]

/-! ## Receivers -/

/-- What a receiver is told. -/
inductive Told (α : Type)
  /-- `changed` returned `Ok`. -/
  | changed
  /-- `changed` returned an error: the sender is gone. -/
  | closed
  /-- The value was borrowed. -/
  | value (a : α)
  deriving DecidableEq

def Told.value? : Told α → Option α
  | .value a => some a
  | _ => none

def Told.isChanged : Told α → Bool
  | .changed => true
  | _ => false

structure Receiver (α : Type) where
  /-- The latest version it has marked as seen. -/
  seen : Nat
  /-- What it was told, oldest first. -/
  told : List (Told α)
  deriving DecidableEq

namespace Receiver

/-- The values it has read. -/
def values (r : Receiver α) : List α := r.told.filterMap Told.value?

/-- How often `changed` returned `Ok`. -/
def wakes (r : Receiver α) : Nat := r.told.countP Told.isChanged

/-- `changed`; `none` while the value is seen and the sender there. -/
def changed (r : Receiver α) (c : Watch α) : Option (Receiver α) :=
  if r.seen ≠ c.version then some ⟨c.version, r.told ++ [.changed]⟩
  else if c.closed then some { r with told := r.told ++ [.closed] }
  else none

theorem changed_eq_none_iff {r : Receiver α} {c : Watch α} :
    r.changed c = none ↔ r.seen = c.version ∧ c.closed = false := by
  unfold changed
  split
  · next hnew => simp [hnew]
  · next hseen =>
      split
      · next hclosed => simp [hclosed]
      · next hopen => simp [not_not.1 hseen, hopen]

/-- `borrow`. -/
def borrow (r : Receiver α) (c : Watch α) : Receiver α :=
  { r with told := r.told ++ [.value c.value] }

/-- `borrow_and_update`. -/
def borrowAndUpdate (r : Receiver α) (c : Watch α) : Receiver α :=
  ⟨c.version, r.told ++ [.value c.value]⟩

end Receiver

/-- What a receiver was told, of a channel with this history. -/
structure Follows (c : Watch α) (history : List α) (r : Receiver α) : Prop where
  seen_le : r.seen ≤ c.version
  /-- Each `Ok` of `changed` stands for a replacement it had not seen. -/
  wakes_le : r.wakes ≤ r.seen
  /-- The values it read stand in the history, and no read is of an older value than the one
      before. -/
  values : ∃ positions : List Nat, positions.Pairwise (· ≤ ·) ∧ (∀ p ∈ positions, p ≤ c.version) ∧
    r.values.map some = positions.map (history[·]?)
  closed : .closed ∈ r.told → c.closed = true ∧ r.seen = c.version

section Follows

variable {c : Watch α} {history : List α} {r r' : Receiver α}

theorem follows_new (c : Watch α) (history : List α) : c.Follows history ⟨0, []⟩ :=
  ⟨Nat.zero_le _, Nat.le_refl 0, ⟨[], List.Pairwise.nil, by simp, rfl⟩, by simp⟩

/-- What happens to the channel does not touch what a receiver was told. -/
theorem Follows.grow (h : c.Follows history r) {c' : Watch α} {more : List α}
    (hkeeps : c.Keeps history) (hkeeps' : c'.Keeps (history ++ more))
    (hclosed : c.closed = true → c'.closed = true ∧ more = []) :
    c'.Follows (history ++ more) r := by
  have hversion : c'.version = c.version + more.length := by
    have hlength := hkeeps.length_eq
    have hlength' := hkeeps'.length_eq
    rw [List.length_append] at hlength'
    omega
  obtain ⟨positions, hsorted, hbound, hvalues⟩ := h.values
  have hseen := h.seen_le
  refine ⟨by omega, h.wakes_le, ⟨positions, hsorted, ?_, ?_⟩, ?_⟩
  · intro p hp
    have hp := hbound p hp
    omega
  · rw [hvalues]
    refine List.map_congr_left fun p hp => ?_
    have hlt : p < history.length := hkeeps.length_eq ▸ Nat.lt_succ_of_le (hbound p hp)
    rw [List.getElem?_append_left hlt]
  · intro htold
    obtain ⟨hover, hlast⟩ := h.closed htold
    obtain ⟨hover', rfl⟩ := hclosed hover
    exact ⟨hover', hlast.trans hversion.symm⟩

/-- The receiver reads the value. -/
theorem Follows.read (h : c.Follows history r) (hkeeps : c.Keeps history) {seen : Nat}
    (hseen : r.seen ≤ seen) (hle : seen ≤ c.version) :
    c.Follows history ⟨seen, r.told ++ [.value c.value]⟩ := by
  obtain ⟨positions, hsorted, hbound, hvalues⟩ := h.values
  refine ⟨hle, ?_, ⟨positions ++ [c.version], ?_, ?_, ?_⟩, ?_⟩
  · rw [Receiver.wakes, List.countP_append]
    exact Nat.le_trans h.wakes_le hseen
  · rw [List.pairwise_append]
    exact ⟨hsorted, List.pairwise_singleton _ _, by simpa using hbound⟩
  · intro p hp
    rcases List.mem_append.1 hp with hp | hp
    · exact hbound p hp
    · exact Nat.le_of_eq (List.mem_singleton.1 hp)
  · rw [Receiver.values, List.filterMap_append, List.map_append, List.map_append, ← hvalues,
      List.map_singleton, hkeeps.getElem?_version]
    rfl
  · intro hclosed
    have hclosed : .closed ∈ r.told := by simpa using hclosed
    obtain ⟨hover, hlast⟩ := h.closed hclosed
    exact ⟨hover, Nat.le_antisymm hle (hlast ▸ hseen)⟩

theorem Follows.borrow (h : c.Follows history r) (hkeeps : c.Keeps history) :
    c.Follows history (r.borrow c) :=
  h.read hkeeps (Nat.le_refl r.seen) h.seen_le

theorem Follows.borrowAndUpdate (h : c.Follows history r) (hkeeps : c.Keeps history) :
    c.Follows history (r.borrowAndUpdate c) :=
  h.read hkeeps h.seen_le (Nat.le_refl c.version)

theorem Follows.changed (h : c.Follows history r) (hchanged : r.changed c = some r') :
    c.Follows history r' := by
  unfold Receiver.changed at hchanged
  split at hchanged
  · next hnew =>
      obtain rfl := Option.some.inj hchanged
      have hlt : r.seen < c.version := Nat.lt_of_le_of_ne h.seen_le hnew
      refine ⟨Nat.le_refl _, ?_, ?_, ?_⟩
      · rw [Receiver.wakes, List.countP_append]
        exact Nat.le_trans (Nat.succ_le_succ h.wakes_le) hlt
      · obtain ⟨positions, hsorted, hbound, hvalues⟩ := h.values
        refine ⟨positions, hsorted, hbound, ?_⟩
        rw [← hvalues, Receiver.values, List.filterMap_append]
        simp [Receiver.values, Told.value?]
      · intro hclosed
        have hclosed : .closed ∈ r.told := by simpa using hclosed
        exact absurd (h.closed hclosed).2 hnew
  · next hseen =>
      split at hchanged
      · next hclosed =>
          obtain rfl := Option.some.inj hchanged
          refine ⟨h.seen_le, ?_, ?_, fun _ => ⟨hclosed, not_not.1 hseen⟩⟩
          · rw [Receiver.wakes, List.countP_append]
            exact h.wakes_le
          · obtain ⟨positions, hsorted, hbound, hvalues⟩ := h.values
            refine ⟨positions, hsorted, hbound, ?_⟩
            rw [← hvalues, Receiver.values, List.filterMap_append]
            simp [Receiver.values, Told.value?]
      · cases hchanged

/-! ## What was read -/

theorem Follows.mem_history (h : c.Follows history r) {a : α} (hmem : a ∈ r.values) :
    a ∈ history := by
  obtain ⟨positions, -, -, hvalues⟩ := h.values
  have hsome : some a ∈ r.values.map some := List.mem_map_of_mem hmem
  rw [hvalues] at hsome
  obtain ⟨p, -, hp⟩ := List.mem_map.1 hsome
  exact List.mem_of_getElem? hp

/-- The values read are in order if the history is. -/
theorem Follows.pairwise {R : α → α → Prop} (h : c.Follows history r) (hrefl : ∀ a, R a a)
    (hhistory : history.Pairwise R) : r.values.Pairwise R := by
  obtain ⟨positions, hsorted, -, hvalues⟩ := h.values
  have hsome : (r.values.map some).Pairwise fun x y => ∀ a ∈ x, ∀ b ∈ y, R a b := by
    rw [hvalues, List.pairwise_map]
    refine hsorted.imp ?_
    intro p q hpq a ha b hb
    rcases Nat.eq_or_lt_of_le hpq with rfl | hlt
    · obtain rfl := Option.some.inj (ha.symm.trans hb)
      exact hrefl a
    · obtain ⟨hp, rfl⟩ := List.getElem?_eq_some_iff.1 ha
      obtain ⟨hq, rfl⟩ := List.getElem?_eq_some_iff.1 hb
      exact List.pairwise_iff_getElem.1 hhistory p q hp hq hlt
  rw [List.pairwise_map] at hsome
  exact hsome.imp fun hR => hR _ rfl _ rfl

end Follows

end Watch
