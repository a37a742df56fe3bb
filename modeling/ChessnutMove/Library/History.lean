import Mathlib.Data.List.Basic

set_option autoImplicit false

/-! # What held when each entry of a log was written

`AtEach P log` says of every entry of a log that `P` holds of the log before it and the entry. A log
that only grows keeps what has been established, so a step proves it of the entries it appends. -/

variable {α : Type}

/-- `P` holds of every entry and what precedes it. -/
def AtEach (P : List α → α → Prop) (log : List α) : Prop :=
  ∀ before a after, log = before ++ a :: after → P before a

@[simp] theorem atEach_nil {P : List α → α → Prop} : AtEach P [] := by
  intro before a after h
  simp at h

@[simp] theorem atEach_cons {P : List α → α → Prop} {a : α} {log : List α} :
    AtEach P (a :: log) ↔ P [] a ∧ AtEach (fun before => P (a :: before)) log := by
  constructor
  · intro h
    refine ⟨h [] a log rfl, ?_⟩
    intro before b after heq
    exact h (a :: before) b after (heq ▸ rfl)
  · intro ⟨hfirst, hrest⟩ before b after heq
    cases before with
    | nil =>
        obtain ⟨rfl, -⟩ := List.cons.inj heq
        exact hfirst
    | cons c before =>
        obtain ⟨rfl, htail⟩ := List.cons.inj heq
        exact hrest before b after htail

theorem atEach_append {P : List α → α → Prop} {log log' : List α} :
    AtEach P (log ++ log') ↔ AtEach P log ∧ AtEach (fun before => P (log ++ before)) log' := by
  induction log generalizing P with
  | nil => simp
  | cons a log ih =>
      rw [List.cons_append, atEach_cons, ih, atEach_cons, and_assoc]
      rfl

/-- The entries of a kind are told apart by how many of the kind precede them. -/
theorem eq_of_countP_eq {p : α → Bool} {before before' after after' : List α} {a a' : α}
    (h : before ++ a :: after = before' ++ a' :: after') (ha : p a = true) (ha' : p a' = true)
    (hcount : before.countP p = before'.countP p) :
    before = before' ∧ a = a' ∧ after = after' := by
  rcases List.append_eq_append_iff.1 h with ⟨between, rfl, heq⟩ | ⟨between, rfl, heq⟩
  all_goals
    cases between with
    | nil =>
        obtain ⟨rfl, rfl⟩ := List.cons.inj heq
        exact ⟨by simp, rfl, rfl⟩
    | cons b between =>
        obtain ⟨rfl, -⟩ := List.cons.inj heq
        simp only [List.countP_append, List.countP_cons, ha, ha', if_true] at hcount
        omega
