import ChessnutMove.Library.Codec

set_option autoImplicit false

/-! # The first of many faults

A decoder that leaves at its first error says little about the input by itself: the error depends
on the order of its checks. `Reports x faults` describes such a computation by the list of all
faults in the order of the checks; it fails with the first of them, and succeeds if there is none.
The rules follow the computation: a sequence of checks has the faults of its checks one after the
other, a loop those of its rounds. -/

namespace FirstFault

variable {ε ε' α β γ : Type}

/-- The computation fails with the first of these faults, if there is any. -/
def Reports (x : Except ε α) (faults : List ε) : Prop :=
  ∀ error, x = .error error ↔ faults.head? = some error

/-- What a check finds. -/
def fault (holds : Prop) [Decidable holds] (error : ε) : List ε := if holds then [] else [error]

theorem map_fault (f : ε → ε') (holds : Prop) [Decidable holds] (error : ε) :
    (fault holds error).map f = fault holds (f error) := by
  unfold fault
  split <;> rfl

section Reports

variable {x : Except ε α} {faults more : List ε}

theorem reports_ok (a : α) : Reports (.ok a : Except ε α) [] := by
  intro error
  simp

theorem reports_error (error : ε) (more : List ε) :
    Reports (.error error : Except ε α) (error :: more) := by
  intro error'
  simp

/-- A check that ends the computation or lets it go on. -/
theorem reports_fault {holds : Prop} [Decidable holds] {error : ε} (hok : holds → ∃ a, x = .ok a)
    (herror : ¬ holds → x = .error error) : Reports x (fault holds error) := by
  unfold fault
  split
  · next h =>
      obtain ⟨a, rfl⟩ := hok h
      exact reports_ok a
  · next h =>
      rw [herror h]
      exact reports_error error []

theorem Reports.isOk_iff (h : Reports x faults) : x.isOk = true ↔ faults = [] := by
  cases x with
  | ok a =>
      refine iff_of_true rfl (List.head?_eq_none_iff.1 ?_)
      refine Option.eq_none_iff_forall_ne_some.2 fun error herror => ?_
      cases (h error).2 herror
  | error error =>
      refine iff_of_false Bool.false_ne_true fun hnil => ?_
      have hhead := (h error).1 rfl
      rw [hnil] at hhead
      cases hhead

/-- The checks of a sequence, one after the other. -/
theorem Reports.bind {f : α → Except ε β} (h : Reports x faults)
    (hf : ∀ a, x = .ok a → Reports (f a) more) : Reports (x >>= f) (faults ++ more) := by
  intro error
  rw [List.head?_append]
  cases x with
  | ok a =>
      rw [h.isOk_iff.1 rfl]
      exact hf a rfl error
  | error error' =>
      rw [(h error').1 rfl]
      simp

/-- After a failure it does not matter what else is found. -/
theorem Reports.of_error {error : ε} (hx : x = .error error) (hhead : faults.head? = some error) :
    Reports x faults := by
  intro error'
  rw [hx, hhead]
  simp

theorem Reports.map (h : Reports x faults) (f : α → β) : Reports (x.map f) faults := by
  intro error
  rw [Except.map_eq_error_iff]
  exact h error

theorem Reports.mapError (h : Reports x faults) (f : ε → ε') :
    Reports (x.mapError f) (faults.map f) := by
  intro error
  rw [Except.mapError_eq_error_iff, List.head?_map, Option.map_eq_some_iff]
  exact exists_congr fun error' => and_congr_left fun _ => h error'

/-- The faults of a loop are those of its rounds. -/
theorem reports_foldlM {f : β → α → Except ε β} {found : α → List ε}
    (h : ∀ b a, Reports (f b a) (found a)) (b : β) (as : List α) :
    Reports (as.foldlM f b) (as.flatMap found) := by
  induction as generalizing b with
  | nil => exact reports_ok b
  | cons a as ih =>
      rw [List.foldlM_cons, List.flatMap_cons]
      exact (h b a).bind fun b' _ => ih b'

end Reports

end FirstFault
