import Mathlib.Algebra.GroupWithZero.Nat
import Mathlib.Data.List.Basic

set_option autoImplicit false

/-! # Partial step machines driven by schedules

A machine is a function `step : σ → α → Option σ`: in state `s` the action `a` is either not
enabled (`none`) or leads to exactly one state. All nondeterminism is in the *schedule*, the list
of actions, so a run is a fold and a statement about every run is a statement about every
schedule.

The rules below are what proofs about such machines use: how runs compose, the invariant rule for
reachable states, the step at which a property first became true, the variant rule for steps that
cannot go on forever, and the projection of a machine that wraps another one. -/

namespace StepMachine

variable {σ α τ β : Type}

/-- Runs a schedule; `none` as soon as an action is not enabled. -/
def run (step : σ → α → Option σ) (s : σ) (schedule : List α) : Option σ :=
  schedule.foldlM step s

/-- `s` is reached from some initial state by some schedule. -/
def Reachable (init : σ → Prop) (step : σ → α → Option σ) (s : σ) : Prop :=
  ∃ s₀ schedule, init s₀ ∧ run step s₀ schedule = some s

/-! ## Composition of runs -/

section Runs

variable {step : σ → α → Option σ} {s s' : σ} {a : α} {as bs : List α}

@[simp] theorem run_nil : run step s [] = some s := rfl

theorem run_cons : run step s (a :: as) = (step s a).bind (run step · as) := by
  simp only [run, List.foldlM_cons, Option.bind_eq_bind]

theorem run_append : run step s (as ++ bs) = (run step s as).bind (run step · bs) := by
  simp only [run, List.foldlM_append, Option.bind_eq_bind]

theorem run_cons_eq_some :
    run step s (a :: as) = some s' ↔ ∃ t, step s a = some t ∧ run step t as = some s' := by
  simp only [run_cons, Option.bind_eq_some_iff]

theorem run_append_eq_some :
    run step s (as ++ bs) = some s' ↔ ∃ t, run step s as = some t ∧ run step t bs = some s' := by
  simp only [run_append, Option.bind_eq_some_iff]

/-- A property that every step preserves is preserved by every run. -/
theorem run_preserves {P : σ → Prop} (hstep : ∀ s a s', P s → step s a = some s' → P s')
    (hs : P s) (hrun : run step s as = some s') : P s' := by
  induction as generalizing s with
  | nil =>
      simp only [run_nil, Option.some.injEq] at hrun
      exact hrun ▸ hs
  | cons a as ih =>
      obtain ⟨t, hst, htr⟩ := run_cons_eq_some.1 hrun
      exact ih (hstep s a t hs hst) htr

/-- If `P` fails at the start of a run and holds at its end, some step of the run makes it true. -/
theorem exists_step_of_run {P : σ → Prop} (hs : ¬ P s) (hrun : run step s as = some s')
    (hs' : P s') :
    ∃ as₁ a as₂ t t', as = as₁ ++ a :: as₂ ∧ run step s as₁ = some t ∧ ¬ P t ∧
      step t a = some t' ∧ P t' ∧ run step t' as₂ = some s' := by
  induction as generalizing s with
  | nil =>
      simp only [run_nil, Option.some.injEq] at hrun
      exact absurd (hrun ▸ hs') hs
  | cons a as ih =>
      obtain ⟨t, hst, htr⟩ := run_cons_eq_some.1 hrun
      by_cases ht : P t
      · exact ⟨[], a, as, s, t, rfl, rfl, hs, hst, ht, htr⟩
      · obtain ⟨as₁, b, as₂, u, u', rfl, hru, hu, hstep, hu', hrest⟩ := ih ht htr
        have hrun₁ := run_cons_eq_some.2 ⟨t, hst, hru⟩
        exact ⟨a :: as₁, b, as₂, u, u', rfl, hrun₁, hu, hstep, hu', hrest⟩

/-- **Simulation of runs.** If related states stay related by every step, a run from one is matched
    by a run of the same schedule from the other. -/
theorem run_simulates {R : σ → τ → Prop} {step' : τ → α → Option τ}
    (hstep : ∀ s t a s', R s t → step s a = some s' → ∃ t', step' t a = some t' ∧ R s' t')
    {t : τ} (h : R s t) (hrun : run step s as = some s') :
    ∃ t', run step' t as = some t' ∧ R s' t' := by
  induction as generalizing s t with
  | nil =>
      simp only [run_nil, Option.some.injEq] at hrun
      exact ⟨t, rfl, hrun ▸ h⟩
  | cons a as ih =>
      obtain ⟨u, hst, hrest⟩ := run_cons_eq_some.1 hrun
      obtain ⟨u', hst', hu⟩ := hstep s t a u h hst
      obtain ⟨t', hrun', ht'⟩ := ih hu hrest
      exact ⟨t', run_cons_eq_some.2 ⟨u', hst', hrun'⟩, ht'⟩

/-- Every run from `s` stays in `P` until it enters `Q`, and some run enters `Q`. -/
def PassesThrough (step : σ → α → Option σ) (P Q : σ → Prop) (s : σ) : Prop :=
  (∃ as t, run step s as = some t ∧ Q t) ∧
    ∀ as s', run step s as = some s' →
      P s' ∨ ∃ as₁ as₂ t, as = as₁ ++ as₂ ∧ run step s as₁ = some t ∧ Q t

/-- If every step from `P` stays in `P` or enters `Q`, a run that starts in `P` stays in `P` or
    enters `Q` on its way. -/
theorem run_stays_or_enters {P Q : σ → Prop}
    (hstep : ∀ s a s', P s → step s a = some s' → P s' ∨ Q s') (hs : P s)
    (hrun : run step s as = some s') :
    P s' ∨ ∃ as₁ as₂ t, as = as₁ ++ as₂ ∧ run step s as₁ = some t ∧ Q t := by
  induction as generalizing s with
  | nil =>
      simp only [run_nil, Option.some.injEq] at hrun
      exact .inl (hrun ▸ hs)
  | cons a as ih =>
      obtain ⟨t, hst, htr⟩ := run_cons_eq_some.1 hrun
      rcases hstep s a t hs hst with ht | ht
      · rcases ih ht htr with hstay | ⟨as₁, as₂, u, rfl, hru, hu⟩
        · exact .inl hstay
        · exact .inr ⟨a :: as₁, as₂, u, rfl, run_cons_eq_some.2 ⟨t, hst, hru⟩, hu⟩
      · exact .inr ⟨[a], as, t, rfl, run_cons_eq_some.2 ⟨t, hst, run_nil⟩, ht⟩

theorem PassesThrough.imp {P Q R : σ → Prop} (h : PassesThrough step P Q s)
    (himp : ∀ t, Q t → R t) : PassesThrough step P R s := by
  obtain ⟨⟨as, t, hrun, ht⟩, hall⟩ := h
  refine ⟨⟨as, t, hrun, himp t ht⟩, fun bs s' hbs => ?_⟩
  rcases hall bs s' hbs with hstay | ⟨as₁, as₂, u, rfl, hru, hu⟩
  · exact .inl hstay
  · exact .inr ⟨as₁, as₂, u, rfl, hru, himp u hu⟩

/-- Every action of a run is taken in a state in which `C` allows it. -/
def Along (step : σ → α → Option σ) (C : σ → α → Prop) : σ → List α → Prop
  | _, [] => True
  | s, a :: as => C s a ∧ ∀ t ∈ step s a, Along step C t as

/-- A property that every allowed step preserves is preserved by every run whose steps are
    allowed. -/
theorem run_preserves_along {C : σ → α → Prop} {P : σ → Prop}
    (hstep : ∀ s a s', P s → C s a → step s a = some s' → P s') (hs : P s)
    (hrun : run step s as = some s') (halong : Along step C s as) : P s' := by
  induction as generalizing s with
  | nil =>
      simp only [run_nil, Option.some.injEq] at hrun
      exact hrun ▸ hs
  | cons a as ih =>
      obtain ⟨t, hst, htr⟩ := run_cons_eq_some.1 hrun
      exact ih (hstep s a t hs halong.1 hst) htr (halong.2 t hst)

/-- If what a forbidden step leads to never satisfies `P`, a run that ends in `P` took no such
    step. -/
theorem along_of_run {C : σ → α → Prop} {I P : σ → Prop}
    (hinv : ∀ s a s', I s → step s a = some s' → I s')
    (hback : ∀ s a s', step s a = some s' → P s' → P s)
    (hstep : ∀ s a s', I s → step s a = some s' → P s' → C s a) (hs : I s)
    (hrun : run step s as = some s') (hs' : P s') : P s ∧ Along step C s as := by
  induction as generalizing s with
  | nil =>
      simp only [run_nil, Option.some.injEq] at hrun
      exact ⟨hrun ▸ hs', trivial⟩
  | cons a as ih =>
      obtain ⟨t, hst, htr⟩ := run_cons_eq_some.1 hrun
      obtain ⟨ht, halong⟩ := ih (hinv s a t hs hst) htr
      refine ⟨hback s a t hst ht, hstep s a t hs hst ht, ?_⟩
      intro t' ht'
      exact Option.some.inj (hst.symm.trans ht') ▸ halong

/-- **The amortized variant rule.** If a step increases the variant at most by the demand it makes,
    and a counted step by one less, a run takes at most as many counted steps as the variant and its
    demands say. -/
theorem run_amortized {P : σ → Prop} {counted : α → Bool} {V : σ → Nat} {demand : α → Nat}
    (hstep : ∀ s a s', P s → step s a = some s' →
      P s' ∧ V s' + (if counted a then 1 else 0) ≤ V s + demand a)
    (hs : P s) (hrun : run step s as = some s') :
    P s' ∧ V s' + as.countP counted ≤ V s + (as.map demand).sum := by
  induction as generalizing s with
  | nil =>
      simp only [run_nil, Option.some.injEq] at hrun
      exact hrun ▸ ⟨hs, Nat.le_refl _⟩
  | cons a as ih =>
      obtain ⟨t, hst, htr⟩ := run_cons_eq_some.1 hrun
      obtain ⟨ht, hvariant⟩ := hstep s a t hs hst
      obtain ⟨hs', hrest⟩ := ih ht htr
      refine ⟨hs', ?_⟩
      rw [List.countP_cons, List.map_cons, List.sum_cons]
      omega

/-- **The variant rule.** If no step increases the variant and every counted step decreases it, a
    run takes at most as many counted steps as the variant says. -/
theorem run_variant {P : σ → Prop} {counted : α → Bool} {V : σ → Nat}
    (hstep : ∀ s a s', P s → step s a = some s' →
      P s' ∧ V s' + (if counted a then 1 else 0) ≤ V s)
    (hs : P s) (hrun : run step s as = some s') : P s' ∧ V s' + as.countP counted ≤ V s := by
  have hfree : ∀ s a s', P s → step s a = some s' →
      P s' ∧ V s' + (if counted a then 1 else 0) ≤ V s + (fun _ : α => 0) a := hstep
  obtain ⟨hs', hvariant⟩ := run_amortized hfree hs hrun
  exact ⟨hs', by simpa using hvariant⟩

/-- If every allowed step decreases the variant, a run of allowed steps is no longer than it
    says. -/
theorem run_length_along {C : σ → α → Prop} {P : σ → Prop} {V : σ → Nat}
    (hstep : ∀ s a s', P s → C s a → step s a = some s' → P s' ∧ V s' < V s) (hs : P s)
    (hrun : run step s as = some s') (halong : Along step C s as) : as.length + V s' ≤ V s := by
  induction as generalizing s with
  | nil =>
      simp only [run_nil, Option.some.injEq] at hrun
      subst hrun
      exact Nat.le_of_eq (Nat.zero_add _)
  | cons a as ih =>
      obtain ⟨t, hst, htr⟩ := run_cons_eq_some.1 hrun
      obtain ⟨ht, hless⟩ := hstep s a t hs halong.1 hst
      have hrest := ih ht htr (halong.2 t hst)
      rw [List.length_cons]
      omega

/-- If as long as a state is not done some allowed step decreases the variant, some run of allowed
    steps is done. -/
theorem exists_run_to_done {P done : σ → Prop} {C : σ → α → Prop} {V : σ → Nat}
    (hstep : ∀ s, P s → ¬ done s → ∃ a s', C s a ∧ step s a = some s' ∧ P s' ∧ V s' < V s)
    (hs : P s) : ∃ as s', run step s as = some s' ∧ Along step C s as ∧ done s' := by
  induction hn : V s using Nat.strongRecOn generalizing s with
  | ind n ih =>
      by_cases hdone : done s
      · exact ⟨[], s, rfl, trivial, hdone⟩
      · obtain ⟨a, t, hallowed, hst, ht, hlt⟩ := hstep s hs hdone
        obtain ⟨as, s', hrun, halong, hdone'⟩ := ih (V t) (hn ▸ hlt) ht rfl
        refine ⟨a :: as, s', run_cons_eq_some.2 ⟨t, hst, hrun⟩, ⟨hallowed, ?_⟩, hdone'⟩
        intro t' ht'
        exact Option.some.inj (hst.symm.trans ht') ▸ halong

end Runs

/-! ## Reachable states -/

section Reach

variable {init : σ → Prop} {step : σ → α → Option σ} {s s' : σ} {a : α} {as : List α}

theorem Reachable.start (h : init s) : Reachable init step s := ⟨s, [], h, rfl⟩

theorem Reachable.ofRun (h : Reachable init step s) (hrun : run step s as = some s') :
    Reachable init step s' := by
  obtain ⟨s₀, bs, h₀, hbs⟩ := h
  exact ⟨s₀, bs ++ as, h₀, run_append_eq_some.2 ⟨s, hbs, hrun⟩⟩

theorem Reachable.next (h : Reachable init step s) (hstep : step s a = some s') :
    Reachable init step s' :=
  h.ofRun (run_cons_eq_some.2 ⟨s', hstep, run_nil⟩)

/-- **The invariant rule.** A property of the initial states that every step from a reachable state
    preserves holds of every reachable state. -/
theorem Reachable.invariant {P : σ → Prop} (hinit : ∀ s, init s → P s)
    (hstep : ∀ s a s', Reachable init step s → P s → step s a = some s' → P s')
    (h : Reachable init step s) : P s := by
  obtain ⟨s₀, as, h₀, hrun⟩ := h
  have hboth : Reachable init step s ∧ P s := by
    refine run_preserves (P := fun t => Reachable init step t ∧ P t) ?_ ?_ hrun
    · intro t a t' ⟨hr, ht⟩ hst
      exact ⟨hr.next hst, hstep t a t' hr ht hst⟩
    · exact ⟨.start h₀, hinit s₀ h₀⟩
  exact hboth.2

end Reach

/-! ## Machines wrapped around another machine -/

/-- **Projection of runs.** If every step of an outer machine is matched by a run of the inner one
    (`actions a` lists the inner actions of the outer action `a`), so is every run. -/
theorem run_project {outer : τ → β → Option τ} {inner : σ → α → Option σ} {project : τ → σ}
    {actions : β → List α}
    (hstep : ∀ t b t', outer t b = some t' → run inner (project t) (actions b) = some (project t'))
    {t t' : τ} {bs : List β} (hrun : run outer t bs = some t') :
    run inner (project t) (bs.flatMap actions) = some (project t') := by
  induction bs generalizing t with
  | nil =>
      simp only [run_nil, Option.some.injEq] at hrun
      simp [hrun]
  | cons b bs ih =>
      obtain ⟨u, htu, hrest⟩ := run_cons_eq_some.1 hrun
      rw [List.flatMap_cons]
      exact run_append_eq_some.2 ⟨project u, hstep t b u htu, ih hrest⟩

/-- The reachable states of a wrapped machine project to reachable states of the inner one. -/
theorem Reachable.project {outerInit : τ → Prop} {outer : τ → β → Option τ} {init : σ → Prop}
    {inner : σ → α → Option σ} {project : τ → σ} {actions : β → List α}
    (hinit : ∀ t, outerInit t → init (project t))
    (hstep : ∀ t b t', outer t b = some t' → run inner (project t) (actions b) = some (project t'))
    {t : τ} (h : Reachable outerInit outer t) : Reachable init inner (project t) := by
  obtain ⟨t₀, bs, h₀, hrun⟩ := h
  exact ⟨project t₀, bs.flatMap actions, hinit t₀ h₀, run_project hstep hrun⟩

end StepMachine
