import Mathlib.Data.List.Basic
import Mathlib.Data.Option.Basic

set_option autoImplicit false

/-! # Programs that keep a journal

A program acts on a state, may end with an error and may never return. The state keeps a journal to
which the program only adds. `Writes journal program L` says what a program leaves there: whenever
it returns, what it has added is allowed by the language `L` for its result. The rules follow the
program: a sequence writes what its parts write one after the other, a loop the words of its rounds.

Partial correctness says nothing about a program that never returns. `Extends` compares a program
with one that returns in more cases, as a loop with more fuel does, and `loop_returns` is the rule
for loops whose rounds decrease a variant. -/

namespace Journal

variable {σ ε α β γ : Type}

/-- A program on states `σ` with errors `ε`; `none` if it does not return. -/
abbrev Program (σ ε α : Type) := ExceptT ε (StateT σ Option) α

/-- Rounds until one has a result; `none` when the fuel is used up. -/
def loop (body : Program σ ε (Option α)) : Nat → Program σ ε α
  | 0 => fun _ => none
  | fuel + 1 => do
      match ← body with
      | some a => return a
      | none => loop body fuel

/-- One step of its own, which always returns. -/
def act (f : σ → Except ε α × σ) : Program σ ε α := fun s => some (f s)

/-! ## Runs -/

section Runs

variable {s s' : σ} {a : α} {error : ε}

theorem bind_apply (x : Program σ ε α) (f : α → Program σ ε γ) (s : σ) :
    (x >>= f) s = match x s with
      | none => none
      | some (.error error, t) => some (.error error, t)
      | some (.ok a, t) => f a t := by
  show Option.bind (x s) (fun p => ExceptT.bindCont f p.1 p.2) = _
  rcases x s with _ | ⟨_ | a, t⟩ <;> rfl

theorem bind_eq_ok_iff {x : Program σ ε α} {f : α → Program σ ε γ} {c : γ} :
    (x >>= f) s = some (.ok c, s') ↔ ∃ a t, x s = some (.ok a, t) ∧ f a t = some (.ok c, s') := by
  rw [bind_apply]
  rcases x s with _ | ⟨_ | a, t⟩ <;> simp

theorem bind_eq_error_iff {x : Program σ ε α} {f : α → Program σ ε γ} :
    (x >>= f) s = some (.error error, s') ↔ x s = some (.error error, s') ∨
      ∃ a t, x s = some (.ok a, t) ∧ f a t = some (.error error, s') := by
  rw [bind_apply]
  rcases x s with _ | ⟨_ | a, t⟩ <;> simp

theorem loop_succ (body : Program σ ε (Option α)) (fuel : Nat) :
    loop body (fuel + 1) = body >>= fun result =>
      match result with
      | some a => pure a
      | none => loop body fuel :=
  rfl

end Runs

/-! ## Languages -/

/-- The words that a program may write for a result. -/
abbrev Language (ε α β : Type) := Except ε α → List β → Prop

/-- Nothing is written. -/
inductive Silent (a : α) : Language ε α β
  | mk : Silent a (.ok a) []

/-- A word of the first language, and if it did not fail one of the second behind it. -/
inductive Then (L : Language ε α β) (M : α → Language ε γ β) : Language ε γ β
  | failed (error : ε) (word : List β) (h : L (.error error) word) : Then L M (.error error) word
  | next (a : α) (result : Except ε γ) (first rest : List β) (h : L (.ok a) first)
      (hnext : M a result rest) : Then L M result (first ++ rest)

/-- Words one after another, up to one that fails or has a result. -/
inductive Rounds (L : Language ε (Option α) β) : Language ε α β
  | failed (error : ε) (word : List β) (h : L (.error error) word) : Rounds L (.error error) word
  | found (a : α) (word : List β) (h : L (.ok (some a)) word) : Rounds L (.ok a) word
  | again (result : Except ε α) (first rest : List β) (h : L (.ok none) first)
      (hrest : Rounds L result rest) : Rounds L result (first ++ rest)

/-- Whenever the program returns, it has written a word for its result. -/
def Writes (journal : σ → List β) (program : Program σ ε α) (L : Language ε α β) : Prop :=
  ∀ s result s', program s = some (result, s') →
    ∃ word, journal s' = journal s ++ word ∧ L result word

section Writes

variable {journal : σ → List β} {x : Program σ ε α} {f : α → Program σ ε γ}
  {L L' : Language ε α β} {M : α → Language ε γ β}

theorem writes_pure (a : α) : Writes journal (pure a : Program σ ε α) (Silent a) := by
  intro s result s' h
  obtain ⟨rfl, rfl⟩ := Prod.mk.inj (Option.some.inj h)
  exact ⟨[], (List.append_nil _).symm, .mk⟩

theorem Writes.imp (h : Writes journal x L) (himp : ∀ result word, L result word → L' result word) :
    Writes journal x L' := by
  intro s result s' hrun
  obtain ⟨word, hword, hL⟩ := h s result s' hrun
  exact ⟨word, hword, himp result word hL⟩

theorem Writes.bind (h : Writes journal x L) (hf : ∀ a, Writes journal (f a) (M a)) :
    Writes journal (x >>= f) (Then L M) := by
  intro s result s' hrun
  have hnext : ∀ a t, x s = some (.ok a, t) → f a t = some (result, s') →
      ∃ word, journal s' = journal s ++ word ∧ Then L M result word := by
    intro a t hx hrest
    obtain ⟨first, hfirst, hL⟩ := h s _ t hx
    obtain ⟨rest, hrest, hM⟩ := hf a t result s' hrest
    exact ⟨first ++ rest, by rw [hrest, hfirst, List.append_assoc], .next a _ _ _ hL hM⟩
  cases result with
  | ok c =>
      obtain ⟨a, t, hx, hrest⟩ := bind_eq_ok_iff.1 hrun
      exact hnext a t hx hrest
  | error error =>
      rcases bind_eq_error_iff.1 hrun with hx | ⟨a, t, hx, hrest⟩
      · obtain ⟨word, hword, hL⟩ := h s _ s' hx
        exact ⟨word, hword, .failed error word hL⟩
      · exact hnext a t hx hrest

/-- What a loop writes is a word for each round. -/
theorem writes_loop {body : Program σ ε (Option α)} {L : Language ε (Option α) β}
    (h : Writes journal body L) (fuel : Nat) : Writes journal (loop body fuel) (Rounds L) := by
  induction fuel with
  | zero =>
      intro s result s' hrun
      cases hrun
  | succ fuel ih =>
      rw [loop_succ]
      refine (h.bind (M := fun found => match found with
        | some a => Silent a
        | none => Rounds L) ?_).imp ?_
      · rintro (_ | a)
        · exact ih
        · exact writes_pure a
      · intro result word hword
        cases hword with
        | failed error word hL => exact .failed error word hL
        | next found result first rest hL hrest =>
            cases found with
            | none => exact .again _ _ _ hL hrest
            | some a =>
                cases hrest
                rw [List.append_nil]
                exact .found a first hL

end Writes

/-! ## Properties of languages -/

/-- Every word of the language has a property that depends on its result. -/
def Every (P : Except ε α → List β → Prop) (L : Language ε α β) : Prop :=
  ∀ result word, L result word → P result word

/-- A program that stops at its first fault: what it fails with is the fault of the last entry, and
    no entry before has one. -/
def StopsAt (fault : β → Option ε) : Except ε α → List β → Prop
  | .ok _, word => ∀ entry ∈ word, fault entry = none
  | .error error, word => ∃ before last, word = before ++ [last] ∧ fault last = some error ∧
      ∀ entry ∈ before, fault entry = none

/-- The values that `f` reads are those in the list, up to where the program fails. -/
def Lists (f : β → Option γ) (values : List γ) : Except ε α → List β → Prop
  | .ok _, word => word.filterMap f = values
  | .error _, word => word.filterMap f <+: values

section Properties

variable {δ : Type} {fault : β → Option ε} {L : Language ε α β} {M : α → Language ε γ β}
  {f : β → Option δ} {values more : List δ} {P : β → Prop} {result : Except ε α}
  {first rest word : List β} {entry : β}

theorem StopsAt.append (hfirst : ∀ entry ∈ first, fault entry = none)
    (h : StopsAt fault result rest) : StopsAt fault result (first ++ rest) := by
  cases result with
  | ok a => exact List.forall_mem_append.2 ⟨hfirst, h⟩
  | error error =>
      obtain ⟨before, last, rfl, hlast, hbefore⟩ := h
      exact ⟨first ++ before, last, (List.append_assoc _ _ _).symm, hlast,
        List.forall_mem_append.2 ⟨hfirst, hbefore⟩⟩

theorem StopsAt.cons (hentry : fault entry = none) (h : StopsAt fault result rest) :
    StopsAt fault result (entry :: rest) :=
  h.append (List.forall_mem_singleton.2 hentry)

theorem stopsAt_single (a : α) (hentry : fault entry = none) :
    StopsAt fault (.ok a : Except ε α) [entry] :=
  List.forall_mem_singleton.2 hentry

theorem stopsAt_last {error : ε} (hentry : fault entry = some error) :
    StopsAt fault (.error error : Except ε α) [entry] :=
  ⟨[], entry, rfl, hentry, nofun⟩

/-- What such a program fails with is the first fault in its word. -/
theorem StopsAt.head?_eq (h : StopsAt fault result word) (error : ε) :
    (word.filterMap fault).head? = some error ↔ result = .error error := by
  cases result with
  | ok a => simp [List.filterMap_eq_nil_iff.2 h]
  | error error' =>
      obtain ⟨before, last, rfl, hlast, hbefore⟩ := h
      simp [List.filterMap_append, List.filterMap_eq_nil_iff.2 hbefore, hlast]

theorem every_then_stopsAt (h : Every (StopsAt fault) L) (hM : ∀ a, Every (StopsAt fault) (M a)) :
    Every (StopsAt fault) (Then L M) := by
  intro result word hword
  cases hword with
  | failed error _ hL => exact h _ word hL
  | next a _ first rest hL hrest => exact (hM a _ rest hrest).append (h _ first hL)

theorem every_rounds_stopsAt {L : Language ε (Option α) β} (h : Every (StopsAt fault) L) :
    Every (StopsAt fault) (Rounds L) := by
  intro result word hword
  induction hword with
  | failed error word hL => exact h _ word hL
  | found a word hL => exact h _ word hL
  | again result first rest hL hrest ih => exact ih.append (h _ first hL)

theorem Lists.cons {value : δ} (hentry : f entry = some value) (h : Lists f values result rest) :
    Lists f (value :: values) result (entry :: rest) := by
  cases result with
  | ok a =>
      show (entry :: rest).filterMap f = value :: values
      rw [List.filterMap_cons_some hentry]
      exact congrArg (value :: ·) h
  | error error =>
      show (entry :: rest).filterMap f <+: value :: values
      rw [List.filterMap_cons_some hentry]
      exact (List.prefix_cons_inj value).2 h

/-- Nothing is read at first. -/
theorem Lists.append (hfirst : first.filterMap f = []) (h : Lists f values result rest) :
    Lists f values result (first ++ rest) := by
  cases result with
  | ok a =>
      show (first ++ rest).filterMap f = values
      rw [List.filterMap_append, hfirst]
      exact h
  | error error =>
      show (first ++ rest).filterMap f <+: values
      rw [List.filterMap_append, hfirst]
      exact h

/-- A word in which nothing is read. -/
theorem lists_nil (h : word.filterMap f = []) : Lists f [] result word := by
  cases result with
  | ok a => exact h
  | error error => exact h ▸ List.nil_prefix

theorem every_then_lists (h : Every (Lists f values) L) (hM : ∀ a, Every (Lists f more) (M a)) :
    Every (Lists f (values ++ more)) (Then L M) := by
  intro result word hword
  cases hword with
  | failed error _ hL => exact (h _ word hL).trans (List.prefix_append _ _)
  | next a _ first rest hL hrest =>
      have hfirst : first.filterMap f = values := h _ first hL
      have hrest := hM a _ rest hrest
      cases result with
      | ok c =>
          show (first ++ rest).filterMap f = values ++ more
          rw [List.filterMap_append, hfirst]
          exact congrArg (values ++ ·) hrest
      | error error =>
          show (first ++ rest).filterMap f <+: values ++ more
          rw [List.filterMap_append, hfirst]
          exact (List.prefix_append_right_inj _).2 hrest

theorem every_then_forall (h : Every (fun _ word => ∀ entry ∈ word, P entry) L)
    (hM : ∀ a, Every (fun _ word => ∀ entry ∈ word, P entry) (M a)) :
    Every (fun _ word => ∀ entry ∈ word, P entry) (Then L M) := by
  intro result word hword
  cases hword with
  | failed error _ hL => exact h _ word hL
  | next a _ first rest hL hrest =>
      exact List.forall_mem_append.2 ⟨h _ first hL, hM a _ rest hrest⟩

theorem every_rounds_forall {L : Language ε (Option α) β}
    (h : Every (fun _ word => ∀ entry ∈ word, P entry) L) :
    Every (fun _ word => ∀ entry ∈ word, P entry) (Rounds L) := by
  intro result word hword
  induction hword with
  | failed error word hL => exact h _ word hL
  | found a word hL => exact h _ word hL
  | again result first rest hL hrest ih => exact List.forall_mem_append.2 ⟨h _ first hL, ih⟩

end Properties

/-! ## Programs that return -/

/-- The other program returns the same whenever this one returns. -/
def Extends (x y : Program σ ε α) : Prop := ∀ s p, x s = some p → y s = some p

/-- The program returns from every state whose variant is below the bound, and does not increase
    it. -/
def Returns (variant : σ → Nat) (bound : Nat) (x : Program σ ε α) : Prop :=
  ∀ s, variant s < bound → ∃ p, x s = some p ∧ variant p.2 ≤ variant s

section Returns

variable {x y : Program σ ε α} {f g : α → Program σ ε γ} {variant : σ → Nat} {bound fuel : Nat}

theorem Extends.refl (x : Program σ ε α) : Extends x x := fun _ _ h => h

theorem Extends.bind (h : Extends x y) (hf : ∀ a, Extends (f a) (g a)) :
    Extends (x >>= f) (y >>= g) := by
  rintro s ⟨result, s'⟩ hrun
  cases result with
  | ok c =>
      obtain ⟨a, t, hx, hrest⟩ := bind_eq_ok_iff.1 hrun
      exact bind_eq_ok_iff.2 ⟨a, t, h _ _ hx, hf a _ _ hrest⟩
  | error error =>
      refine bind_eq_error_iff.2 ((bind_eq_error_iff.1 hrun).imp (h _ _) ?_)
      rintro ⟨a, t, hx, hrest⟩
      exact ⟨a, t, h _ _ hx, hf a _ _ hrest⟩

/-- A loop with more fuel returns the same. -/
theorem extends_loop {body body' : Program σ ε (Option α)} (h : Extends body body')
    {fuel fuel' : Nat} (hle : fuel ≤ fuel') : Extends (loop body fuel) (loop body' fuel') := by
  induction fuel generalizing fuel' with
  | zero => nofun
  | succ fuel ih =>
      obtain ⟨fuel', rfl⟩ := Nat.exists_eq_add_of_lt hle
      rw [loop_succ, loop_succ]
      refine h.bind ?_
      rintro (_ | a)
      · exact ih (Nat.le_add_right _ _)
      · exact .refl _

theorem Returns.bind (h : Returns variant bound x) (hf : ∀ a, Returns variant bound (f a)) :
    Returns variant bound (x >>= f) := by
  intro s hs
  obtain ⟨⟨result, t⟩, hx, hle⟩ := h s hs
  cases result with
  | ok a =>
      obtain ⟨⟨result, s'⟩, hrest, hle'⟩ := hf a t (Nat.lt_of_le_of_lt hle hs)
      refine ⟨(result, s'), ?_, Nat.le_trans hle' hle⟩
      cases result with
      | ok c => exact bind_eq_ok_iff.2 ⟨a, t, hx, hrest⟩
      | error error => exact bind_eq_error_iff.2 (.inr ⟨a, t, hx, hrest⟩)
  | error error => exact ⟨(.error error, t), bind_eq_error_iff.2 (.inl hx), hle⟩

/-- **The variant rule for loops.** A loop returns if every round that leads to another one
    decreases the variant and the fuel is above it. -/
theorem returns_loop {body : Program σ ε (Option α)}
    (h : ∀ s, variant s < bound → ∃ p, body s = some p ∧ variant p.2 ≤ variant s ∧
      (p.1 = .ok none → variant p.2 < variant s)) (hfuel : bound ≤ fuel) :
    Returns variant bound (loop body fuel) := by
  have hall : ∀ fuel s, variant s < fuel → variant s < bound →
      ∃ p, loop body fuel s = some p ∧ variant p.2 ≤ variant s := by
    intro fuel
    induction fuel with
    | zero => nofun
    | succ fuel ih =>
        intro s hlt hs
        obtain ⟨⟨result, t⟩, hround, hle, hdecrease⟩ := h s hs
        rw [loop_succ]
        match result with
        | .error error => exact ⟨(.error error, t), bind_eq_error_iff.2 (.inl hround), hle⟩
        | .ok (some a) => exact ⟨(.ok a, t), bind_eq_ok_iff.2 ⟨some a, t, hround, rfl⟩, hle⟩
        | .ok none =>
            have hless : variant t < variant s := hdecrease rfl
            obtain ⟨⟨result, s'⟩, hrest, hle'⟩ :=
              ih t (Nat.lt_of_lt_of_le hless (Nat.le_of_lt_succ hlt)) (Nat.lt_trans hless hs)
            refine ⟨(result, s'), ?_, Nat.le_trans hle' hle⟩
            cases result with
            | ok a => exact bind_eq_ok_iff.2 ⟨none, t, hround, hrest⟩
            | error error => exact bind_eq_error_iff.2 (.inr ⟨none, t, hround, hrest⟩)
  exact fun s hs => hall fuel s (Nat.lt_of_lt_of_le hs hfuel) hs

end Returns

end Journal
