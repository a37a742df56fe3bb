import ChessnutMove.Library.Codec

set_option autoImplicit false

/-! # Loops over a callback that keeps a state

A fallible callback that may mutate what it has captured is a function into `ExceptT ε (StateM σ)`:
the state it leaves behind survives an error. `transcript` is what a loop does that calls it for one
key after another and leaves at the first error, and `logged` is the callback that also writes its
calls down. `run_fillM` says that a filling loop over such a callback is the pure filling loop over
what the calls of its transcript returned. -/

namespace Callback

variable {κ ε α σ : Type}

/-- The calls made for the keys in order, up to the first error, and the state they leave. -/
def transcript (f : κ → ExceptT ε (StateM σ) α) : List κ → σ → List (κ × Except ε α) × σ
  | [], s => ([], s)
  | key :: keys, s =>
      match (f key).run.run s with
      | (.error error, s) => ([(key, .error error)], s)
      | (.ok a, s) =>
          let (calls, s) := transcript f keys s
          ((key, .ok a) :: calls, s)

/-- The callback that also writes down each call and what it returned. -/
def logged (f : κ → ExceptT ε (StateM σ) α) (key : κ) :
    ExceptT ε (StateM (σ × List (κ × Except ε α))) α :=
  ExceptT.mk fun (s, calls) =>
    let (result, s) := (f key).run.run s
    (result, s, calls ++ [(key, result)])

section Transcript

variable (f : κ → ExceptT ε (StateM σ) α) (keys : List κ) (s : σ)

/-- The calls are made in the order of the keys, and each at most once a key. -/
theorem transcript_prefix : (transcript f keys s).1.map Prod.fst <+: keys := by
  induction keys generalizing s with
  | nil => simp [transcript]
  | cons key keys ih =>
      unfold transcript
      split
      · exact ⟨keys, rfl⟩
      · next a s' hcall =>
          rw [List.map_cons]
          exact List.cons_prefix_cons.2 ⟨rfl, ih s'⟩

/-- Only the last call can have failed, and if it has not, every key had its call. -/
theorem transcript_cases :
    ((∀ call ∈ (transcript f keys s).1, call.2.isOk) ∧
        (transcript f keys s).1.map Prod.fst = keys) ∨
      ∃ before key error, (transcript f keys s).1 = before ++ [(key, .error error)] ∧
        ∀ call ∈ before, call.2.isOk := by
  induction keys generalizing s with
  | nil => exact .inl (by simp [transcript])
  | cons key keys ih =>
      unfold transcript
      split
      · next error s' hcall => exact .inr ⟨[], key, error, rfl, by simp⟩
      · next a s' hcall =>
          rcases ih s' with ⟨hok, hkeys⟩ | ⟨before, last, error, hcalls, hok⟩
          · refine .inl ⟨?_, by rw [List.map_cons, hkeys]⟩
            intro call hmem
            rcases List.mem_cons.1 hmem with rfl | hmem
            · rfl
            · exact hok call hmem
          · refine .inr ⟨(key, .ok a) :: before, last, error, by simp [hcalls], ?_⟩
            intro call hmem
            rcases List.mem_cons.1 hmem with rfl | hmem
            · rfl
            · exact hok call hmem

/-- Writing the calls down changes neither what they return nor the state they leave, and what is
    written down is the transcript. -/
theorem transcript_logged (calls : List (κ × Except ε α)) :
    transcript (logged f) keys (s, calls) =
      ((transcript f keys s).1, (transcript f keys s).2, calls ++ (transcript f keys s).1) := by
  induction keys generalizing s calls with
  | nil => simp [transcript]
  | cons key keys ih =>
      have hrun : (logged f key).run.run (s, calls) = (((f key).run.run s).1,
          ((f key).run.run s).2, calls ++ [(key, ((f key).run.run s).1)]) := rfl
      unfold transcript
      rw [hrun]
      cases hcall : (f key).run.run s with
      | mk result s' =>
          cases result with
          | error error => rfl
          | ok a =>
              simp only
              rw [ih s']
              simp

end Transcript

end Callback

/-! ## Filling an array -/

namespace Fill

variable {κ ε α σ : Type} {n : Nat}

/-- Runs the computations in order and stores each result at its index. -/
def fillM {m : Type → Type} [Monad m] (writes : List (Fin n × m α)) (v : Vector α n) :
    m (Vector α n) :=
  writes.foldlM (fun v write => do return v.set write.1 (← write.2)) v

/-- A loop whose every iteration fills a few cells is one fill of all of them. -/
theorem fillM_flatMap {m : Type → Type} [Monad m] [LawfulMonad m] {ι : Type} (blocks : List ι)
    (writes : ι → List (Fin n × m α)) (v : Vector α n) :
    fillM (blocks.flatMap writes) v = blocks.foldlM (fun v block => fillM (writes block) v) v := by
  induction blocks generalizing v with
  | nil => rfl
  | cons block rest ih =>
      rw [List.flatMap_cons, fillM, List.foldlM_append, List.foldlM_cons]
      exact bind_congr fun v' => ih v'

/-- **A fill over a callback with a state.** It makes the calls of the transcript and leaves their
    state; its result is that of filling with what these calls returned. -/
theorem run_fillM (f : κ → ExceptT ε (StateM σ) α) (index : κ → Fin n) (keys : List κ)
    (v : Vector α n) (s : σ) :
    (fillM (keys.map fun key => (index key, f key)) v).run.run s =
      (fill ((Callback.transcript f keys s).1.map fun call => (index call.1, call.2)) v,
        (Callback.transcript f keys s).2) := by
  induction keys generalizing v s with
  | nil => rfl
  | cons key keys ih =>
      have hstep : (fillM ((key :: keys).map fun key => (index key, f key)) v).run.run s =
          match (f key).run.run s with
          | (.error error, s) => (.error error, s)
          | (.ok a, s) =>
              (fillM (keys.map fun key => (index key, f key)) (v.set (index key) a)).run.run s := by
        rw [List.map_cons, fillM, List.foldlM_cons]
        cases hcall : (f key).run.run s with
        | mk result s' =>
            simp only [ExceptT.run_bind, StateT.run_bind, hcall]
            cases result <;> rfl
      rw [hstep]
      unfold Callback.transcript
      cases hcall : (f key).run.run s with
      | mk result s' =>
          cases result with
          | error error => rfl
          | ok a =>
              simp only [List.map_cons, fill_cons_ok]
              exact ih _ _

end Fill
