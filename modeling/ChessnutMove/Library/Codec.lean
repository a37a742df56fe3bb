import Mathlib.Data.Fintype.Basic
import Mathlib.Data.List.FinRange
import Mathlib.Data.List.Nodup

set_option autoImplicit false

/-! # Bytes of two nibbles, and loops that fill an array

What a decoder of a packed fixed-size format is built from. `Nibble` splits a byte into two
four-bit values and joins them again; the lemmas on `Except` peel the checks off one after
another. `Fill` is the loop that computes one cell after another, stops at the first error, and
stores each result at its own index; `fill_eq_ok_iff` says that when the indexes are a permutation
of all cells such a loop succeeds with `v` exactly when every computation returned the cell of `v`
it was stored in, so that nothing of the array's first contents survives. -/

namespace Nibble

/-- Two four-bit values in one byte, the first in the low half. -/
def join (first second : UInt8) : UInt8 := first ||| (second <<< 4)

/-- The low half of a byte. -/
def low (b : UInt8) : UInt8 := b &&& 0x0f

/-- The high half of a byte. -/
def high (b : UInt8) : UInt8 := b >>> 4

theorem exists_ofNat_of_le {n : UInt8} (h : n ≤ 0x0f) : ∃ k : Fin 16, n = UInt8.ofNat k := by
  have hn : n.toNat ≤ 15 := UInt8.le_iff_toNat_le.1 h
  exact ⟨⟨n.toNat, by omega⟩, by simp⟩

theorem exists_eq_join (b : UInt8) :
    ∃ first second : Fin 16, b = join (UInt8.ofNat first) (UInt8.ofNat second) := by
  have key : ∀ first second : Fin 16, UInt8.ofNat (second.val * 16 + first.val)
      = join (UInt8.ofNat first) (UInt8.ofNat second) := by decide
  have hb := b.toNat_lt
  refine ⟨⟨b.toNat % 16, by omega⟩, ⟨b.toNat / 16, by omega⟩, ?_⟩
  rw [← key]
  have hsum : b.toNat / 16 * 16 + b.toNat % 16 = b.toNat := by omega
  simp [hsum]

theorem low_join {first second : UInt8} (hf : first ≤ 0x0f) (hs : second ≤ 0x0f) :
    low (join first second) = first := by
  obtain ⟨first, rfl⟩ := exists_ofNat_of_le hf
  obtain ⟨second, rfl⟩ := exists_ofNat_of_le hs
  clear hf hs
  revert first second
  decide

theorem high_join {first second : UInt8} (hf : first ≤ 0x0f) (hs : second ≤ 0x0f) :
    high (join first second) = second := by
  obtain ⟨first, rfl⟩ := exists_ofNat_of_le hf
  obtain ⟨second, rfl⟩ := exists_ofNat_of_le hs
  clear hf hs
  revert first second
  decide

theorem low_le (b : UInt8) : low b ≤ 0x0f := by
  obtain ⟨first, second, rfl⟩ := exists_eq_join b
  revert first second
  decide

theorem high_le (b : UInt8) : high b ≤ 0x0f := by
  obtain ⟨first, second, rfl⟩ := exists_eq_join b
  revert first second
  decide

theorem join_low_high (b : UInt8) : join (low b) (high b) = b := by
  obtain ⟨first, second, rfl⟩ := exists_eq_join b
  revert first second
  decide

end Nibble

/-! ## Checked computations -/

namespace Except

variable {ε ε' α β : Type}

@[simp] theorem isOk_ok (a : α) : (Except.ok a : Except ε α).isOk = true := rfl

@[simp] theorem isOk_error (e : ε) : (Except.error e : Except ε α).isOk = false := rfl

@[simp] theorem mapError_ok {f : ε → ε'} (a : α) : (Except.ok a).mapError f = .ok a := rfl

@[simp] theorem ok_bind (a : α) (f : α → Except ε β) : Except.ok a >>= f = f a := rfl

@[simp] theorem error_bind (e : ε) (f : α → Except ε β) : Except.error e >>= f = .error e := rfl

theorem isOk_iff_exists {x : Except ε α} : x.isOk = true ↔ ∃ a, x = .ok a := by
  cases x with
  | error e => simp
  | ok a => simp

theorem bind_eq_ok_iff {x : Except ε α} {f : α → Except ε β} {b : β} :
    x >>= f = .ok b ↔ ∃ a, x = .ok a ∧ f a = .ok b := by
  cases x with
  | error e => simp [bind, Except.bind]
  | ok a => simp [bind, Except.bind]

theorem bind_eq_error_iff {x : Except ε α} {f : α → Except ε β} {e : ε} :
    x >>= f = .error e ↔ x = .error e ∨ ∃ a, x = .ok a ∧ f a = .error e := by
  cases x with
  | error e => simp [bind, Except.bind]
  | ok a => simp [bind, Except.bind]

theorem map_eq_ok_iff {x : Except ε α} {f : α → β} {b : β} :
    x.map f = .ok b ↔ ∃ a, x = .ok a ∧ f a = b := by
  cases x <;> simp [Except.map]

theorem map_eq_error_iff {x : Except ε α} {f : α → β} {e : ε} :
    x.map f = .error e ↔ x = .error e := by
  cases x <;> simp [Except.map]

theorem mapError_eq_ok_iff {x : Except ε α} {f : ε → ε'} {a : α} :
    x.mapError f = .ok a ↔ x = .ok a := by
  cases x <;> simp [Except.mapError]

theorem mapError_eq_error_iff {x : Except ε α} {f : ε → ε'} {e : ε'} :
    x.mapError f = .error e ↔ ∃ e', x = .error e' ∧ f e' = e := by
  cases x <;> simp [Except.mapError]

end Except

/-! ## Filling an array -/

namespace Fill

variable {ε α : Type} {n : Nat}

/-- Runs the computations in order and stores each result at its index. -/
def fill (writes : List (Fin n × Except ε α)) (v : Vector α n) : Except ε (Vector α n) :=
  writes.foldlM (fun v write => write.2.map (v.set write.1 ·)) v

@[simp] theorem fill_nil (v : Vector α n) : fill ([] : List (Fin n × Except ε α)) v = .ok v := rfl

theorem fill_cons_ok (i : Fin n) (x : α) (writes : List (Fin n × Except ε α)) (v : Vector α n) :
    fill ((i, .ok x) :: writes) v = fill writes (v.set i x) := rfl

theorem fill_cons_error (i : Fin n) (e : ε) (writes : List (Fin n × Except ε α)) (v : Vector α n) :
    fill ((i, .error e) :: writes) v = .error e := rfl

/-- A loop whose every iteration fills a few cells is one fill of all of them. -/
theorem fill_flatMap {ι : Type} (blocks : List ι) (writes : ι → List (Fin n × Except ε α))
    (v : Vector α n) :
    fill (blocks.flatMap writes) v = blocks.foldlM (fun v block => fill (writes block) v) v := by
  induction blocks generalizing v with
  | nil => rfl
  | cons block rest ih =>
      rw [List.flatMap_cons, fill, List.foldlM_append, List.foldlM_cons]
      exact bind_congr fun v' => ih v'

/-- A cell no computation is stored in keeps its contents. -/
theorem getElem_of_fill_of_not_mem {writes : List (Fin n × Except ε α)} {v v' : Vector α n}
    (h : fill writes v = .ok v') {i : Fin n} (hi : i ∉ writes.map Prod.fst) : v'[i] = v[i] := by
  induction writes generalizing v with
  | nil =>
      simp only [fill_nil, Except.ok.injEq] at h
      rw [h]
  | cons write rest ih =>
      obtain ⟨j, _ | x⟩ := write
      · simp [fill_cons_error] at h
      · simp only [List.map_cons, List.mem_cons, not_or] at hi
        rw [fill_cons_ok] at h
        rw [ih h hi.2]
        have hne : j.val ≠ i.val := fun he => hi.1 (Fin.ext he.symm)
        simp [Fin.getElem_fin, Vector.getElem_set_ne, hne]

/-- Every computation of a fill that succeeds returned the cell it was stored in. -/
theorem eq_ok_of_fill {writes : List (Fin n × Except ε α)} {v v' : Vector α n}
    (hnodup : (writes.map Prod.fst).Nodup) (h : fill writes v = .ok v') :
    ∀ write ∈ writes, write.2 = .ok v'[write.1] := by
  induction writes generalizing v with
  | nil => simp
  | cons write rest ih =>
      obtain ⟨j, _ | x⟩ := write
      · simp [fill_cons_error] at h
      · rw [List.map_cons, List.nodup_cons] at hnodup
        rw [fill_cons_ok] at h
        intro write hmem
        rcases List.mem_cons.1 hmem with rfl | hmem
        · have hcell := getElem_of_fill_of_not_mem h hnodup.1
          rw [hcell]
          simp
        · exact ih hnodup.2 h write hmem

/-- A fill succeeds when each of its computations does. -/
theorem fill_isOk {writes : List (Fin n × Except ε α)} (v : Vector α n)
    (h : ∀ write ∈ writes, ∃ x, write.2 = .ok x) : ∃ v', fill writes v = .ok v' := by
  induction writes generalizing v with
  | nil => exact ⟨v, rfl⟩
  | cons write rest ih =>
      obtain ⟨j, c⟩ := write
      obtain ⟨x, hx⟩ := h (j, c) (List.mem_cons_self ..)
      simp only at hx
      subst hx
      exact ih (v.set j x) fun w hw => h w (List.mem_cons_of_mem _ hw)

/-- **A fill over all cells.** When every cell is stored exactly once, the loop returns `v'` exactly
    when each computation returned the cell of `v'` it is stored in. -/
theorem fill_eq_ok_iff {writes : List (Fin n × Except ε α)} {v v' : Vector α n}
    (hnodup : (writes.map Prod.fst).Nodup) (hall : ∀ i, i ∈ writes.map Prod.fst) :
    fill writes v = .ok v' ↔ ∀ write ∈ writes, write.2 = .ok v'[write.1] := by
  refine ⟨eq_ok_of_fill hnodup, fun h => ?_⟩
  obtain ⟨w, hw⟩ := fill_isOk v fun write hmem => ⟨_, h write hmem⟩
  rw [hw, Except.ok.injEq]
  refine Vector.ext fun i hi => ?_
  obtain ⟨⟨j, c⟩, hmem, hj⟩ := List.mem_map.1 (hall ⟨i, hi⟩)
  simp only at hj
  subst hj
  have hboth := (eq_ok_of_fill hnodup hw _ hmem).symm.trans (h _ hmem)
  simpa using hboth

/-- In a list of all indexes in order, those before an index are the smaller ones. -/
theorem mem_before_iff {before after : List (Fin n)} {i j : Fin n}
    (h : List.finRange n = before ++ i :: after) : j ∈ before ↔ j < i := by
  have hsorted := List.pairwise_lt_finRange n
  rw [h, List.pairwise_append] at hsorted
  constructor
  · intro hmem
    exact hsorted.2.2 j hmem i (List.mem_cons_self ..)
  · intro hlt
    have hmem := List.mem_finRange j
    rw [h] at hmem
    rcases List.mem_append.1 hmem with hmem | hmem
    · exact hmem
    · rcases List.mem_cons.1 hmem with rfl | hmem
      · exact absurd hlt (Fin.lt_irrefl _)
      · exact absurd hlt (Fin.lt_asymm (List.rel_of_pairwise_cons hsorted.2.1 hmem))

/-- A fill fails with the error of the first computation that fails. -/
theorem fill_eq_error_iff {writes : List (Fin n × Except ε α)} {v : Vector α n} {e : ε} :
    fill writes v = .error e ↔ ∃ before i after, writes = before ++ (i, .error e) :: after ∧
      ∀ write ∈ before, ∃ x, write.2 = .ok x := by
  induction writes generalizing v with
  | nil => simp
  | cons write rest ih =>
      obtain ⟨j, e' | x⟩ := write
      · rw [fill_cons_error, Except.error.injEq]
        constructor
        · rintro rfl
          exact ⟨[], j, rest, rfl, by simp⟩
        · rintro ⟨before, i, after, hsplit, hok⟩
          cases before with
          | nil =>
              simp only [List.nil_append, List.cons.injEq, Prod.mk.injEq, Except.error.injEq]
                at hsplit
              exact hsplit.1.2
          | cons w before =>
              simp only [List.cons_append, List.cons.injEq] at hsplit
              obtain ⟨y, hy⟩ := hok w (List.mem_cons_self ..)
              rw [← hsplit.1] at hy
              cases hy
      · rw [fill_cons_ok, ih]
        constructor
        · rintro ⟨before, i, after, rfl, hok⟩
          refine ⟨(j, .ok x) :: before, i, after, rfl, ?_⟩
          intro write hmem
          rcases List.mem_cons.1 hmem with rfl | hmem
          · exact ⟨x, rfl⟩
          · exact hok write hmem
        · rintro ⟨before, i, after, hsplit, hok⟩
          cases before with
          | nil => simp at hsplit
          | cons w before =>
              simp only [List.cons_append, List.cons.injEq] at hsplit
              exact ⟨before, i, after, hsplit.2,
                fun write hmem => hok write (List.mem_cons_of_mem _ hmem)⟩

/-- In a loop over the indexes in order, it is the computation of the smallest failing index. -/
theorem fill_finRange_eq_error_iff {k : Nat} {index : Fin k → Fin n} {c : Fin k → Except ε α}
    {v : Vector α n} {e : ε} :
    fill ((List.finRange k).map fun i => (index i, c i)) v = .error e ↔
      ∃ i, c i = .error e ∧ ∀ j < i, ∃ x, c j = .ok x := by
  rw [fill_eq_error_iff]
  constructor
  · rintro ⟨before, _, after, hsplit, hok⟩
    obtain ⟨is, rest, his, rfl, hrest⟩ := List.map_eq_append_iff.1 hsplit
    obtain ⟨i, is', rfl, hi, -⟩ := List.map_eq_cons_iff.1 hrest
    refine ⟨i, congrArg Prod.snd hi, fun j hlt => ?_⟩
    exact hok _ (List.mem_map_of_mem ((mem_before_iff his).2 hlt))
  · rintro ⟨i, hi, hok⟩
    obtain ⟨is, is', his⟩ := List.append_of_mem (List.mem_finRange i)
    refine ⟨_, index i, _, by rw [his, List.map_append, List.map_cons, hi], ?_⟩
    intro write hmem
    obtain ⟨j, hj, rfl⟩ := List.mem_map.1 hmem
    exact hok j ((mem_before_iff his).1 hj)

end Fill
