import Mathlib.Data.List.Nodup
import Mathlib.Data.List.Perm.Basic

set_option autoImplicit false

/-! # Ledgers of numbered tickets

A system issues tickets `0, 1, 2, …` and appends events to a log; `about` names the ticket an
event concerns, if any. The *story* of a ticket is what the log says about it.

`Ledger` is the invariant of a system that accounts for its tickets: `held` lists each ticket the
system still holds together with its story so far, and the story of every other issued ticket is
closed. One rule for each thing a step can do: concern no ticket, issue one, carry on with one,
close one. A system that holds no ticket any more has closed every ticket it issued. -/

variable {β : Type}

/-- The events of a log that concern a ticket. -/
def story (about : β → Option Nat) (ticket : Nat) (log : List β) : List β :=
  log.filter fun e => about e = some ticket

section Story

variable {about : β → Option Nat} {ticket : Nat} {log log' : List β} {e : β}

@[simp] theorem story_nil : story about ticket [] = [] := rfl

@[simp] theorem story_append :
    story about ticket (log ++ log') = story about ticket log ++ story about ticket log' :=
  List.filter_append ..

theorem mem_story : e ∈ story about ticket log ↔ e ∈ log ∧ about e = some ticket := by
  simp [story]

/-- Events that all concern the ticket are its story. -/
theorem story_eq_self (h : ∀ e ∈ log, about e = some ticket) : story about ticket log = log :=
  List.filter_eq_self.2 fun e he => decide_eq_true (h e he)

/-- Events that concern only another ticket leave a story as it was. -/
theorem story_eq_nil {i : Nat} (hne : ticket ≠ i) (h : ∀ e ∈ log, ∀ j, about e = some j → j = i) :
    story about ticket log = [] := by
  refine List.filter_eq_nil_iff.2 fun e he hab => hne ?_
  exact h e he ticket (of_decide_eq_true hab)

/-- What is extracted from the events about a ticket can be counted in its story. -/
theorem count_filterMap_story {f : β → Option Nat} (h : ∀ e i, f e = some i → about e = some i) :
    (log.filterMap f).count ticket = ((story about ticket log).filterMap f).count ticket := by
  induction log with
  | nil => rfl
  | cons e log ih =>
      rw [← List.singleton_append, story_append, List.filterMap_append, List.filterMap_append,
        List.count_append, List.count_append, ih, Nat.add_right_cancel_iff]
      by_cases habout : about e = some ticket
      · simp [story, habout]
      · have hf : f e ≠ some ticket := fun hf => habout (h e ticket hf)
        cases hfe : f e with
        | none => simp [story, habout, hfe]
        | some i =>
            have hne : i ≠ ticket := fun hi => hf (hi ▸ hfe)
            simp [story, habout, hfe, hne]

end Story

/-- Every issued ticket is held with its story, or its story is closed. -/
structure Ledger (about : β → Option Nat) (Closed : Nat → List β → Prop)
    (held : List (Nat × List β)) (next : Nat) (log : List β) : Prop where
  nodup : (held.map Prod.fst).Nodup
  issued : ∀ t ∈ held, t.1 < next
  story_eq : ∀ t ∈ held, story about t.1 log = t.2
  closed : ∀ i < next, i ∉ held.map Prod.fst → Closed i (story about i log)
  fresh : ∀ i, next ≤ i → story about i log = []

namespace Ledger

/-- No ticket is issued yet. -/
theorem start (about : β → Option Nat) (Closed : Nat → List β → Prop) :
    Ledger about Closed [] 0 [] := by
  refine ⟨List.nodup_nil, ?_, ?_, ?_, ?_⟩
  · intro t ht
    cases ht
  · intro t ht
    cases ht
  · intro i hi
    cases hi
  · intro i hi
    rfl

variable {about : β → Option Nat} {Closed : Nat → List β → Prop} {held held' : List (Nat × List β)}
  {next i : Nat} {log es st : List β}

theorem perm (h : Ledger about Closed held next log) (hperm : held.Perm held') :
    Ledger about Closed held' next log where
  nodup := (hperm.map Prod.fst).nodup_iff.1 h.nodup
  issued t ht := h.issued t (hperm.mem_iff.2 ht)
  story_eq t ht := h.story_eq t (hperm.mem_iff.2 ht)
  closed i hi hmem := h.closed i hi fun hheld => hmem ((hperm.map Prod.fst).mem_iff.1 hheld)
  fresh := h.fresh

/-- Events that concern no ticket. -/
theorem frame (h : Ledger about Closed held next log) (hes : ∀ e ∈ es, about e = none) :
    Ledger about Closed held next (log ++ es) := by
  have hnil : ∀ i, story about i es = [] := by
    intro i
    refine List.filter_eq_nil_iff.2 fun e he => ?_
    simp [hes e he]
  refine ⟨h.nodup, h.issued, ?_, ?_, ?_⟩
  · intro t ht
    rw [story_append, hnil, List.append_nil, h.story_eq t ht]
  · intro i hi hmem
    rw [story_append, hnil, List.append_nil]
    exact h.closed i hi hmem
  · intro i hi
    rw [story_append, hnil, List.append_nil, h.fresh i hi]

/-- A new ticket, held with the events that issue it. -/
theorem issue (h : Ledger about Closed held next log)
    (hes : ∀ e ∈ es, ∀ j, about e = some j → j = next) :
    Ledger about Closed ((next, story about next es) :: held) (next + 1) (log ++ es) := by
  have hother : ∀ i, i ≠ next → story about i (log ++ es) = story about i log := by
    intro i hi
    rw [story_append, story_eq_nil hi hes, List.append_nil]
  have hfirst : story about next (log ++ es) = story about next es := by
    rw [story_append, h.fresh next (Nat.le_refl next), List.nil_append]
  refine ⟨?_, ?_, ?_, ?_, ?_⟩
  · refine List.nodup_cons.2 ⟨?_, h.nodup⟩
    intro hmem
    obtain ⟨t, ht, heq⟩ := List.mem_map.1 hmem
    exact absurd (h.issued t ht) (heq ▸ Nat.lt_irrefl _)
  · intro t ht
    rcases List.mem_cons.1 ht with rfl | ht
    · exact Nat.lt_succ_self next
    · exact Nat.lt_succ_of_lt (h.issued t ht)
  · intro t ht
    rcases List.mem_cons.1 ht with rfl | ht
    · exact hfirst
    · rw [hother t.1 (Nat.ne_of_lt (h.issued t ht)), h.story_eq t ht]
  · intro i hi hmem
    rw [List.map_cons, List.mem_cons, not_or] at hmem
    rw [hother i hmem.1]
    exact h.closed i (Nat.lt_of_le_of_ne (Nat.le_of_lt_succ hi) hmem.1) hmem.2
  · intro i hi
    rw [hother i (Nat.ne_of_gt hi)]
    exact h.fresh i (Nat.le_of_lt hi)

section Head

variable (h : Ledger about Closed ((i, st) :: held) next log)
  (hes : ∀ e ∈ es, ∀ j, about e = some j → j = i)

include h

theorem notMem_of_head : i ∉ held.map Prod.fst := (List.nodup_cons.1 h.nodup).1

include hes

/-- The story of a held ticket goes on. -/
theorem advance :
    Ledger about Closed ((i, st ++ story about i es) :: held) next (log ++ es) := by
  have hother : ∀ j, j ≠ i → story about j (log ++ es) = story about j log := by
    intro j hj
    rw [story_append, story_eq_nil hj hes, List.append_nil]
  refine ⟨h.nodup, ?_, ?_, ?_, ?_⟩
  · intro t ht
    rcases List.mem_cons.1 ht with rfl | ht
    · exact h.issued (i, st) List.mem_cons_self
    · exact h.issued t (List.mem_cons_of_mem _ ht)
  · intro t ht
    rcases List.mem_cons.1 ht with rfl | ht
    · rw [story_append, h.story_eq (i, st) List.mem_cons_self]
    · have hne : t.1 ≠ i := fun heq => h.notMem_of_head (heq ▸ List.mem_map_of_mem ht)
      rw [hother t.1 hne, h.story_eq t (List.mem_cons_of_mem _ ht)]
  · intro j hj hmem
    rw [List.map_cons, List.mem_cons, not_or] at hmem
    rw [hother j hmem.1]
    exact h.closed j hj (by simpa [hmem.1] using hmem.2)
  · intro j hj
    have hlt := h.issued (i, st) List.mem_cons_self
    rw [hother j (Nat.ne_of_gt (Nat.lt_of_lt_of_le hlt hj)), h.fresh j hj]

/-- The story of a held ticket ends. -/
theorem close (hclosed : Closed i (st ++ story about i es)) :
    Ledger about Closed held next (log ++ es) := by
  have hadv := h.advance hes
  refine ⟨(List.nodup_cons.1 hadv.nodup).2, ?_, ?_, ?_, hadv.fresh⟩
  · intro t ht
    exact hadv.issued t (List.mem_cons_of_mem _ ht)
  · intro t ht
    exact hadv.story_eq t (List.mem_cons_of_mem _ ht)
  · intro j hj hmem
    by_cases hji : j = i
    · subst hji
      rw [hadv.story_eq _ List.mem_cons_self]
      exact hclosed
    · exact hadv.closed j hj (by simpa [hji] using hmem)

end Head

section Move

variable {rest : List (Nat × List β)} (h : Ledger about Closed held next log)
  (hfrom : held.Perm ((i, st) :: rest)) (hes : ∀ e ∈ es, ∀ j, about e = some j → j = i)

include h hfrom hes

/-- A step that concerns one held ticket and keeps it. -/
theorem carry (hto : held'.Perm ((i, st ++ story about i es) :: rest)) :
    Ledger about Closed held' next (log ++ es) :=
  ((h.perm hfrom).advance hes).perm hto.symm

/-- A step that concerns one held ticket and closes it. -/
theorem settle (hclosed : Closed i (st ++ story about i es)) (hto : held'.Perm rest) :
    Ledger about Closed held' next (log ++ es) :=
  ((h.perm hfrom).close hes hclosed).perm hto.symm

end Move

section MoveAll

variable {rest : List (Nat × List β)} (h : Ledger about Closed held next log)
  (hfrom : held.Perm ((i, st) :: rest)) (hall : ∀ e ∈ es, about e = some i)

include h hfrom hall

/-- `carry` for a step that concerns nothing else. -/
theorem carry_all (hto : held'.Perm ((i, st ++ es) :: rest)) :
    Ledger about Closed held' next (log ++ es) := by
  refine h.carry hfrom (fun e he j hj => ?_) ?_
  · exact Option.some.inj (hj.symm.trans (hall e he))
  · rwa [story_eq_self hall]

/-- `settle` for a step that concerns nothing else. -/
theorem settle_all (hclosed : Closed i (st ++ es)) (hto : held'.Perm rest) :
    Ledger about Closed held' next (log ++ es) := by
  refine h.settle hfrom (fun e he j hj => ?_) ?_ hto
  · exact Option.some.inj (hj.symm.trans (hall e he))
  · rwa [story_eq_self hall]

end MoveAll

end Ledger
