-- Counters of events. A counter of names has each name once, so the counts of
-- some names add up to one number, and one more event of a name adds one to it.
import FeedSearch.Metrics
import Mathlib.Algebra.BigOperators.Group.List.Basic
import Mathlib.Algebra.Ring.Nat
import Mathlib.Data.List.Nodup

namespace FeedSearch.Counts

variable {κ : Type}

/-- The events of all names of a sort. -/
def total (c : Counts κ) (sort : κ → Bool) : Nat := ((c.filter fun e => sort e.1).map (·.2)).sum

/-- Every name has one count. -/
def Neat (c : Counts κ) : Prop := (c.map (·.1)).Nodup

theorem total_nil (sort : κ → Bool) : total ([] : Counts κ) sort = 0 := rfl

theorem total_cons (e : κ × Nat) (c : Counts κ) (sort : κ → Bool) :
    total (e :: c) sort = (if sort e.1 then e.2 else 0) + total c sort := by
  unfold total
  by_cases he : sort e.1 = true
  · simp [he]
  · simp [he]

theorem total_append (c c' : Counts κ) (sort : κ → Bool) :
    total (c ++ c') sort = total c sort + total c' sort := by
  simp [total]

/-- Names without counts add nothing. -/
theorem total_of_notMem {c : Counts κ} {sort : κ → Bool} (h : ∀ k ∈ c.map (·.1), sort k = false) :
    total c sort = 0 := by
  have hnone : c.filter (fun e => sort e.1) = [] := by
    rw [List.filter_eq_nil_iff]
    intro e he
    rw [h e.1 (List.mem_map_of_mem he)]
    decide
  unfold total
  rw [hnone]
  rfl

/-! ## One more event -/

variable [BEq κ]

/-- One more event for every count of a name. -/
def raise (c : Counts κ) (k : κ) : Counts κ := c.map fun e => if e.1 == k then (e.1, e.2 + 1) else e

theorem raise_names (c : Counts κ) (k : κ) : (c.raise k).map (·.1) = c.map (·.1) := by
  unfold raise
  rw [List.map_map]
  apply List.map_congr_left
  intro e _
  rw [Function.comp_apply]
  split <;> rfl

variable [LawfulBEq κ]

theorem lookup_eq_none_iff (c : Counts κ) (k : κ) : c.lookup k = none ↔ k ∉ c.map (·.1) := by
  rw [List.lookup_eq_none_iff]
  constructor
  · intro h hk
    obtain ⟨e, he, rfl⟩ := List.mem_map.mp hk
    simpa using h e he
  · intro h e he
    rw [bne_iff_ne]
    rintro rfl
    exact h (List.mem_map_of_mem he)

theorem add_eq (c : Counts κ) (k : κ) :
    c.add k = if k ∈ c.map (·.1) then c.raise k else c ++ [(k, 1)] := by
  unfold add
  cases hfound : c.lookup k with
  | none =>
    rw [if_neg ((lookup_eq_none_iff c k).mp hfound)]
  | some n =>
    have hk : k ∈ c.map (·.1) := by
      by_contra hk
      rw [(lookup_eq_none_iff c k).mpr hk] at hfound
      cases hfound
    rw [if_pos hk]
    rfl

theorem raise_of_notMem {c : Counts κ} {k : κ} (hk : k ∉ c.map (·.1)) : c.raise k = c := by
  have hsame : ∀ e ∈ c, (if e.1 == k then (e.1, e.2 + 1) else e) = id e := by
    intro e he
    have hne : e.1 ≠ k := by
      rintro rfl
      exact hk (List.mem_map_of_mem he)
    rw [if_neg (by simpa using hne)]
    rfl
  unfold raise
  rw [List.map_congr_left hsame, List.map_id]

theorem total_raise {c : Counts κ} {k : κ} (sort : κ → Bool) (hneat : c.Neat)
    (hk : k ∈ c.map (·.1)) : (c.raise k).total sort = c.total sort + if sort k then 1 else 0 := by
  induction c with
  | nil => cases hk
  | cons e c ih =>
    have hrest : e.1 ∉ c.map (·.1) ∧ Neat c := List.nodup_cons.mp hneat
    have hcons : raise (e :: c) k = (if e.1 == k then (e.1, e.2 + 1) else e) :: raise c k := rfl
    rw [hcons, total_cons, total_cons]
    by_cases he : e.1 = k
    · subst he
      rw [raise_of_notMem hrest.1, if_pos (beq_self_eq_true _)]
      dsimp only
      split <;> omega
    · have hmem : k ∈ c.map (·.1) := by simpa [Ne.symm he] using hk
      have hsame : (if e.1 == k then (e.1, e.2 + 1) else e) = e := if_neg (by simpa using he)
      rw [hsame, ih hrest.2 hmem]
      omega

theorem Neat.add {c : Counts κ} (h : c.Neat) (k : κ) : (c.add k).Neat := by
  rw [add_eq]
  by_cases hk : k ∈ c.map (·.1)
  · rw [if_pos hk]
    unfold Neat
    rw [raise_names]
    exact h
  · rw [if_neg hk]
    unfold Neat
    rw [List.map_append]
    exact h.append (List.nodup_singleton k) (List.disjoint_singleton.mpr hk)

/-- An event is counted once, under its name. -/
theorem total_add {c : Counts κ} (h : c.Neat) (k : κ) (sort : κ → Bool) :
    (c.add k).total sort = c.total sort + if sort k then 1 else 0 := by
  rw [add_eq]
  by_cases hk : k ∈ c.map (·.1)
  · rw [if_pos hk, total_raise sort h hk]
  · rw [if_neg hk, total_append, total_cons, total_nil]
    rfl

/-- The count of a name is the total of this name alone. -/
theorem get_eq_total {c : Counts κ} (h : c.Neat) (k : κ) : c.get k = c.total (· == k) := by
  induction c with
  | nil => rfl
  | cons e c ih =>
    have hrest : e.1 ∉ c.map (·.1) ∧ Neat c := List.nodup_cons.mp h
    unfold get
    rw [List.lookup_cons, total_cons]
    by_cases he : e.1 = k
    · subst he
      have hnone : total c (· == e.1) = 0 := by
        apply total_of_notMem
        intro k hk
        apply beq_eq_false_iff_ne.mpr
        rintro rfl
        exact hrest.1 hk
      rw [hnone, beq_self_eq_true]
      rfl
    · have hother : (e.1 == k) = false := beq_eq_false_iff_ne.mpr he
      have hother' : (k == e.1) = false := beq_eq_false_iff_ne.mpr (Ne.symm he)
      rw [hother, hother', ← ih hrest.2, if_neg (by decide), Nat.zero_add]
      rfl

end FeedSearch.Counts
