-- Sorted lists. A comparison that is transitive and total puts every list in order. A
-- list in which no two members tie has one order alone, in whatever order they came.

namespace FeedSearch

variable {α : Type} {le : α → α → Bool}

/-- A comparison by which lists can be sorted. -/
structure Sorts (le : α → α → Bool) : Prop where
  trans : ∀ a b c, le a b = true → le b c = true → le a c = true
  total : ∀ a b, (le a b || le b a) = true

namespace Sorts

/-- Lists can be sorted by a number that belongs to every member. -/
theorem of_key (key : α → Nat) : Sorts fun a b => decide (key a ≤ key b) where
  trans _ _ _ hab hbc :=
    decide_eq_true (Nat.le_trans (of_decide_eq_true hab) (of_decide_eq_true hbc))
  total a b := by simpa using Nat.le_total (key a) (key b)

theorem sorted (h : Sorts le) (l : List α) : (l.mergeSort le).Pairwise (le · · = true) :=
  List.pairwise_mergeSort h.trans h.total l

/-- A list without ties, in its order, is what every other order of it is sorted into. -/
theorem eq_of_perm (h : Sorts le) {l ordered : List α} (hperm : ordered.Perm l)
    (hordered : ordered.Pairwise fun a b => le b a = false) : l.mergeSort le = ordered := by
  have hsorted : ordered.Pairwise (le · · = true) := by
    refine hordered.imp fun {a b} hba => ?_
    have hsome := h.total a b
    rwa [hba, Bool.or_false] at hsome
  have hall : (l.mergeSort le).Perm ordered := (List.mergeSort_perm l le).trans hperm.symm
  refine hall.eq_of_pairwise (fun a b ha hb hab hba => ?_) (h.sorted l) hsorted
  -- two members that may stand either way stand in one place
  obtain ⟨i, hi, rfl⟩ := List.mem_iff_getElem.mp (hall.mem_iff.mp ha)
  obtain ⟨j, hj, rfl⟩ := List.mem_iff_getElem.mp hb
  rcases Nat.lt_trichotomy i j with hij | rfl | hij
  · have hnot := List.pairwise_iff_getElem.mp hordered i j hi hj hij
    rw [hba] at hnot
    cases hnot
  · rfl
  · have hnot := List.pairwise_iff_getElem.mp hordered j i hj hi hij
    rw [hab] at hnot
    cases hnot

end Sorts

end FeedSearch
