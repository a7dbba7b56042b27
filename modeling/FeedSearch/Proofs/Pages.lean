-- The pages of a list: what the first page holds, when it holds the whole list, and
-- what the pages give one after another. Counts stop at the largest number of 64
-- bits, so a list that is longer has no page that holds it.
import FeedSearch.Search.Paging

namespace FeedSearch.Search

variable {α : Type}

/-! ## Counts of 64 bits -/

theorem saturate_of_le {n : Nat} (h : n ≤ Number.maxCount) : saturate n = n :=
  Nat.min_eq_left h

/-! ## The first page -/

@[simp] theorem pageStart_one (pageSize : Nat) : pageStart 1 pageSize = 0 := by
  simp [pageStart, saturate]

/-- The first page is the front of the list. -/
theorem paginate_one (all : List α) (pageSize : Nat) :
    paginate all 1 pageSize = all.take (saturate pageSize) := by
  unfold paginate
  simp only [pageStart_one, List.drop_zero, Nat.zero_add, Nat.sub_zero]
  rcases Nat.le_total (saturate pageSize) all.length with h | h
  · rw [Nat.min_eq_left h]
  · rw [Nat.min_eq_right h, List.take_length, List.take_of_length_le h]

/-- A first page with as many items as the list is the list. -/
theorem paginate_one_of_length (all : List α) (pageSize : Nat)
    (h : (paginate all 1 pageSize).length = all.length) : paginate all 1 pageSize = all := by
  rw [paginate_one] at h ⊢
  rw [List.length_take] at h
  exact List.take_of_length_le (by omega)

/-- A first page of any size that 64 bits can count is that many items. -/
theorem paginate_one_of_le (all : List α) {n : Nat} (h : n ≤ Number.maxCount) :
    paginate all 1 n = all.take n := by
  rw [paginate_one, saturate_of_le h]

/-! ## The length of a page -/

theorem paginate_length_le (all : List α) (page pageSize : Nat) :
    (paginate all page pageSize).length ≤ Number.maxCount := by
  have hstop : saturate (pageStart page pageSize + pageSize) ≤ Number.maxCount :=
    Nat.min_le_right _ _
  unfold paginate
  simp only [List.length_take]
  omega

/-! ## All pages -/

/-- A page, if the list can be counted. -/
theorem paginate_succ {all : List α} (h : all.length ≤ Number.maxCount) (n pageSize : Nat) :
    paginate all (n + 1) pageSize = (all.drop (n * pageSize)).take pageSize := by
  unfold paginate pageStart
  rw [Nat.add_sub_cancel]
  by_cases hstart : n * pageSize ≤ Number.maxCount
  · rw [saturate_of_le hstart]
    have hstop : min (saturate (n * pageSize + pageSize)) all.length =
        min (n * pageSize + pageSize) all.length := by
      unfold saturate
      omega
    simp only [hstop]
    rw [List.take_eq_take_iff, List.length_drop]
    omega
  · have hsaturated : saturate (n * pageSize) = Number.maxCount :=
      Nat.min_eq_right (Nat.le_of_not_le hstart)
    have hbeyond : all.length ≤ n * pageSize := by omega
    simp only [hsaturated]
    rw [List.drop_eq_nil_of_le h, List.drop_eq_nil_of_le hbeyond, List.take_nil, List.take_nil]

/-- The first pages of a list, one after another, are its front. -/
theorem flatMap_paginate {all : List α} (h : all.length ≤ Number.maxCount) (pageSize n : Nat) :
    (List.range n).flatMap (fun i => paginate all (i + 1) pageSize) = all.take (n * pageSize) := by
  induction n with
  | zero => simp
  | succ n ih =>
    rw [List.range_succ, List.flatMap_append, ih, List.flatMap_singleton, paginate_succ h,
      Nat.succ_mul, List.take_add]

end FeedSearch.Search
