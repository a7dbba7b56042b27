-- The pages of a search, one after another: the wanted rows, each of them once, in the
-- order that the request asks for. No two rows of a store have one id, so no two of
-- them tie for good, and the rows alone decide how they are ordered, not the batches
-- in which they came.
import FeedSearch.Proofs.RenamedStores
import FeedSearch.Proofs.WantedRows
import Mathlib.Algebra.Ring.Nat
import Mathlib.Data.List.Nodup

namespace FeedSearch

/-! ## Scores -/

namespace Score

/-- The size of a number, in units of the smallest one, from all its bits but the sign. -/
def unitsOf (n : Nat) : Nat :=
  if n / Number.fractionSize = 0 then n % Number.fractionSize
  else (Number.fractionSize + n % Number.fractionSize) * 2 ^ (n / Number.fractionSize - 1)

/-- The size of a score in units of the smallest number. An infinite one is larger than all others,
and what is no number larger still. -/
def units (s : Score) : Nat :=
  let exponent := Number.exponentField s.bits
  let fraction := Number.fractionField s.bits
  if exponent = 0 then fraction else (Number.fractionSize + fraction) * 2 ^ (exponent - 1)

/-- The total order of IEEE 754: numbers with a minus sign come before those without one, the
largest of them first, and zero with a minus sign before zero. -/
def TotalBelow (a b : Score) : Prop :=
  match Number.hasMinus a.bits, Number.hasMinus b.bits with
  | true, true => b.units < a.units
  | true, false => True
  | false, true => False
  | false, false => a.units < b.units

theorem unitsOf_strictMono : StrictMono unitsOf := by
  refine strictMono_nat_of_lt_succ fun n => ?_
  unfold unitsOf Number.fractionSize
  by_cases hsame : (n + 1) / 0x10000000000000 = n / 0x10000000000000
  · have hfraction : (n + 1) % 0x10000000000000 = n % 0x10000000000000 + 1 := by omega
    rw [hsame, hfraction]
    split
    · exact Nat.lt_succ_self _
    · exact Nat.mul_lt_mul_of_pos_right (by omega) (Nat.two_pow_pos _)
  · -- the fraction runs over, and the next exponent begins
    obtain ⟨e, he⟩ : ∃ e, n / 0x10000000000000 = e := ⟨_, rfl⟩
    have hnext : (n + 1) / 0x10000000000000 = e + 1 := by omega
    have hfraction : (n + 1) % 0x10000000000000 = 0 := by omega
    have hfull : n % 0x10000000000000 < 0x10000000000000 := Nat.mod_lt _ (by decide)
    rw [he, hnext, hfraction, if_neg (Nat.succ_ne_zero e), Nat.add_sub_cancel]
    cases e with
    | zero => simpa using hfull
    | succ e =>
      rw [if_neg (Nat.succ_ne_zero e), Nat.add_sub_cancel, Nat.pow_succ, ← Nat.mul_assoc,
        Nat.mul_right_comm]
      exact Nat.mul_lt_mul_of_pos_right (by omega) (Nat.two_pow_pos e)

/-- The bits of a score but for its sign. -/
theorem units_eq (s : Score) : s.units = unitsOf (s.bits.toNat % Number.signSize) := by
  have hexponent : Number.exponentField s.bits =
      s.bits.toNat % Number.signSize / Number.fractionSize := by
    simp only [Number.exponentField, Number.signSize, Number.fractionSize, Number.topExponent]
    omega
  have hfraction : Number.fractionField s.bits =
      s.bits.toNat % Number.signSize % Number.fractionSize := by
    simp only [Number.fractionField, Number.signSize, Number.fractionSize]
    omega
  rw [units, hexponent, hfraction, unitsOf]

theorem rank_lt_iff {a b : Score} : a.rank < b.rank ↔ a.TotalBelow b := by
  have ha := a.bits.toNat_lt
  have hb := b.bits.toNat_lt
  unfold TotalBelow
  simp only [units_eq, unitsOf_strictMono.lt_iff_lt, rank, Number.hasMinus, Number.signSize]
  by_cases hminus : 0x8000000000000000 ≤ a.bits.toNat <;>
    by_cases hminus' : 0x8000000000000000 ≤ b.bits.toNat <;> simp [hminus, hminus'] <;> omega

end Score

namespace Store

/-! ## The order of rows -/

/-- Whether the value of one record under a key is below that of another. -/
def Below : SortKey → Record → Record → Prop
  | .score, a, b => a.score.TotalBelow b.score
  | .createdAt, a, b => a.createdAt.seconds < b.createdAt.seconds ∨
      a.createdAt.seconds = b.createdAt.seconds ∧ a.createdAt.nanos < b.createdAt.nanos
  | .popularity, a, b => a.views < b.views ∨ a.views = b.views ∧ a.likes < b.likes

/-- Whether neither of two records is below the other, and the first has the smaller id. -/
def TieGoesTo (key : SortKey) (a b : Record) : Prop :=
  ¬Below key a b ∧ ¬Below key b a ∧ ∃ i j, a.id = some i ∧ b.id = some j ∧ i < j

/-- The order that a request asks for. -/
def Precedes (key : SortKey) : SortOrder → Record → Record → Prop
  | .ascending, a, b => Below key a b ∨ TieGoesTo key a b
  | .descending, a, b => Below key b a ∨ TieGoesTo key a b

theorem below_iff {key : SortKey} {a b : Record} :
    Below key a b ↔ sortValue key a < sortValue key b := by
  cases key with
  | score => simp [Below, sortValue, Prod.Lex.toLex_lt_toLex, Score.rank_lt_iff]
  | createdAt => simp [Below, sortValue, Prod.Lex.toLex_lt_toLex]
  | popularity =>
    simp only [Below, sortValue, Prod.Lex.toLex_lt_toLex, UInt64.lt_iff_toNat_lt, Int.ofNat_lt,
      Int.natCast_inj, UInt64.toNat_inj]

theorem tieGoesTo_iff {key : SortKey} {a b : Record} {i j : Int} (ha : a.id = some i)
    (hb : b.id = some j) :
    TieGoesTo key a b ↔ sortValue key a = sortValue key b ∧ i < j := by
  have hids : (∃ i j, a.id = some i ∧ b.id = some j ∧ i < j) ↔ i < j := by simp [ha, hb]
  rw [TieGoesTo, hids, below_iff, below_iff, not_lt, not_lt, le_antisymm_iff, ← and_assoc]
  exact and_congr_left' and_comm

/-- Of two rows with different ids one comes before the other, and not the other way round. -/
theorem precedes_iff_not {key : SortKey} {order : SortOrder} {a b : Record} {i j : Int}
    (ha : a.id = some i) (hb : b.id = some j) (hne : i ≠ j) :
    Precedes key order a b ↔ ¬Precedes key order b a := by
  cases order with
  | ascending =>
    simp only [Precedes, below_iff, tieGoesTo_iff ha hb, tieGoesTo_iff hb ha]
    rcases lt_trichotomy (sortValue key a) (sortValue key b) with h | h | h
    · simp [h, h.not_gt, h.ne']
    · simp [h]; omega
    · simp [h, h.not_gt, h.ne']
  | descending =>
    simp only [Precedes, below_iff, tieGoesTo_iff ha hb, tieGoesTo_iff hb ha]
    rcases lt_trichotomy (sortValue key a) (sortValue key b) with h | h | h
    · simp [h, h.not_gt, h.ne]
    · simp [h]; omega
    · simp [h, h.not_gt, h.ne]

/-- What the comparison does not put last comes first. -/
theorem precedes_of_compareRows {key : SortKey} {order : SortOrder} {a b : Record} {i j : Int}
    (ha : a.id = some i) (hb : b.id = some j) (hne : i ≠ j)
    (h : compareRows key order a b ≠ .gt) : Precedes key order a b := by
  have hvalues := mayPrecede_of_compareRows h
  by_cases htie : sortValue key a = sortValue key b
  · have heq : directed order (compareBy key a b) = .eq := by
      rw [compareBy_tie.mpr htie]
      cases order <;> rfl
    have hids : compare i j ≠ .gt := by
      simpa only [compareRows, heq, ha, hb, compareIds, Ordering.then_eq, Ordering.eq_then] using h
    have hlt : i < j := lt_of_le_of_ne (compare_le_iff_le.mp hids) hne
    cases order with
    | ascending => exact Or.inr ((tieGoesTo_iff ha hb).mpr ⟨htie, hlt⟩)
    | descending => exact Or.inr ((tieGoesTo_iff ha hb).mpr ⟨htie, hlt⟩)
  · cases order with
    | ascending => exact Or.inl (below_iff.mpr (lt_of_le_of_ne hvalues htie))
    | descending => exact Or.inl (below_iff.mpr (lt_of_le_of_ne hvalues (Ne.symm htie)))

/-! ## The rows of a store -/

section Rows

variable {taken : List Record} {s : Store} {a b : Record}

theorem Booked.rows_nodup (h : Booked taken s) : s.rows.Nodup :=
  .of_map Record.naturalKey (h.keys ▸ keysOf_nodup taken)

/-- Every row has an id, and no two rows have the same. -/
theorem Booked.ids_ne (h : Booked taken s) (ha : a ∈ s.rows) (hb : b ∈ s.rows) (hne : a ≠ b) :
    ∃ i j, a.id = some i ∧ b.id = some j ∧ i ≠ j := by
  rw [Store.rows, h.byId_eq, List.map_map] at ha hb
  obtain ⟨key, hkey, rfl⟩ := List.mem_map.mp ha
  obtain ⟨other, _, rfl⟩ := List.mem_map.mp hb
  refine ⟨rank taken key, rank taken other, rfl, rfl, fun heq => hne ?_⟩
  rw [rank_inj hkey heq]

theorem Booked.precedes_iff_not (h : Booked taken s) {key : SortKey} {order : SortOrder}
    (ha : a ∈ s.rows) (hb : b ∈ s.rows) (hne : a ≠ b) :
    Precedes key order a b ↔ ¬Precedes key order b a := by
  obtain ⟨i, j, hi, hj, hij⟩ := h.ids_ne ha hb hne
  exact Store.precedes_iff_not hi hj hij

theorem Booked.hits_nodup (h : Booked taken s) (r : Request) : (s.hits r).Nodup :=
  (hits_perm s r).nodup_iff.mpr (h.rows_nodup.filter _)

theorem Booked.hits_precede (h : Booked taken s) (r : Request) :
    (s.hits r).Pairwise (Precedes r.sortBy r.sortOrder) := by
  refine ((hits_sorted s r).and (h.hits_nodup r)).imp_of_mem fun ha hb ⟨hle, hne⟩ => ?_
  obtain ⟨i, j, hi, hj, hij⟩ := h.ids_ne (mem_hits.mp ha).1 (mem_hits.mp hb).1 hne
  exact precedes_of_compareRows hi hj hij hle

/-- Two stores that hold the same wanted rows give them in the same order. -/
theorem Booked.hits_eq {taken' : List Record} {t : Store} (h : Booked taken s)
    (h' : Booked taken' t) {r : Request}
    (hsame : ∀ row, Wanted r row → (row ∈ t.rows ↔ row ∈ s.rows)) : t.hits r = s.hits r := by
  have hperm : (t.hits r).Perm (s.hits r) := by
    rw [List.perm_ext_iff_of_nodup (h'.hits_nodup r) (h.hits_nodup r)]
    intro row
    rw [mem_hits, mem_hits]
    exact and_congr_left fun hwanted => hsame row hwanted
  refine hperm.eq_of_pairwise (fun a b ha hb hab hba => ?_) (h'.hits_precede r) (h.hits_precede r)
  by_contra hne
  exact (h.precedes_iff_not (mem_hits.mp (hperm.mem_iff.mp ha)).1 (mem_hits.mp hb).1 hne).mp hab hba

theorem takeBatches_booked (batches : List (List Record)) :
    Booked (accepted (takeBatches .empty batches).1) (takeBatches .empty batches).2 :=
  (Booked.empty.takeBatches batches).1

end Rows

/-! ## The law -/

/-- The first pages of a request, one after another. -/
def pages (s : Store) (r : Request) (pageSize n : Nat) : List Record :=
  (List.range n).flatMap fun i => (s.search { r with page := i + 1, pageSize }).1

theorem pages_eq {s : Store} {r : Request} {pageSize n : Nat}
    (hcount : (s.search r).2 ≤ Number.maxCount) (hall : (s.search r).2 ≤ n * pageSize) :
    s.pages r pageSize n = s.hits r := by
  have hpages : s.pages r pageSize n = (s.hits r).take (n * pageSize) :=
    Search.flatMap_paginate hcount pageSize n
  rw [hpages, List.take_of_length_le hall]

/-- A store that has taken any batches counts the wanted rows. Any pages of one size that are enough
for so many give them one after another, each of them once, in the order that is asked for, which
puts one of any two rows first. Whatever batches another store has taken, it gives the same pages if
it holds the same wanted rows. -/
theorem the_pages_of_a_search_are_the_wanted_rows_in_order (batches : List (List Record))
    (r : Request) :
    let s := (takeBatches .empty batches).2
    (s.search r).2 = (s.rows.filter (Wanted r ·)).length ∧
    ((s.search r).2 ≤ Number.maxCount → ∀ pageSize n, (s.search r).2 ≤ n * pageSize →
      (s.pages r pageSize n).Perm (s.rows.filter (Wanted r ·)) ∧ (s.pages r pageSize n).Nodup ∧
      (s.pages r pageSize n).Pairwise (Precedes r.sortBy r.sortOrder)) ∧
    (∀ a ∈ s.rows, ∀ b ∈ s.rows, a ≠ b →
      (Precedes r.sortBy r.sortOrder a b ↔ ¬Precedes r.sortBy r.sortOrder b a)) ∧
    ∀ others, let t := (takeBatches .empty others).2
      (∀ row, Wanted r row → (row ∈ t.rows ↔ row ∈ s.rows)) → t.search r = s.search r := by
  intro s
  have hs := takeBatches_booked batches
  refine ⟨(hits_perm s r).length_eq, fun hcount pageSize n hall => ?_,
    fun a ha b hb hne => hs.precedes_iff_not ha hb hne, ?_⟩
  · rw [pages_eq hcount hall]
    exact ⟨hits_perm s r, hs.hits_nodup r, hs.hits_precede r⟩
  · intro others t hsame
    rw [search, search, hs.hits_eq (takeBatches_booked others) hsame]

/-- A post with one view. -/
def seenOnce (providerId title : String) (likes : UInt64) : Record :=
  { Record.unseen "posts" providerId title with views := 1, likes }

/-- Three posts about one thing, and a video about it. -/
def posts : List Record :=
  [seenOnce "1" "Rust" 1, seenOnce "2" "more RUST" 0, seenOnce "3" "rusty" 0,
    { Record.unseen "posts" "4" "rust" with kind := .video }]

/-- The posts as a store may have known them before. -/
def earlierPosts : List Record := posts.map fun r => { r with title := "", views := 0, likes := 0 }

/-- Of three rows with as many views the one with a like comes last, and the two that tie come by
their ids, one row on each page. It is so too if the rows came one by one and were written again. -/
theorem pages_of_one_row_each :
    let s := (takeBatches .empty [posts]).2
    let t := (takeBatches .empty (earlierPosts.map ([·]) ++ [posts.reverse])).2
    let r : Request := ⟨"rust", some .text, 0, 0, .popularity, .ascending⟩
    (s.search r).2 = 3 ∧ (s.pages r 1 3).Pairwise (Precedes .popularity .ascending) ∧
      (s.pages r 1 3).map (·.id) = [some 2, some 3, some 1] ∧ t.search r = s.search r := by
  intro s t r
  obtain ⟨htotal, hpages, _, hothers⟩ :=
    the_pages_of_a_search_are_the_wanted_rows_in_order [posts] r
  have hcount : (s.search r).2 = 3 := htotal.trans (by decide +kernel)
  have hsmall : (s.search r).2 ≤ Number.maxCount := by rw [hcount]; decide
  obtain ⟨_, _, hordered⟩ := hpages hsmall 1 3 (by rw [hcount])
  refine ⟨hcount, hordered, ?_, hothers _ fun row _ => ?_⟩
  · have hhits : s.hits r =
        [{ seenOnce "2" "more RUST" 0 with id := some 2 },
          { seenOnce "3" "rusty" 0 with id := some 3 },
          { seenOnce "1" "Rust" 1 with id := some 1 }] :=
      hits_eq_of_perm (by decide +kernel) (by decide +kernel)
    rw [pages_eq hsmall (by rw [hcount]), hhits]
    rfl
  · have hrows : t.rows = s.rows := by decide +kernel
    rw [hrows]

end Store

end FeedSearch
