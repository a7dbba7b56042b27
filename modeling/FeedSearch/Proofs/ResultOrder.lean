-- The order of results. What a sort key looks at is a value of a linear order, and
-- rows are compared by it, then by their ids; so the rows of every list of hits
-- stand in order. Two lists of the same values can differ in ties alone.
import FeedSearch.Proofs.SortedLists
import FeedSearch.Store
import Mathlib.Data.Prod.Lex

namespace FeedSearch

namespace Store

/-! ## Values -/

/-- What a sort key looks at in a record: two numbers, of which the first decides first. -/
def sortValue (key : SortKey) (r : Record) : Int ×ₗ Int :=
  match key with
  | .score => toLex (r.score.rank, 0)
  | .createdAt => toLex (r.createdAt.seconds, (r.createdAt.nanos : Int))
  | .popularity => toLex ((r.views.toNat : Int), (r.likes.toNat : Int))

theorem compare_natCast (m n : Nat) : compare (m : Int) (n : Int) = compare m n := by
  simp only [compare, compareOfLessAndEq, Int.ofNat_lt, Int.natCast_inj]

theorem compare_toNat (m n : UInt64) : compare m n = compare m.toNat n.toNat := by
  simp only [compare, compareOfLessAndEq, UInt64.lt_iff_toNat_lt, UInt64.toNat_inj]

/-- Records compare as their values do. -/
theorem compareBy_eq (key : SortKey) (a b : Record) :
    compareBy key a b = compare (sortValue key a) (sortValue key b) := by
  rw [Prod.Lex.compare_def]
  cases key with
  | score => simp [compareBy, sortValue, compareLex, compareOn]
  | createdAt =>
    simp [compareBy, sortValue, compareLex, compareOn, Time.Moment.order, compare_natCast]
  | popularity =>
    simp [compareBy, sortValue, compareLex, compareOn, compare_natCast, compare_toNat]

theorem compareBy_tie {key : SortKey} {a b : Record} :
    compareBy key a b = .eq ↔ sortValue key a = sortValue key b := by
  rw [compareBy_eq, compare_eq_iff_eq]

/-! ## Rows -/

instance compareBy_transCmp (key : SortKey) : Std.TransCmp (compareBy key) := by
  have hvalues : compareBy key = compareOn (sortValue key) := by
    funext a b
    exact compareBy_eq key a b
  rw [hvalues]
  infer_instance

instance directed_transCmp (key : SortKey) (order : SortOrder) :
    Std.TransCmp fun a b => directed order (compareBy key a b) := by
  cases order with
  | ascending => exact compareBy_transCmp key
  | descending =>
    have hopposite : (fun a b => directed .descending (compareBy key a b)) =
        fun a b => compareBy key b a := by
      funext a b
      exact Std.OrientedCmp.eq_swap.symm
    rw [hopposite]
    infer_instance

theorem compareIds_eq (a b : Option Int) : compareIds a b = compare a b := by
  cases a <;> cases b <;> rfl

instance compareRows_transCmp (key : SortKey) (order : SortOrder) :
    Std.TransCmp (compareRows key order) := by
  have hlex : compareRows key order =
      compareLex (fun a b => directed order (compareBy key a b)) (compareOn (·.id)) := by
    funext a b
    rw [compareRows, compareIds_eq]
    rfl
  rw [hlex]
  infer_instance

/-- Rows can be sorted by any key in either direction. -/
theorem compareRows_sorts (key : SortKey) (order : SortOrder) :
    Sorts fun a b => compareRows key order a b != .gt where
  trans a b c hab hbc := by
    simp only [bne_iff_ne, ne_eq, ← Ordering.isLE_iff_ne_gt] at hab hbc ⊢
    exact Std.TransCmp.isLE_trans hab hbc
  total a b := by
    have hswap : compareRows key order b a = (compareRows key order a b).swap :=
      Std.OrientedCmp.eq_swap
    rw [hswap]
    cases compareRows key order a b <;> rfl

/-! ## Lists of hits -/

/-- No hit comes before one that the order puts first. -/
theorem hits_sorted (s : Store) (r : Request) :
    (s.hits r).Pairwise fun a b => compareRows r.sortBy r.sortOrder a b ≠ .gt :=
  ((compareRows_sorts r.sortBy r.sortOrder).sorted _).imp bne_iff_ne.mp

/-- Matching rows of which the order puts every one behind those before it are the hits. -/
theorem hits_eq_of_perm {s : Store} {r : Request} {ordered : List Record}
    (h : ordered.Perm (s.rows.filter (isMatch (terms r.query) r.kind)))
    (hordered : ordered.Pairwise fun a b => compareRows r.sortBy r.sortOrder b a = .gt) :
    s.hits r = ordered :=
  (compareRows_sorts r.sortBy r.sortOrder).eq_of_perm h (hordered.imp fun hgt => by simp [hgt])

/-- That a value may stand before another. -/
def MayPrecede : SortOrder → Int ×ₗ Int → Int ×ₗ Int → Prop
  | .ascending, v, w => v ≤ w
  | .descending, v, w => w ≤ v

theorem MayPrecede.antisymm {order : SortOrder} {v w : Int ×ₗ Int} (hvw : MayPrecede order v w)
    (hwv : MayPrecede order w v) : v = w := by
  cases order with
  | ascending => exact le_antisymm hvw hwv
  | descending => exact le_antisymm hwv hvw

theorem mayPrecede_of_compareRows {key : SortKey} {order : SortOrder} {a b : Record}
    (h : compareRows key order a b ≠ .gt) :
    MayPrecede order (sortValue key a) (sortValue key b) := by
  have hfirst : directed order (compareBy key a b) ≠ .gt := by
    intro hgt
    rw [compareRows, hgt] at h
    exact h rfl
  rw [compareBy_eq] at hfirst
  cases order with
  | ascending => exact compare_le_iff_le.mp hfirst
  | descending =>
    refine compare_ge_iff_ge.mp fun hlt => hfirst ?_
    rw [directed, hlt]
    rfl

/-- Hits whose values are the same, in whatever order, have them in the same order. -/
theorem hits_values_eq {s t : Store} {r : Request}
    (h : ((s.hits r).map (sortValue r.sortBy)).Perm ((t.hits r).map (sortValue r.sortBy))) :
    (s.hits r).map (sortValue r.sortBy) = (t.hits r).map (sortValue r.sortBy) := by
  have hsorted : ∀ s : Store,
      ((s.hits r).map (sortValue r.sortBy)).Pairwise (MayPrecede r.sortOrder) := fun s =>
    List.pairwise_map.mpr ((s.hits_sorted r).imp mayPrecede_of_compareRows)
  exact h.eq_of_pairwise (fun _ _ _ _ => MayPrecede.antisymm) (hsorted s) (hsorted t)

end Store

end FeedSearch
