-- Relevance in exact numbers. Nothing is divided by zero, no score is below zero, more
-- likes or reactions never lower it, and neither does a later creation or an earlier
-- look, but where a leap second at the end of a day overlaps the next day.
import FeedSearch.Proofs.AgesInDays
import Mathlib.Algebra.Order.Field.Rat
import Mathlib.Data.Nat.Cast.Order.Field
import Mathlib.Tactic.GCongr
import Mathlib.Tactic.Positivity

namespace FeedSearch.Search

open Time

/-! ## Exact arithmetic -/

/-- Arithmetic on fractions. -/
def fractions : Arithmetic ℚ where
  ofCount n := n.toNat
  add := (· + ·)
  mul := (· * ·)
  div := (· / ·)

/-- Arithmetic on fractions that has no result where something is divided by zero. -/
def safeFractions : Arithmetic (Option ℚ) where
  ofCount n := some n.toNat
  add x y := x.bind fun p => y.map (p + ·)
  mul x y := x.bind fun p => y.map (p * ·)
  div x y := x.bind fun p => (y.filter (· ≠ 0)).map (p / ·)

namespace Arithmetic

variable {r s : Record}

theorem safeFractions_quotient (m : UInt64) {n : UInt64} (h : n ≠ 0) :
    safeFractions.div (safeFractions.ofCount m) (safeFractions.ofCount n) =
      some (fractions.div (fractions.ofCount m) (fractions.ofCount n)) := by
  have hn : (n.toNat : ℚ) ≠ 0 :=
    Nat.cast_ne_zero.mpr fun hzero => h (UInt64.toNat_inj.mp hzero)
  simp [safeFractions, fractions, hn]

theorem safeFractions_popularity (r : Record) :
    safeFractions.popularity r = some (fractions.popularity r) := by
  unfold popularity videoBoost
  cases r.kind with
  | video =>
    rw [safeFractions_quotient 3 (by decide : (2 : UInt64) ≠ 0),
      safeFractions_quotient r.views (by decide : (1000 : UInt64) ≠ 0),
      safeFractions_quotient r.likes (by decide : (100 : UInt64) ≠ 0)]
    rfl
  | text =>
    rw [safeFractions_quotient r.reactions (by decide : (50 : UInt64) ≠ 0)]
    rfl

theorem safeFractions_quality (r : Record) :
    safeFractions.quality r = some (fractions.quality r) := by
  unfold quality
  cases r.kind with
  | video =>
    by_cases h : r.views = 0
    · simp only [h, beq_self_eq_true, if_true]
      rfl
    · simp only [beq_eq_false_iff_ne.mpr h, safeFractions_quotient r.likes h]
      rfl
  | text =>
    by_cases h : r.readingTime = 0
    · simp only [h, beq_self_eq_true, if_true]
      rfl
    · simp only [beq_eq_false_iff_ne.mpr h, safeFractions_quotient r.reactions h]
      rfl

/-- No score divides by zero. -/
theorem safeFractions_relevance (r : Record) (now : Moment) :
    safeFractions.relevance r now = some (fractions.relevance r now) := by
  unfold relevance
  rw [safeFractions_popularity, safeFractions_quality]
  rfl

/-! ## Parts of a score -/

theorem popularity_nonneg (r : Record) : 0 ≤ fractions.popularity r := by
  unfold popularity videoBoost fractions
  cases r.kind <;> dsimp only <;> positivity

theorem recency_nonneg (r : Record) (now : Moment) : 0 ≤ fractions.recency r now :=
  Nat.cast_nonneg _

theorem quality_nonneg (r : Record) : 0 ≤ fractions.quality r := by
  unfold quality fractions
  cases r.kind <;> dsimp only <;> split <;> positivity

theorem ofCount_le {m n : UInt64} (h : m ≤ n) : fractions.ofCount m ≤ fractions.ofCount n :=
  Nat.cast_le.mpr (UInt64.le_iff_toNat_le.mp h)

/-- One record has all that another has, and as much of what readers give or more. -/
structure NoLessLiked (r s : Record) : Prop where
  kind : s.kind = r.kind
  views : s.views = r.views
  readingTime : s.readingTime = r.readingTime
  likes : r.likes ≤ s.likes
  reactions : r.reactions ≤ s.reactions

theorem NoLessLiked.popularity (h : NoLessLiked r s) :
    fractions.popularity r ≤ fractions.popularity s := by
  have hlikes := ofCount_le h.likes
  have hreactions := ofCount_le h.reactions
  unfold Arithmetic.popularity videoBoost
  rw [h.kind, h.views, h.readingTime]
  unfold fractions at *
  cases r.kind <;> dsimp only at * <;> gcongr

theorem NoLessLiked.quality (h : NoLessLiked r s) :
    fractions.quality r ≤ fractions.quality s := by
  have hlikes := ofCount_le h.likes
  have hreactions := ofCount_le h.reactions
  unfold Arithmetic.quality
  rw [h.kind, h.views, h.readingTime]
  unfold fractions at *
  cases r.kind <;> dsimp only at * <;> split <;> gcongr

/-! ## Points for an age -/

/-- An age that is within the days within which another is has no fewer points. -/
theorem recencyPoints_le {age other : Int}
    (h : ∀ days, other ≤ daysInNanos days → age ≤ daysInNanos days) :
    recencyPoints other ≤ recencyPoints age := by
  unfold recencyPoints
  by_cases hweek : other ≤ daysInNanos 7
  · rw [if_pos hweek, if_pos (h 7 hweek)]
    exact UInt64.le_refl _
  by_cases hmonth : other ≤ daysInNanos 30
  · rw [if_neg hweek, if_pos hmonth, if_pos (h 30 hmonth)]
    split_ifs <;> decide
  by_cases hquarter : other ≤ daysInNanos 90
  · rw [if_neg hweek, if_neg hmonth, if_pos hquarter, if_pos (h 90 hquarter)]
    split_ifs <;> decide
  · rw [if_neg hweek, if_neg hmonth, if_neg hquarter]
    exact UInt64.le_iff_toNat_le.mpr (Nat.zero_le _)

/-- An age of a week at most has more points than a longer one. -/
theorem recencyPoints_lt {age other : Int} (h : age ≤ daysInNanos 7)
    (hother : ¬ other ≤ daysInNanos 7) : recencyPoints other < recencyPoints age := by
  unfold recencyPoints
  rw [if_pos h, if_neg hother]
  split_ifs <;> decide

variable {a b : Moment}

/-- What is created at a later place has no fewer points at any time, and only that. -/
theorem recencyPoints_le_iff_of_created (ha : a.IsSound) (hb : b.IsSound) :
    (∀ now : Moment, now.IsSound →
      recencyPoints (now.sinceNanos a) ≤ recencyPoints (now.sinceNanos b)) ↔
        a.place ≤ b.place := by
  constructor
  · intro h
    by_contra hplace
    have hnow := ha.daysLater 7
    have hwithin : (a.daysLater 7).sinceNanos a ≤ daysInNanos 7 := by
      rw [Moment.sinceNanos_le_iff hnow ha, Moment.place_daysLater]
      exact Int.le_refl _
    have hbeyond : ¬ (a.daysLater 7).sinceNanos b ≤ daysInNanos 7 := by
      rw [Moment.sinceNanos_le_iff hnow hb, Moment.place_daysLater]
      omega
    exact UInt64.not_le.mpr (recencyPoints_lt hwithin hbeyond) (h _ hnow)
  · intro hplace now hnow
    apply recencyPoints_le
    intro days
    rw [Moment.sinceNanos_le_iff hnow ha, Moment.sinceNanos_le_iff hnow hb]
    omega

/-- What is looked at from a later place has no more points whenever it was created, and only
then. -/
theorem recencyPoints_le_iff_of_looked (ha : a.IsSound) (hb : b.IsSound) :
    (∀ created : Moment, created.IsSound →
      recencyPoints (b.sinceNanos created) ≤ recencyPoints (a.sinceNanos created)) ↔
        a.place ≤ b.place := by
  constructor
  · intro h
    by_contra hplace
    have hcreated := hb.daysLater (-7)
    have hwithin : b.sinceNanos (b.daysLater (-7)) ≤ daysInNanos 7 := by
      rw [Moment.sinceNanos_le_iff hb hcreated, Moment.place_daysLater]
      omega
    have hbeyond : ¬ a.sinceNanos (b.daysLater (-7)) ≤ daysInNanos 7 := by
      rw [Moment.sinceNanos_le_iff ha hcreated, Moment.place_daysLater]
      omega
    exact UInt64.not_le.mpr (recencyPoints_lt hwithin hbeyond) (h _ hcreated)
  · intro hplace created hcreated
    apply recencyPoints_le
    intro days
    rw [Moment.sinceNanos_le_iff ha hcreated, Moment.sinceNanos_le_iff hb hcreated]
    omega

/-! ## Scores -/

theorem relevance_nonneg (r : Record) (now : Moment) : 0 ≤ fractions.relevance r now :=
  add_nonneg (add_nonneg (popularity_nonneg r) (recency_nonneg r now)) (quality_nonneg r)

theorem NoLessLiked.relevance (h : NoLessLiked r s) (hcreated : s.createdAt = r.createdAt)
    (now : Moment) : fractions.relevance r now ≤ fractions.relevance s now := by
  have hrecency : fractions.recency r now = fractions.recency s now := by
    rw [recency, recency, hcreated]
  exact add_le_add (add_le_add h.popularity hrecency.le) h.quality

/-- Of the same record, created at one or another time and looked at at one or another time, the
points for its age decide. -/
theorem relevance_le_iff (r : Record) (created now created' now' : Moment) :
    fractions.relevance { r with createdAt := created } now ≤
        fractions.relevance { r with createdAt := created' } now' ↔
      recencyPoints (now.sinceNanos created) ≤ recencyPoints (now'.sinceNanos created') := by
  have hscore (created now : Moment) : fractions.relevance { r with createdAt := created } now =
      fractions.popularity r + (recencyPoints (now.sinceNanos created)).toNat +
        fractions.quality r := rfl
  rw [hscore, hscore, add_le_add_iff_right, add_le_add_iff_left, Nat.cast_le,
    UInt64.le_iff_toNat_le]

end Arithmetic

/-! ## The law -/

open Arithmetic

/-- Scores in exact numbers. No score divides by zero or is below zero, and none depends on how a
record is named or what it scored before. A video with more likes and a text with more reactions
score no less. Of two moments a record that was created at the later one scores no less than one of
the earlier, whenever both are looked at, and a look at the later one finds no higher score than a
look at the earlier, unless the later moment overlaps the leap second of the earlier. For these
moments alone it may be otherwise. -/
theorem scores_are_fair_unless_leap_seconds_overlap :
    (∀ (r : Record) (now : Moment),
      safeFractions.relevance r now = some (fractions.relevance r now) ∧
      0 ≤ fractions.relevance r now ∧
      (∀ id providerId provider title score,
        fractions.relevance { r with id, providerId, provider, title, score } now =
          fractions.relevance r now) ∧
      (r.kind = .video → ∀ likes, r.likes ≤ likes →
        fractions.relevance r now ≤ fractions.relevance { r with likes } now) ∧
      (r.kind = .text → ∀ reactions, r.reactions ≤ reactions →
        fractions.relevance r now ≤ fractions.relevance { r with reactions } now)) ∧
    ∀ (r : Record) (earlier later : Moment), earlier.IsSound → later.IsSound →
      earlier.order later = .lt →
        ((∀ now : Moment, now.IsSound →
          fractions.relevance { r with createdAt := earlier } now ≤
            fractions.relevance { r with createdAt := later } now) ↔ ¬ earlier.Overlaps later) ∧
        ((∀ createdAt : Moment, createdAt.IsSound →
          fractions.relevance { r with createdAt } later ≤
            fractions.relevance { r with createdAt } earlier) ↔ ¬ earlier.Overlaps later) := by
  constructor
  · intro r now
    refine ⟨safeFractions_relevance r now, relevance_nonneg r now,
      fun id providerId provider title score => rfl, fun _ likes hlikes => ?_,
      fun _ reactions hreactions => ?_⟩
    · have hliked : NoLessLiked r { r with likes } := ⟨rfl, rfl, rfl, hlikes, UInt64.le_refl _⟩
      exact hliked.relevance rfl now
    · have hliked : NoLessLiked r { r with reactions } :=
        ⟨rfl, rfl, rfl, UInt64.le_refl _, hreactions⟩
      exact hliked.relevance rfl now
  · intro r earlier later hearlier hlater horder
    simp only [relevance_le_iff]
    rw [recencyPoints_le_iff_of_created hearlier hlater,
      recencyPoints_le_iff_of_looked hearlier hlater,
      Moment.place_le_iff hearlier hlater horder]
    exact ⟨Iff.rfl, Iff.rfl⟩

/-- Seven days after a leap second, a record that was created in it has more points than a newer one
of the second that follows; and a record has more points once the leap second of its seventh day is
over than within it. -/
theorem an_overlapping_leap_second_turns_scores :
    let r := Record.unseen "p" "p_1" ""
    let created : Moment := ⟨1483228799, 1900000000⟩
    let newer : Moment := ⟨1483228800, 0⟩
    let now : Moment := ⟨1483833600, 700000000⟩
    let sooner : Moment := ⟨1483833599, 1500000000⟩
    let later : Moment := ⟨1483833600, 0⟩
    (created.text = "2016-12-31T23:59:60.900Z" ∧ newer.text = "2017-01-01T00:00:00Z" ∧
      created.order newer = .lt ∧
      fractions.relevance { r with createdAt := newer } now <
        fractions.relevance { r with createdAt := created } now) ∧
    sooner.text = "2017-01-07T23:59:60.500Z" ∧ later.text = "2017-01-08T00:00:00Z" ∧
      sooner.order later = .lt ∧
      fractions.relevance { r with createdAt := newer } sooner <
        fractions.relevance { r with createdAt := newer } later := by
  intro r created newer now sooner later
  have hcreated : fractions.relevance { r with createdAt := newer } now <
      fractions.relevance { r with createdAt := created } now := by
    rw [← not_le, relevance_le_iff]
    decide
  have hlooked : fractions.relevance { r with createdAt := newer } sooner <
      fractions.relevance { r with createdAt := newer } later := by
    rw [← not_le, relevance_le_iff]
    decide
  exact ⟨⟨by decide +kernel, by decide +kernel, by decide, hcreated⟩, by decide +kernel,
    by decide +kernel, by decide, hlooked⟩

/-- The earlier moment is half a second into a leap second, and the later one as far into the next
day, so nothing overlaps. The video has no views and the text has the shortest reading time. -/
theorem scores_are_fair_half_a_second_after_midnight :
    let earlier : Moment := ⟨1483228799, 1500000000⟩
    let later : Moment := ⟨1483228800, 500000000⟩
    let now : Moment := ⟨1483833600, 500000000⟩
    let video : Record := { Record.unseen "p" "p_1" "" with kind := .video, createdAt := earlier }
    let text : Record := { Record.unseen "p" "p_2" "" with readingTime := 1, createdAt := later }
    earlier.IsSound ∧ later.IsSound ∧ now.IsSound ∧ earlier.order later = .lt ∧
      ¬ earlier.Overlaps later ∧
      fractions.relevance video now ≤ fractions.relevance { video with createdAt := later } now ∧
      fractions.relevance text later ≤ fractions.relevance text earlier ∧
      fractions.relevance video now ≤
        fractions.relevance { video with likes := 0xFFFFFFFFFFFFFFFF } now ∧
      fractions.relevance text now ≤
        fractions.relevance { text with reactions := 0xFFFFFFFFFFFFFFFF } now := by
  intro earlier later now video text
  have hearlier : earlier.IsSound := Moment.IsTold.isSound ⟨by decide +kernel, Or.inr (by decide)⟩
  have hlater : later.IsSound := Moment.IsTold.isSound ⟨by decide +kernel, Or.inl (by decide)⟩
  have hnow : now.IsSound := Moment.IsTold.isSound ⟨by decide +kernel, Or.inl (by decide)⟩
  have hapart : ¬ earlier.Overlaps later := fun h => absurd h.behind (by decide)
  obtain ⟨hcounters, hmoments⟩ := scores_are_fair_unless_leap_seconds_overlap
  obtain ⟨hcreated, -⟩ := hmoments video earlier later hearlier hlater (by decide)
  obtain ⟨-, hlooked⟩ := hmoments text earlier later hearlier hlater (by decide)
  obtain ⟨-, -, -, hlikes, -⟩ := hcounters video now
  obtain ⟨-, -, -, -, hreactions⟩ := hcounters text now
  exact ⟨hearlier, hlater, hnow, by decide, hapart, hcreated.mpr hapart now hnow,
    hlooked.mpr hapart later hlater, hlikes rfl _ (by decide), hreactions rfl _ (by decide)⟩

end FeedSearch.Search
