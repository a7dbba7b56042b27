-- Ages over leap seconds. A moment gets a place, and an age is within some days if the
-- places are no further apart. Later moments have later places, but for those that
-- begin a day while the leap second before it is still running.
import FeedSearch.Proofs.StampTexts
import FeedSearch.Search.Relevance
import Mathlib.Tactic.SplitIfs

namespace FeedSearch.Time.Moment

variable {a b : Moment}

/-! ## Places -/

/-- Less than two seconds of nanoseconds, and less than one in the first second of a day, since no
leap second follows on it. -/
structure IsSound (m : Moment) : Prop where
  nanos_lt : m.nanos < 2 * nanosPerSecond
  first : m.secondOfDay = 0 → m.nanos < nanosPerSecond

/-- What a clock can tell is sound: a leap second ends a minute. -/
theorem IsTold.isSound (h : a.IsTold) : a.IsSound where
  nanos_lt := by
    have hnanos := h.nanos
    omega
  first := by
    intro hfirst
    have hnanos := h.nanos
    have hday := a.day_secondOfDay
    omega

/-- Whether a moment lies in a leap second at the end of a day. -/
def inLastLeapSecond (m : Moment) : Bool :=
  m.secondOfDay + 1 == secondsPerDay && m.inLeapSecond

/-- The room of a second among the places: its own length and that of a leap second behind it. -/
def secondRoom : Nat := 2 * nanosPerSecond

/-- Where a moment lies for ages in days. The leap second at the end of a day runs along with the
first second of the next day. -/
def place (m : Moment) : Int :=
  m.seconds * secondRoom + m.nanos + if m.inLastLeapSecond then (nanosPerSecond : Int) else 0

/-- The room of a day. -/
def dayRoom : Nat := secondsPerDay * secondRoom

/-- An age is within some days if the places are no further apart. -/
theorem sinceNanos_le_iff (ha : a.IsSound) (hb : b.IsSound) (days : Nat) :
    a.sinceNanos b ≤ Search.Arithmetic.daysInNanos days ↔ a.place ≤ b.place + days * dayRoom := by
  obtain ⟨ha, hfirst⟩ := ha
  obtain ⟨hb, hfirst'⟩ := hb
  have hday := a.day_secondOfDay
  have hday' := b.day_secondOfDay
  have hlt := a.secondOfDay_lt
  have hlt' := b.secondOfDay_lt
  unfold sinceNanos Search.Arithmetic.daysInNanos place dayRoom inLastLeapSecond secondRoom
  unfold inLeapSecond nanosPerSecond secondsPerDay at *
  simp only [Bool.and_eq_true, beq_iff_eq, decide_eq_true_eq]
  rcases Nat.lt_trichotomy a.secondOfDay b.secondOfDay with h | h | h
  · -- `a` is sooner in its day. A single second more than whole days lies only between the last
    -- second of a day and the first of another, and there the leap second of `b` decides.
    have h' : ¬ b.secondOfDay < a.secondOfDay := by omega
    simp only [if_neg h', if_pos h]
    split_ifs <;> omega
  · -- At the same time of day, whole days lie between.
    have h₁ : ¬ b.secondOfDay < a.secondOfDay := by omega
    have h₂ : ¬ a.secondOfDay < b.secondOfDay := by omega
    simp only [if_neg h₁, if_neg h₂]
    split_ifs <;> omega
  · -- `a` is later in its day. A single second less than whole days lies only between the first
    -- second of a day and the last of another, and there the leap second of `a` decides.
    simp only [if_pos h]
    split_ifs <;> omega

/-! ## Days later -/

/-- The same time of day, some days later. -/
def daysLater (m : Moment) (days : Int) : Moment :=
  { m with seconds := m.seconds + days * secondsPerDay }

theorem secondOfDay_daysLater (m : Moment) (days : Int) :
    (m.daysLater days).secondOfDay = m.secondOfDay := by
  unfold secondOfDay daysLater
  rw [Int.add_mul_emod_self_right]

theorem IsSound.daysLater (h : a.IsSound) (days : Int) : (a.daysLater days).IsSound where
  nanos_lt := h.nanos_lt
  first := fun hfirst => h.first (a.secondOfDay_daysLater days ▸ hfirst)

theorem place_daysLater (m : Moment) (days : Int) :
    (m.daysLater days).place = m.place + days * dayRoom := by
  have hlast : (m.daysLater days).inLastLeapSecond = m.inLastLeapSecond := by
    rw [inLastLeapSecond, secondOfDay_daysLater]
    rfl
  rw [place, hlast, place]
  simp only [daysLater, dayRoom, secondsPerDay, secondRoom, nanosPerSecond]
  omega

/-! ## The order -/

theorem order_eq_lt : a.order b = .lt ↔
    a.seconds < b.seconds ∨ a.seconds = b.seconds ∧ a.nanos < b.nanos := by
  rw [order, Ordering.then_eq_lt, Int.compare_eq_lt, Int.compare_eq_eq, Nat.compare_eq_lt]

/-- `b` lies less far into the first second of a day than `a` into the leap second before it. -/
structure Overlaps (a b : Moment) : Prop where
  last : a.secondOfDay + 1 = secondsPerDay
  next : b.seconds = a.seconds + 1
  behind : b.nanos + nanosPerSecond < a.nanos

/-- A later moment has no earlier place, unless it overlaps a leap second. -/
theorem place_le_iff (ha : a.IsSound) (hb : b.IsSound) (h : a.order b = .lt) :
    a.place ≤ b.place ↔ ¬ a.Overlaps b := by
  have ha := ha.nanos_lt
  have hb := hb.nanos_lt
  have hday := a.day_secondOfDay
  have hday' := b.day_secondOfDay
  have hlt := a.secondOfDay_lt
  have hlt' := b.secondOfDay_lt
  rw [order_eq_lt] at h
  unfold place inLastLeapSecond secondRoom inLeapSecond
  simp only [Bool.and_eq_true, beq_iff_eq, decide_eq_true_eq]
  constructor
  · rintro hplace ⟨hlast, hnext, hbehind⟩
    have hleap : nanosPerSecond ≤ a.nanos := by omega
    rw [if_pos ⟨hlast, hleap⟩, if_neg] at hplace
    · unfold nanosPerSecond at *
      omega
    · unfold secondsPerDay at *
      omega
  · intro hapart
    by_contra hplace
    unfold nanosPerSecond secondsPerDay at *
    -- Without the leap second at the end of a day the places would be in the order of the moments.
    have hlast : a.secondOfDay + 1 = 86400 ∧ 1000000000 ≤ a.nanos := by
      by_contra hnone
      rw [if_neg hnone] at hplace
      split_ifs at hplace <;> omega
    rw [if_pos hlast] at hplace
    have hnext : b.seconds = a.seconds + 1 := by
      split_ifs at hplace <;> omega
    have hbehind : b.nanos + 1000000000 < a.nanos := by
      split_ifs at hplace <;> omega
    exact hapart ⟨hlast.1, hnext, hbehind⟩

end FeedSearch.Time.Moment
