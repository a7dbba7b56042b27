-- Waits between attempts. A span is multiplied by its seconds and its nanoseconds
-- apart, with a carry between them. The product is exact to the nanosecond up to the
-- longest span, and in words nothing wraps on the way. So waits double and never shrink.
import FeedSearch.Feed.Retry
import Mathlib.Algebra.Ring.Nat

namespace FeedSearch

namespace Time.Span

/-! ## Spans as nanoseconds -/

theorem toNanos_longest : longest.toNanos = (2 ^ 64 - 1) * 10 ^ 9 + 999999999 := by decide

/-- Seconds and nanoseconds add up to a span as long as they fit, and to the longest beyond. -/
theorem toNanos_ofParts (seconds nanos : Nat) :
    ((ofParts? seconds nanos).getD longest).toNanos =
      min (nanosPerSecond * seconds + nanos) longest.toNanos := by
  rw [toNanos_longest]
  unfold ofParts?
  by_cases h : seconds + nanos / nanosPerSecond ≤ Number.maxCount
  · have hword : (seconds + nanos / nanosPerSecond).toUInt64.toNat =
        seconds + nanos / nanosPerSecond :=
      UInt64.toNat_ofNat_of_lt' (Nat.lt_succ_of_le h)
    simp only [if_pos h, Option.getD_some, toNanos, hword]
    unfold nanosPerSecond Number.maxCount at *
    omega
  · simp only [if_neg h, Option.getD_none, toNanos_longest]
    unfold nanosPerSecond Number.maxCount at *
    omega

/-- A span many times over is exact to the nanosecond, up to the longest. -/
theorem toNanos_times (s : Span) (k : Nat) :
    (s.times k).toNanos = min (s.toNanos * k) longest.toNanos := by
  have hnanos : s.toNanos * k = nanosPerSecond * (s.seconds.toNat * k) + s.nanos * k := by
    rw [toNanos, Nat.add_mul, Nat.mul_assoc]
  rw [times, toNanos_ofParts, hnanos]

/-! ## Spans in words -/

/-- The product of two words, if it is a word. -/
def wordTimes? (a b : UInt64) : Option UInt64 :=
  if a.toNat * b.toNat < 2 ^ 64 then some (a * b) else none

/-- The sum of two words, if it is a word. -/
def wordPlus? (a b : UInt64) : Option UInt64 :=
  if a.toNat + b.toNat < 2 ^ 64 then some (a + b) else none

/-- The span `k` times over, computed in words of 64 bits that wrap: the nanoseconds carry whole
seconds, and there is no span if the seconds or their sum with the carry are no word. -/
def timesInWords? (s : Span) (k : UInt32) : Option Span :=
  let nanos := s.nanos.toUInt64 * k.toUInt64
  (wordTimes? s.seconds k.toUInt64).bind fun seconds =>
    (wordPlus? seconds (nanos / 1000000000)).map fun whole =>
      { seconds := whole
        nanos := nanos.toNat % nanosPerSecond
        nanos_lt := nanos_mod_lt nanos.toNat }

theorem toNat_wordTimes {a b : UInt64} (h : a.toNat * b.toNat < 2 ^ 64) :
    (a * b).toNat = a.toNat * b.toNat := by
  rw [UInt64.toNat_mul, Nat.mod_eq_of_lt h]

theorem toNat_wordPlus {a b : UInt64} (h : a.toNat + b.toNat < 2 ^ 64) :
    (a + b).toNat = a.toNat + b.toNat := by
  rw [UInt64.toNat_add, Nat.mod_eq_of_lt h]

/-- Nanoseconds below a second, times a factor of 32 bits, are a word: nothing wraps. -/
theorem toNat_nanos_times (s : Span) (k : UInt32) :
    (s.nanos.toUInt64 * k.toUInt64).toNat = s.nanos * k.toNat := by
  have hs : s.nanos < 10 ^ 9 := s.nanos_lt
  have hnanos : s.nanos.toUInt64.toNat = s.nanos :=
    UInt64.toNat_ofNat_of_lt' (Nat.lt_trans hs (by decide))
  have hfactor : k.toUInt64.toNat = k.toNat := UInt32.toNat_toUInt64 k
  have hsmall : s.nanos * k.toNat < 2 ^ 64 :=
    calc s.nanos * k.toNat ≤ 10 ^ 9 * 2 ^ 32 :=
          Nat.mul_le_mul (Nat.le_of_lt hs) (Nat.le_of_lt k.toNat_lt)
      _ < 2 ^ 64 := by decide
  rw [toNat_wordTimes (by rwa [hnanos, hfactor]), hnanos, hfactor]

/-- What is computed in words is the span many times over. -/
theorem timesInWords_eq_times (s : Span) (k : UInt32) :
    (s.timesInWords? k).getD longest = s.times k.toNat := by
  have hfactor : k.toUInt64.toNat = k.toNat := UInt32.toNat_toUInt64 k
  have hnanos := s.toNat_nanos_times k
  have hcarry : (s.nanos.toUInt64 * k.toUInt64 / 1000000000).toNat =
      s.nanos * k.toNat / nanosPerSecond := by
    rw [UInt64.toNat_div, hnanos]
    rfl
  have hfits : (s.seconds.toNat * k.toNat + s.nanos * k.toNat / nanosPerSecond ≤ Number.maxCount) =
      (s.seconds.toNat * k.toNat + s.nanos * k.toNat / nanosPerSecond < 2 ^ 64) :=
    propext Nat.lt_succ_iff.symm
  unfold timesInWords? times ofParts? wordTimes?
  simp only [hfactor, hnanos, hfits]
  -- The seconds are checked before the carry and with it. With it alone is enough.
  by_cases hproduct : s.seconds.toNat * k.toNat < 2 ^ 64
  · have hword : (s.seconds * k.toUInt64).toNat = s.seconds.toNat * k.toNat := by
      rw [toNat_wordTimes (by rwa [hfactor]), hfactor]
    simp only [if_pos hproduct, Option.bind_some, wordPlus?, hword, hcarry]
    by_cases hsum : s.seconds.toNat * k.toNat + s.nanos * k.toNat / nanosPerSecond < 2 ^ 64
    · have hwhole : s.seconds * k.toUInt64 + s.nanos.toUInt64 * k.toUInt64 / 1000000000 =
          (s.seconds.toNat * k.toNat + s.nanos * k.toNat / nanosPerSecond).toUInt64 := by
        apply UInt64.toNat_inj.mp
        rw [toNat_wordPlus (by rwa [hword, hcarry]), hword, hcarry,
          UInt64.toNat_ofNat_of_lt' hsum]
      simp only [if_pos hsum, Option.map_some, Option.getD_some, hwhole]
    · simp only [if_neg hsum, Option.map_none]
  · have hfar : ¬ s.seconds.toNat * k.toNat + s.nanos * k.toNat / nanosPerSecond < 2 ^ 64 := by
      omega
    simp only [if_neg hproduct, if_neg hfar, Option.bind_none]

end Time.Span

namespace Feed.RetryPolicy

variable (p : RetryPolicy)

/-! ## Waits -/

/-- A wait is exact to the nanosecond, up to the longest span. -/
theorem toNanos_backoff (attempt : Nat) :
    (p.backoff attempt).toNanos =
      min (p.delay.toNanos * 2 ^ min (attempt - 1) 16) Time.Span.longest.toNanos :=
  p.delay.toNanos_times _

/-- A later attempt waits no less. -/
theorem toNanos_backoff_le {attempt later : Nat} (h : attempt ≤ later) :
    (p.backoff attempt).toNanos ≤ (p.backoff later).toNanos := by
  have hdoublings : min (attempt - 1) 16 ≤ min (later - 1) 16 := by omega
  have hwaits : p.delay.toNanos * 2 ^ min (attempt - 1) 16 ≤
      p.delay.toNanos * 2 ^ min (later - 1) 16 :=
    Nat.mul_le_mul_left _ (Nat.pow_le_pow_right (by decide) hdoublings)
  rw [toNanos_backoff, toNanos_backoff]
  omega

/-- A longer delay waits no less. -/
theorem toNanos_backoff_le_of_delay {p q : RetryPolicy} (h : p.delay.toNanos ≤ q.delay.toNanos)
    (attempt : Nat) : (p.backoff attempt).toNanos ≤ (q.backoff attempt).toNanos := by
  have hwaits : p.delay.toNanos * 2 ^ min (attempt - 1) 16 ≤
      q.delay.toNanos * 2 ^ min (attempt - 1) 16 := Nat.mul_le_mul_right _ h
  rw [toNanos_backoff, toNanos_backoff]
  omega

/-- How often the delay is waited is a factor of 32 bits, and its product with the delay is
computed in words. -/
theorem backoff_in_words (attempt : Nat) :
    ∃ factor : UInt32, factor.toNat = 2 ^ min (attempt - 1) 16 ∧
      p.backoff attempt = (p.delay.timesInWords? factor).getD .longest := by
  have hsmall : 2 ^ min (attempt - 1) 16 < 2 ^ 32 :=
    Nat.pow_lt_pow_right (by decide) (by omega)
  have hfactor : (2 ^ min (attempt - 1) 16).toUInt32.toNat = 2 ^ min (attempt - 1) 16 :=
    UInt32.toNat_ofNat_of_lt' hsmall
  refine ⟨(2 ^ min (attempt - 1) 16).toUInt32, hfactor, ?_⟩
  rw [Time.Span.timesInWords_eq_times, hfactor]
  rfl

/-! ## The law -/

/-- The wait before the first attempt is the delay. It doubles with every further attempt, sixteen
times at most, and is exact to the nanosecond up to the longest span, which it is from there on.
Computed in words it is the same, so nothing wraps. It is never less for a later attempt, and never
less for a longer delay. -/
theorem waits_double_up_to_the_longest (attempt : Nat) :
    (p.backoff attempt).toNanos =
        min (p.delay.toNanos * 2 ^ min (max attempt 1 - 1) 16)
          ((2 ^ 64 - 1) * 10 ^ 9 + 999999999) ∧
      (p.backoff attempt).nanos < 10 ^ 9 ∧
      (∃ factor : UInt32, factor.toNat = 2 ^ min (max attempt 1 - 1) 16 ∧
        p.backoff attempt = (p.delay.timesInWords? factor).getD .longest) ∧
      (∀ later, attempt ≤ later → (p.backoff attempt).toNanos ≤ (p.backoff later).toNanos) ∧
      ∀ longer : RetryPolicy, p.delay.toNanos ≤ longer.delay.toNanos →
        (p.backoff attempt).toNanos ≤ (longer.backoff attempt).toNanos := by
  have hdoublings : max attempt 1 - 1 = attempt - 1 := by omega
  rw [hdoublings, ← Time.Span.toNanos_longest]
  exact ⟨p.toNanos_backoff attempt, (p.backoff attempt).nanos_lt, p.backoff_in_words attempt,
    fun later => p.toNanos_backoff_le,
    fun longer hdelay => toNanos_backoff_le_of_delay hdelay attempt⟩

/-- The delay is a nanosecond more than 2 ^ 48 seconds: the sixteenth wait is the last exact one. -/
theorem waits_double_to_the_edge :
    let p : RetryPolicy := { retries := 20, delay := { seconds := 0x1000000000000, nanos := 1 } }
    p.backoff 16 = { seconds := 0x8000000000000000, nanos := 32768 } ∧
      p.backoff 17 = .longest ∧ (p.backoff 16).toNanos ≤ (p.backoff 17).toNanos ∧
      (RetryPolicy.standard.backoff 16).toNanos ≤ (p.backoff 16).toNanos := by
  intro p
  obtain ⟨_, _, _, hlater, _⟩ := p.waits_double_up_to_the_longest 16
  obtain ⟨_, _, _, _, hlonger⟩ := RetryPolicy.standard.waits_double_up_to_the_longest 16
  exact ⟨by decide, by decide, hlater 17 (by decide), hlonger p (by decide)⟩

end Feed.RetryPolicy

end FeedSearch
