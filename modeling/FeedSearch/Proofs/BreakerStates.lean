-- What each operation does to a breaker, state by state. A count of failures
-- that has not reached the limit is far from the largest count.
import FeedSearch.Proofs.BreakersByName

namespace FeedSearch

/-! ## The limit -/

/-- How many failures in a row open a breaker: one at least. -/
def BreakerConfig.limit (c : BreakerConfig) : Nat := max 1 c.maxFailures.toNat

theorem BreakerConfig.limit_pos (c : BreakerConfig) : 0 < c.limit :=
  Nat.lt_of_lt_of_le Nat.one_pos (Nat.le_max_left _ _)

/-! ## Operations -/

namespace Breaker

variable {c : BreakerConfig} {b : Breaker}

/-- A count below the limit is never the largest. -/
theorem oneMore_of_lt {n : Nat} (h : n < c.limit) : oneMore n = n + 1 := by
  have := c.maxFailures.toNat_lt
  unfold BreakerConfig.limit at h
  unfold oneMore Number.maxCount32
  omega

theorem onFailure_closed (now : Instant) (hs : b.state = .closed) (hb : b.failures < c.limit) :
    b.onFailure c now = { b with
      state := if b.failures + 1 = c.limit then .opened else .closed
      failures := b.failures + 1
      lastFailure := some now } := by
  have hlimit : c.maxFailures.toNat ≤ b.failures + 1 ↔ b.failures + 1 = c.limit := by
    unfold BreakerConfig.limit at hb ⊢
    omega
  unfold onFailure
  simp only [hs, oneMore_of_lt hb, hlimit]
  split <;> rfl

theorem onFailure_halfOpen (now : Instant) (hs : b.state = .halfOpen) :
    b.onFailure c now =
      { state := .opened, failures := 1, successes := 0, lastFailure := some now } := by
  unfold onFailure
  simp only [hs]

theorem onFailure_opened (now : Instant) (hs : b.state = .opened) :
    b.onFailure c now = { b with failures := oneMore b.failures, lastFailure := some now } := by
  unfold onFailure
  simp only [hs]

theorem onSuccess_closed (hs : b.state = .closed) : b.onSuccess = { b with failures := 0 } := by
  unfold onSuccess
  simp only [hs]

theorem onSuccess_halfOpen (hs : b.state = .halfOpen) (hb : b.successes < trialSuccesses) :
    b.onSuccess =
      if b.successes + 1 = trialSuccesses then b.reset
      else { b with failures := 0, successes := b.successes + 1 } := by
  have hlast : trialSuccesses ≤ b.successes + 1 ↔ b.successes + 1 = trialSuccesses := by omega
  unfold onSuccess reset
  simp only [hs, hlast]

theorem onSuccess_opened (hs : b.state = .opened) : b.onSuccess = b.reset := by
  unfold onSuccess reset
  simp only [hs]

/-- A call is admitted by a breaker that is not open, or it puts an open one on trial. -/
theorem enter_admitted {now : Instant} {b' : Breaker} (he : b.enter c now = (true, b')) :
    (b.state ≠ .opened ∧ b' = b) ∨ b.state = .opened ∧ b.cooledDown c now = true ∧
      b' = { b with state := .halfOpen, failures := 0, successes := 0 } := by
  by_cases hs : b.state = .opened
  · unfold enter at he
    simp only [hs] at he
    split at he
    · rename_i hcooled
      cases he
      exact Or.inr ⟨hs, hcooled, rfl⟩
    · cases he
  · rw [Breakers.enter_of_ne_opened c now hs] at he
    cases he
    exact Or.inl ⟨hs, rfl⟩

theorem enter_rejected {now : Instant} {b' : Breaker} (he : b.enter c now = (false, b')) :
    b.state = .opened ∧ b.cooledDown c now = false ∧ b' = b := by
  by_cases hs : b.state = .opened
  · unfold enter at he
    simp only [hs] at he
    split at he
    · cases he
    · rename_i hcooled
      cases he
      exact ⟨hs, by simpa using hcooled, rfl⟩
  · rw [Breakers.enter_of_ne_opened c now hs] at he
    cases he

end Breaker

end FeedSearch
