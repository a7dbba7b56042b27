-- The limit of a provider on the calls in one minute, and the limiter that keeps to
-- it. How long a call waits depends on the calls before it, on when they came and on
-- who gave up, so the limiter is a part of what is outside.
import FeedSearch.Fetch.Adapter

namespace FeedSearch.Feed

/-- So many calls may be made at once; later ones wait until the minute has made room for them. -/
structure RateLimit where
  perMinute : UInt32
  deriving DecidableEq, Repr

/-- The limit of a setting: zero sets none. -/
def RateLimit.ofSetting (n : UInt32) : Option RateLimit := if n == 0 then none else some ⟨n⟩

/-! ## Limiters -/

/-- How many milliseconds the limiter of a provider of some name makes a call wait. -/
abbrev Limiter := String → RateLimit → Fetch.Call → Nat

namespace Limiter

/-- As many calls as may be made in a minute go at once. -/
def Bursts (limiter : Limiter) : Prop :=
  ∀ name (l : RateLimit) (c : Fetch.Call), c.index < l.perMinute.toNat → limiter name l c = 0

/-- The waits of calls that have all come at one time. Room for one more comes with every part of
the minute, and they take it in their order. -/
def inLine : Limiter := fun _ l c =>
  let beyond := c.index + 1 - l.perMinute.toNat
  (beyond * 60000 + l.perMinute.toNat - 1) / l.perMinute.toNat

theorem inLine_bursts : inLine.Bursts := by
  intro name l c h
  have hnone : c.index + 1 - l.perMinute.toNat = 0 := by omega
  rw [inLine, hnone, Nat.zero_mul, Nat.zero_add]
  exact Nat.div_eq_of_lt (by omega)

end Limiter

end FeedSearch.Feed
