-- The clocks of a run: a running clock that never goes back, and the time of
-- day, which goes along with it and moves on a little with every reading.
import FeedSearch.Breaker

namespace FeedSearch

structure Clock where
  running : Instant
  wall : Time.Moment
  deriving DecidableEq, Repr

namespace Clock

/-- The nanoseconds between two readings of the time of day. -/
def readingStep : Nat := 1000

/-- Reads the time of day. -/
def read (c : Clock) : Time.Moment × Clock :=
  (c.wall, { c with wall := c.wall.plusNanos readingStep })

/-- The clocks when the running one has come to a time. The time of day has gone on as long. -/
def moveTo (c : Clock) (time : Instant) : Clock where
  running := time
  wall := c.wall.plusNanos (time - c.running)

/-- The clocks some milliseconds later. -/
def pass (c : Clock) (millis : Nat) : Clock := c.moveTo (c.running + 1000000 * millis)

/-- A stop on the way does not change where the clocks come to. -/
theorem moveTo_moveTo {c : Clock} {first second : Instant} (hfirst : c.running ≤ first)
    (hsecond : first ≤ second) : (c.moveTo first).moveTo second = c.moveTo second := by
  have hway : first - c.running + (second - first) = second - c.running := by
    rw [Nat.add_comm, Nat.sub_add_sub_cancel hsecond hfirst]
  simp only [moveTo, Time.Moment.plusNanos_plusNanos, hway]

end Clock

end FeedSearch
