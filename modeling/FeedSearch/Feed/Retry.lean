-- Waiting before another attempt: the wait doubles with every attempt.
import FeedSearch.Time.Span

namespace FeedSearch.Feed

/-- How many attempts follow a first one that failed, and the wait before the first of them. -/
structure RetryPolicy where
  retries : UInt32
  delay : Time.Span
  deriving DecidableEq, Repr

namespace RetryPolicy

def none : RetryPolicy := { retries := 0, delay := .zero }

def standard : RetryPolicy := { retries := 3, delay := .ofSeconds 1 }

/-- The most times that the wait doubles. -/
def maxDoublings : Nat := 16

/-- The wait before an attempt; the first attempt after a failure is attempt one. -/
def backoff (p : RetryPolicy) (attempt : Nat) : Time.Span :=
  p.delay.times (Number.twoTo (min (attempt - 1) maxDoublings))

end RetryPolicy

end FeedSearch.Feed
