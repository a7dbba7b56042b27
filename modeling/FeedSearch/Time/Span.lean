-- Lengths of time: whole seconds of 64 bits and nanoseconds below a second. A
-- length that does not fit becomes the longest that does.
import FeedSearch.Time.Moment

namespace FeedSearch.Time

/-! ## Lengths -/

structure Span where
  seconds : UInt64
  nanos : Nat
  nanos_lt : nanos < nanosPerSecond := by decide
  deriving DecidableEq, Repr

namespace Span

def zero : Span := { seconds := 0, nanos := 0 }

instance : Inhabited Span := ⟨zero⟩

/-- The longest span. -/
def longest : Span := { seconds := 0xFFFFFFFFFFFFFFFF, nanos := 999999999 }

def ofSeconds (n : UInt64) : Span := { seconds := n, nanos := 0 }

theorem nanos_mod_lt (n : Nat) : n % nanosPerSecond < nanosPerSecond :=
  Nat.mod_lt _ (by decide)

/-- Seconds and any number of nanoseconds, if the seconds fit. -/
def ofParts? (seconds nanos : Nat) : Option Span :=
  let whole := seconds + nanos / nanosPerSecond
  if whole ≤ Number.maxCount then
    some {
      seconds := whole.toUInt64
      nanos := nanos % nanosPerSecond
      nanos_lt := nanos_mod_lt nanos }
  else none

def ofMillis (n : Nat) : Span := (ofParts? (n / 1000) (n % 1000 * 1000000)).getD longest

def ofMicros (n : Nat) : Span := (ofParts? (n / 1000000) (n % 1000000 * 1000)).getD longest

/-- The span as a number of nanoseconds. -/
def toNanos (s : Span) : Nat := nanosPerSecond * s.seconds.toNat + s.nanos

def isZero (s : Span) : Bool := s.seconds == 0 && s.nanos == 0

/-- The sum, if it fits. -/
def plus (a b : Span) : Span :=
  (ofParts? (a.seconds.toNat + b.seconds.toNat) (a.nanos + b.nanos)).getD longest

/-- The span `k` times over, if it fits, else the longest. -/
def times (s : Span) (k : Nat) : Span :=
  (ofParts? (s.seconds.toNat * k) (s.nanos * k)).getD longest

/-- The whole milliseconds that cover the span. -/
def ceilMillis (s : Span) : Nat := (s.toNanos + 999999) / 1000000

/-! ## Text -/

/-- Digits of a fraction of a unit, without the zeros at their end. -/
def fractionDigits (width n : Nat) : String :=
  if n == 0 then ""
  else
    let digits := (Number.padded width n).toList.reverse.dropWhile (· == '0')
    "." ++ String.ofList digits.reverse

/-- A number in units of `10 ^ width` nanoseconds. -/
def inUnit (width nanos : Nat) : String :=
  toString (nanos / Number.tenTo width) ++ fractionDigits width (nanos % Number.tenTo width)

/-- The span in the largest unit of which it has one. -/
def text (s : Span) : String :=
  if s.seconds != 0 then inUnit 9 s.toNanos ++ "s"
  else if 1000000 ≤ s.nanos then inUnit 6 s.nanos ++ "ms"
  else if 1000 ≤ s.nanos then inUnit 3 s.nanos ++ "µs"
  else toString s.nanos ++ "ns"

end Span

end FeedSearch.Time
