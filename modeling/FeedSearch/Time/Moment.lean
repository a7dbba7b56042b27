-- Moments of universal time, to the nanosecond. A leap second is held as the
-- second before it with a second or more of nanoseconds.
import FeedSearch.Number.Numeral
import FeedSearch.Time.Calendar

namespace FeedSearch.Time

/-! ## Moments -/

def nanosPerSecond : Nat := 1000000000

def secondsPerDay : Nat := 86400

/-- Seconds since the start of 1970, and nanoseconds within the second. -/
structure Moment where
  seconds : Int
  nanos : Nat
  deriving DecidableEq, Repr, Inhabited

namespace Moment

/-- Midnight of a date. -/
def ofDate (d : Date) : Moment := { seconds := d.toDays * secondsPerDay, nanos := 0 }

def day (m : Moment) : Int := m.seconds / secondsPerDay

def secondOfDay (m : Moment) : Nat := (m.seconds % secondsPerDay).toNat

def inLeapSecond (m : Moment) : Bool := nanosPerSecond ≤ m.nanos

/-- Moments by second, then by nanosecond. -/
def order (a b : Moment) : Ordering := (compare a.seconds b.seconds).then (compare a.nanos b.nanos)

/-- The moment some nanoseconds later. -/
def plusNanos (m : Moment) (n : Nat) : Moment :=
  let total := m.nanos + n
  { seconds := m.seconds + (total / nanosPerSecond : Nat), nanos := total % nanosPerSecond }

theorem plusNanos_plusNanos (m : Moment) (n k : Nat) :
    (m.plusNanos n).plusNanos k = m.plusNanos (n + k) := by
  unfold plusNanos nanosPerSecond
  simp only [Moment.mk.injEq]
  omega

/-- The nanoseconds from `b` to `a`. A leap second between two times of day counts as a second. -/
def sinceNanos (a b : Moment) : Int :=
  let leap : Int :=
    if b.secondOfDay < a.secondOfDay then if b.inLeapSecond then 1 else 0
    else if a.secondOfDay < b.secondOfDay then if a.inLeapSecond then -1 else 0
    else 0
  (a.seconds - b.seconds + leap) * nanosPerSecond + ((a.nanos : Int) - b.nanos)

/-! ## Text -/

/-- Four digits, or a sign and at least four digits for years beyond them. -/
def yearText (year : Int) : String :=
  if 0 ≤ year ∧ year ≤ 9999 then Number.padded 4 year.toNat
  else (if year < 0 then "-" else "+") ++ Number.padded 4 year.natAbs

/-- The shortest of three, six and nine digits that is exact; none for a whole second. -/
def fractionText (nanos : Nat) : String :=
  if nanos == 0 then ""
  else if nanos % 1000000 == 0 then "." ++ Number.padded 3 (nanos / 1000000)
  else if nanos % 1000 == 0 then "." ++ Number.padded 6 (nanos / 1000)
  else "." ++ Number.padded 9 nanos

/-- The moment as a date, a time of day and the mark of universal time. -/
def text (m : Moment) : String :=
  let date := Date.ofDays m.day
  let time := m.secondOfDay
  let second := if m.inLeapSecond then time % 60 + 1 else time % 60
  yearText date.year ++ "-" ++ Number.padded 2 date.month ++ "-" ++ Number.padded 2 date.day ++
    "T" ++ Number.padded 2 (time / 3600) ++ ":" ++ Number.padded 2 (time / 60 % 60) ++
    ":" ++ Number.padded 2 second ++ fractionText (m.nanos % nanosPerSecond) ++ "Z"

end Moment

end FeedSearch.Time
