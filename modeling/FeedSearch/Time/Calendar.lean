-- The calendar: years, months and days of the Gregorian rule, extended to all
-- years, and the count of days since the first day of 1970.

namespace FeedSearch.Time

/-! ## Years and months -/

def isLeapYear (year : Int) : Bool := year % 4 == 0 && (year % 100 != 0 || year % 400 == 0)

/-- The days of a month, 1 to 12. -/
def daysInMonth (year : Int) (month : Nat) : Nat :=
  if month == 2 then if isLeapYear year then 29 else 28
  else if month == 4 || month == 6 || month == 9 || month == 11 then 30 else 31

/-- The leap years from year 1 to the year before, counted backwards for years before 1. -/
def leapYearsBefore (year : Int) : Int := (year - 1) / 4 - (year - 1) / 100 + (year - 1) / 400

/-- The day on which a year starts; day 0 is the first of 1970. -/
def yearStart (year : Int) : Int :=
  365 * (year - 1970) + (leapYearsBefore year - leapYearsBefore 1970)

/-- The days of a year before a month. -/
def daysBeforeMonth (year : Int) : Nat → Nat
  | 0 => 0
  | 1 => 0
  | month + 2 => daysBeforeMonth year (month + 1) + daysInMonth year (month + 1)

/-! ## Dates -/

structure Date where
  year : Int
  month : Nat
  day : Nat
  deriving DecidableEq, Repr

namespace Date

/-- A date that the calendar has. -/
def isValid (d : Date) : Bool :=
  1 ≤ d.month && d.month ≤ 12 && 1 ≤ d.day && d.day ≤ daysInMonth d.year d.month

/-- The day of a date; day 0 is the first of 1970. -/
def toDays (d : Date) : Int := yearStart d.year + daysBeforeMonth d.year d.month + d.day - 1

/-- The year in which a day lies. The mean length of years gives a guess that is off by one at
most. -/
def yearOfDay (days : Int) : Int :=
  let guess := 1970 + days * 400 / 146097
  if days < yearStart guess then guess - 1
  else if yearStart (guess + 1) ≤ days then guess + 1
  else guess

/-- The month and the day of the month, from the days that remain from a month on. -/
def monthOfDay (year : Int) (rest : Nat) (month : Nat) : Nat → Nat × Nat
  | 0 => (month, rest + 1)
  | later + 1 =>
    if rest < daysInMonth year month then (month, rest + 1)
    else monthOfDay year (rest - daysInMonth year month) (month + 1) later

/-- The date of a day. -/
def ofDays (days : Int) : Date :=
  let year := yearOfDay days
  let place := monthOfDay year (days - yearStart year).toNat 1 11
  { year, month := place.1, day := place.2 }

end Date

end FeedSearch.Time
