-- Time stamps of feeds in their strict form: date, separator, time of day and
-- offset, every field with its full width.
import FeedSearch.Text.Blank
import FeedSearch.Time.Moment

namespace FeedSearch.Time

/-! ## Fields -/

/-- Exactly `width` digits from the front. -/
def fixedDigits? (width : Nat) (s : List Char) : Option (Nat × List Char) :=
  (Number.natural? (s.take width)).bind fun n =>
    if (s.take width).length == width then some (n, s.drop width) else none

/-- One given character from the front. -/
def mark? (c : Char) : List Char → Option (List Char)
  | d :: rest => if d == c then some rest else none
  | [] => none

/-- A digit after the point for each place; places beyond the ninth do not count. -/
def fractionNanos (digits : List Char) : Nat :=
  Number.ofDigits (digits.take 9) * Number.tenTo (9 - digits.length)

/-- The nanoseconds after a point, if there is one. -/
def fraction? (s : List Char) : Option (Nat × List Char) :=
  match s with
  | '.' :: rest =>
    let digits := rest.takeWhile Char.isDigit
    if digits.isEmpty then none else some (fractionNanos digits, rest.dropWhile Char.isDigit)
  | _ => some (0, s)

/-- The seconds by which a place is ahead of universal time. -/
def offset? : List Char → Option (Int × List Char)
  | 'Z' :: rest => some (0, rest)
  | 'z' :: rest => some (0, rest)
  | sign :: rest => do
    let factor : Int ← if sign == '+' then some 1 else if sign == '-' then some (-1) else none
    let (hours, rest) ← fixedDigits? 2 rest
    let rest ← mark? ':' rest
    let (minutes, rest) ← fixedDigits? 2 rest
    if hours ≤ 23 ∧ minutes ≤ 59 then
      some (factor * ((hours * 3600 + minutes * 60 : Nat) : Int), rest)
    else none
  | [] => none

/-! ## The whole stamp -/

/-- Whether a moment is in the last second of a month. -/
def Moment.endsMonth (m : Moment) : Bool :=
  let date := Date.ofDays m.day
  m.secondOfDay + 1 == secondsPerDay && date.day == daysInMonth date.year date.month

/-- The year, month and day of the form `YYYY-MM-DD`. -/
def date? (s : List Char) : Option (Date × List Char) := do
  let (year, rest) ← fixedDigits? 4 s
  let (month, rest) ← fixedDigits? 2 (← mark? '-' rest)
  let (day, rest) ← fixedDigits? 2 (← mark? '-' rest)
  let date : Date := { year, month, day }
  if date.isValid then some (date, rest) else none

/-- A time of day; the second 60 is one that a month may have at its end. -/
structure TimeOfDay where
  hour : Nat
  minute : Nat
  second : Nat
  nanos : Nat
  deriving DecidableEq, Repr

def TimeOfDay.isValid (t : TimeOfDay) : Bool :=
  decide (t.hour ≤ 23) && decide (t.minute ≤ 59) && decide (t.second ≤ 60)

/-- The seconds up to the start of its minute. -/
def TimeOfDay.minuteSeconds (t : TimeOfDay) : Nat := t.hour * 3600 + t.minute * 60

def timeOfDay? (s : List Char) : Option (TimeOfDay × List Char) := do
  let (hour, rest) ← fixedDigits? 2 s
  let (minute, rest) ← fixedDigits? 2 (← mark? ':' rest)
  let (second, rest) ← fixedDigits? 2 (← mark? ':' rest)
  let (nanos, rest) ← fraction? rest
  let time : TimeOfDay := { hour, minute, second, nanos }
  if time.isValid then some (time, rest) else none

/-- One ASCII character of any kind stands between the date and the time. -/
def separator? : List Char → Option (List Char)
  | c :: rest => if c.toNat < 0x80 then some rest else none
  | [] => none

/-- Reads a stamp. The second 60 stands for the last nanosecond of the second before it, and only
at the end of a month in universal time. -/
def stampChars? (s : List Char) : Option Moment := do
  let (date, rest) ← date? s
  let (time, rest) ← timeOfDay? (← separator? rest)
  let (offset, rest) ← offset? rest
  let seconds : Int := date.toDays * secondsPerDay + time.minuteSeconds - offset
  match rest with
  | _ :: _ => none
  | [] =>
    if time.second == 60 then
      let m : Moment := { seconds := seconds + 59, nanos := nanosPerSecond - 1 }
      if m.endsMonth then some m else none
    else some { seconds := seconds + time.second, nanos := time.nanos }

/-- Reads the stamp of a feed, blanks at its ends left out. -/
def stamp? (s : String) : Option Moment := stampChars? (Text.trimChars s.toList)

end FeedSearch.Time
