-- Time stamps of stored records, read in a loose form: fields may be narrow,
-- blanks may stand before them, the year may carry a sign. A stamp that does
-- not read gives the cause.
import FeedSearch.Text.Ascii
import FeedSearch.Text.Blank
import FeedSearch.Time.Stamp

namespace FeedSearch.Time

/-! ## Causes -/

/-- Why a stamp does not read. -/
inductive StampError where
  | tooShort
  | invalid
  | outOfRange
  | impossible
  | tooLong
  deriving DecidableEq, Repr

def StampError.message : StampError → String
  | .tooShort => "premature end of input"
  | .invalid => "input contains invalid characters"
  | .outOfRange => "input is out of range"
  | .impossible => "no possible date and time matching input"
  | .tooLong => "trailing input"

/-- Reading gives a value, or the cause of a failure. -/
abbrev Reading := Except StampError

/-! ## Fields -/

/-- One digit or more, at most `width` if there is a width. -/
def digitsField (width : Option Nat) (s : List Char) : Reading (Nat × List Char) :=
  let run := s.takeWhile Char.isDigit
  let digits := match width with
    | some w => run.take w
    | none => run
  if s.isEmpty then .error .tooShort
  else if digits.isEmpty then .error .invalid
  else .ok (Number.ofDigits digits, s.drop digits.length)

/-- A field between bounds, blanks before it left out. -/
def boundedField (width low high : Nat) (s : List Char) : Reading (Nat × List Char) := do
  let (n, rest) ← digitsField (some width) (Text.trimStart s)
  if low ≤ n ∧ n ≤ high then .ok (n, rest) else .error .outOfRange

/-- A year of 32 bits: four digits at most, or a sign and any number of digits. -/
def yearField (s : List Char) : Reading (Int × List Char) := do
  let (year, rest) ← match Text.trimStart s with
    | '-' :: rest => do
      let (n, rest) ← digitsField none rest
      pure (-(n : Int), rest)
    | '+' :: rest => do
      let (n, rest) ← digitsField none rest
      pure ((n : Int), rest)
    | rest => do
      let (n, rest) ← digitsField (some 4) rest
      pure ((n : Int), rest)
  if -0x80000000 ≤ year ∧ year < 0x80000000 then .ok (year, rest) else .error .outOfRange

/-- A mark, blanks before it left out. -/
def markField (c : Char) (s : List Char) : Reading (List Char) :=
  match Text.trimStart s with
  | d :: rest => if d == c then .ok rest else .error .invalid
  | [] => .error .tooShort

/-- One to nine digits after a point; digits beyond them are left out. -/
def nanosField (s : List Char) : Reading (Nat × List Char) :=
  match s with
  | '.' :: rest => do
    let (_, after) ← digitsField none rest
    .ok (fractionNanos (rest.takeWhile Char.isDigit), after)
  | _ => .ok (0, s)

/-- The letter T of either case or a space stands between the date and the time. -/
def separatorField : List Char → Reading (List Char)
  | c :: rest => if c == 't' || c == 'T' || c == ' ' then .ok rest else .error .invalid
  | [] => .error .tooShort

/-- Two digits from the front. A single character counts as two if it has two octets or more. -/
def twoDigitsField : List Char → Reading (Nat × Nat × List Char)
  | a :: b :: rest =>
    if a.isDigit && b.isDigit then .ok (Number.digitValue a, Number.digitValue b, rest)
    else .error .invalid
  | [a] => if a.toNat < 0x80 then .error .tooShort else .error .invalid
  | [] => .error .tooShort

/-- Signs of an offset: plus, minus, and the minus sign of mathematics. -/
def offsetSign : List Char → Reading (Int × List Char)
  | '+' :: rest => .ok (1, rest)
  | '-' :: rest => .ok (-1, rest)
  | '−' :: rest => .ok (-1, rest)
  | _ :: _ => .error .invalid
  | [] => .error .tooShort

/-- Hours and minutes ahead of universal time; colons and blanks may stand between them. -/
def signedOffset (s : List Char) : Reading (Int × List Char) := do
  let (sign, rest) ← offsetSign s
  let (h1, h2, rest) ← twoDigitsField rest
  let (m1, m2, rest) ← twoDigitsField (rest.dropWhile fun c => c == ':' || Text.isBlank c)
  if m1 ≤ 5 then
    .ok (sign * (((h1 * 10 + h2) * 3600 + (m1 * 10 + m2) * 60 : Nat) : Int), rest)
  else .error .outOfRange

/-- The mark of universal time, or an offset from it. -/
def offsetField (s : List Char) : Reading (Int × List Char) :=
  if Text.sameWord (String.ofList (s.take 3)) "utc" then .ok (0, s.drop 3)
  else match s with
    | 'Z' :: rest => .ok (0, rest)
    | 'z' :: rest => .ok (0, rest)
    | _ => signedOffset s

/-! ## The whole stamp -/

/-- The fields of a stamp, each within its own bounds. -/
structure StampFields where
  date : Date
  hour : Nat
  minute : Nat
  second : Nat
  nanos : Nat
  offset : Int

def stampFields (s : List Char) : Reading (StampFields × List Char) := do
  let (year, rest) ← yearField s
  let (month, rest) ← boundedField 2 1 12 (← markField '-' rest)
  let (day, rest) ← boundedField 2 1 31 (← markField '-' rest)
  let rest ← separatorField rest
  let (hour, rest) ← boundedField 2 0 23 rest
  let (minute, rest) ← boundedField 2 0 59 (← markField ':' rest)
  let (second, rest) ← boundedField 2 0 60 (← markField ':' rest)
  let (nanos, rest) ← nanosField rest
  let (offset, rest) ← offsetField (Text.trimStart rest)
  .ok ({ date := { year, month, day }, hour, minute, second, nanos, offset }, rest)

/-- The first and the last year that a moment may lie in. -/
def firstYear : Int := -262143

def lastYear : Int := 262142

/-- Whether a moment lies in the years that are kept. -/
def Moment.inYears (m : Moment) : Bool :=
  yearStart firstYear ≤ m.day && m.day < yearStart (lastYear + 1)

/-- The moment that fields name. The second 60 is held as a leap second. -/
def StampFields.moment (f : StampFields) : Reading Moment :=
  if !f.date.isValid || f.date.year < firstYear || lastYear < f.date.year then .error .outOfRange
  else if (secondsPerDay : Int) ≤ f.offset.natAbs then .error .outOfRange
  else
    let leap := f.second == 60
    let seconds : Int := f.date.toDays * secondsPerDay +
      (f.hour * 3600 + f.minute * 60 + (if leap then 59 else f.second) : Nat) - f.offset
    let nanos := if leap then f.nanos + nanosPerSecond else f.nanos
    let m : Moment := { seconds, nanos }
    if m.inYears then .ok m else .error .impossible

/-- Reads the stamp of a record. -/
def looseStamp (s : String) : Reading Moment := do
  let (fields, rest) ← stampFields s.toList
  if (Text.trimStart rest).isEmpty then fields.moment else .error .tooLong

end FeedSearch.Time
