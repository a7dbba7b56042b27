-- Dates of feeds without a time of day: `YYYY-MM-DD`, with a sign before the
-- year where there is one, taken as midnight.
import FeedSearch.Time.Stamp

namespace FeedSearch.Time

/-- The sign of a year and the text after it. -/
def yearSign : List Char → Int × List Char
  | '+' :: rest => (1, rest)
  | '-' :: rest => (-1, rest)
  | s => (1, s)

def feedDateChars? (s : List Char) : Option Moment := do
  let (sign, rest) := yearSign s
  let (year, rest) ← fixedDigits? 4 rest
  let (month, rest) ← fixedDigits? 2 (← mark? '-' rest)
  let (day, rest) ← fixedDigits? 2 (← mark? '-' rest)
  let date : Date := { year := sign * year, month, day }
  if rest.isEmpty && date.isValid then some (Moment.ofDate date) else none

/-- Reads the date of a feed, blanks at its ends left out. -/
def feedDate? (s : String) : Option Moment := feedDateChars? (Text.trimChars s.toList)

end FeedSearch.Time
