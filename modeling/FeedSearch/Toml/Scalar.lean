-- Values of TOML that are single words: truth values, numbers, dates and times.
import FeedSearch.Number.Nearest
import FeedSearch.Text.Ascii
import FeedSearch.Time.Stamp
import FeedSearch.Toml.Value

namespace FeedSearch.Toml

/-! ## Digits -/

/-- Digits, with single underscores between them. -/
def digitRun? (isDigit : Char → Bool) (s : List Char) : Option (List Char) :=
  let parts := s.splitOn '_'
  if parts.all fun part => !part.isEmpty && part.all isDigit then some parts.flatten else none

/-- Decimal digits that do not start with an idle zero. -/
def wholeRun? (s : List Char) : Option (List Char) :=
  (digitRun? Char.isDigit s).filter fun digits => digits.length == 1 || digits.head? != some '0'

/-- Whether a number is negative, and what follows its sign. -/
def splitSign : List Char → Bool × List Char
  | '-' :: rest => (true, rest)
  | '+' :: rest => (false, rest)
  | s => (false, s)

def signed (isNegative : Bool) (n : Nat) : Int := if isNegative then -(n : Int) else n

/-! ## Whole numbers -/

/-- The number of digits to a base. -/
def ofBase (base : Nat) (digits : List Char) : Nat :=
  digits.foldl (fun n c => n * base + (Text.hexValue? c).getD 0) 0

/-- The base of a mark after a zero. -/
def base? : Char → Option Nat
  | 'x' => some 16
  | 'o' => some 8
  | 'b' => some 2
  | _ => none

def isDigitOf (base : Nat) (c : Char) : Bool := (Text.hexValue? c).any (· < base)

/-- A whole number: decimal with a sign, or to another base without one. -/
def integer? (s : List Char) : Option Int :=
  let decimal := do
    let (isNegative, digits) := splitSign s
    let digits ← wholeRun? digits
    return signed isNegative (Number.ofDigits digits)
  match s with
  | '0' :: mark :: rest =>
    match base? mark with
    | some base => (digitRun? (isDigitOf base) rest).map fun digits => (ofBase base digits : Nat)
    | none => decimal
  | _ => decimal

/-! ## Numbers with a point -/

/-- A number of its sign and the bits of its magnitude. -/
def floatValue (isNegative : Bool) : Option Nat → Value
  | none => .hugeFloat
  | some bits => .float (if isNegative then Number.signSize + bits else bits).toUInt64

/-- The exponent after its mark. -/
def exponent? (s : List Char) : Option Int := do
  let (isNegative, digits) := splitSign s
  let digits ← digitRun? Char.isDigit digits
  return signed isNegative (Number.ofDigits digits)

def isExponentMark (c : Char) : Bool := c == 'e' || c == 'E'

/-- A number with a point, an exponent or both, after its sign. -/
def decimal? (isNegative : Bool) (s : List Char) : Option Value := do
  let mantissa := s.takeWhile (!isExponentMark ·)
  let exponent ← match s.dropWhile (!isExponentMark ·) with
    | [] => some 0
    | _ :: rest => exponent? rest
  let whole ← wholeRun? (mantissa.takeWhile (· != '.'))
  let fraction ← match mantissa.dropWhile (· != '.') with
    | [] => some []
    | _ :: rest => digitRun? Char.isDigit rest
  let digits := Number.ofDigits (whole ++ fraction)
  return floatValue isNegative (Number.decimalBits? digits (exponent - fraction.length))

def float? (s : List Char) : Option Value :=
  let (isNegative, rest) := splitSign s
  match String.ofList rest with
  | "inf" => some (.float (if isNegative then 0xFFF0000000000000 else 0x7FF0000000000000))
  | "nan" => some (.float (if isNegative then 0xFFF8000000000000 else 0x7FF8000000000000))
  | _ => decimal? isNegative rest

/-! ## Dates and times -/

/-- The seconds of a time of day and their fraction, which may be left out together. -/
def secondsRest? (s : List Char) : Option (List Char) :=
  match s with
  | ':' :: rest => do
    let (second, rest) ← Time.fixedDigits? 2 rest
    let (_, rest) ← Time.fraction? rest
    if second ≤ 60 then some rest else none
  | _ => some s

/-- What follows a time of day. -/
def timeRest? (s : List Char) : Option (List Char) := do
  let (hour, rest) ← Time.fixedDigits? 2 s
  let (minute, rest) ← Time.fixedDigits? 2 (← Time.mark? ':' rest)
  if hour ≤ 23 ∧ minute ≤ 59 then secondsRest? rest else none

def isTimeMark (c : Char) : Bool := c == 'T' || c == 't' || c == ' '

/-- A date, a time of day, or both, with an offset if one is given. -/
def isMoment (s : List Char) : Bool :=
  match Time.date? s with
  | none => timeRest? s == some []
  | some (_, []) => true
  | some (_, mark :: rest) =>
    isTimeMark mark &&
      match timeRest? rest with
      | none => false
      | some [] => true
      | some rest => ((Time.offset? rest).map (·.2)) == some []

/-! ## Words -/

/-- The value that a word stands for. -/
def scalar? (s : List Char) : Option Value :=
  match String.ofList s with
  | "true" => some (.truth true)
  | "false" => some (.truth false)
  | _ =>
    ((integer? s).map Value.integer).or
      ((float? s).or (if isMoment s then some .moment else none))

end FeedSearch.Toml
