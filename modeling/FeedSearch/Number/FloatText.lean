-- Floating-point numbers as text: the shortest digits, written with a point or
-- with an exponent.
import FeedSearch.Number.Numeral
import FeedSearch.Number.Shortest

namespace FeedSearch.Number

/-- Which exponents of the first digit are written with a point; all of them if there is no
range. -/
structure FloatFormat where
  positional : Option (Int × Int)

/-- Data formats and their messages write a point for exponents from -5 to 15. -/
def FloatFormat.data : FloatFormat := ⟨some (-5, 15)⟩

/-- Prose always writes a point. -/
def FloatFormat.prose : FloatFormat := ⟨none⟩

/-- Digits with a point after the first `point` of them, and zeros where there is no digit. -/
def pointed (digits : List Char) (point : Int) : String :=
  if point ≤ 0 then
    "0." ++ String.ofList (List.replicate (-point).toNat '0' ++ digits)
  else
    let whole := digits.take point.toNat
    let zeros := List.replicate (point.toNat - digits.length) '0'
    let rest := digits.drop point.toNat
    String.ofList (whole ++ zeros) ++ "." ++ (if rest.isEmpty then "0" else String.ofList rest)

/-- Digits with a point after the first, and an exponent with its sign. -/
def scaled (digits : List Char) (exponent : Int) : String :=
  let tail := digits.drop 1
  let mark := if tail.isEmpty then "" else "." ++ String.ofList tail
  let sign := if exponent < 0 then "-" else "+"
  String.ofList (digits.take 1) ++ mark ++ "e" ++ sign ++ toString exponent.natAbs

def decimalText (format : FloatFormat) (d : Decimal) : String :=
  let digits := Nat.toDigits 10 d.digits
  let first := d.exponent + digits.length - 1
  let inRange := match format.positional with
    | none => true
    | some (low, high) => low ≤ first && first ≤ high
  if inRange then pointed digits (first + 1) else scaled digits first

/-- The text of a number given by its bits. -/
def floatText (format : FloatFormat) (bits : UInt64) : String :=
  let sign := if hasMinus bits then "-" else ""
  if isFinite bits then sign ++ decimalText format (Binary.ofBits bits).shortest
  else if fractionField bits == 0 then sign ++ "inf"
  else "NaN"

end FeedSearch.Number
