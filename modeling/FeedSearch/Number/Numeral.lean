-- Numerals: runs of digits, with a sign where one is allowed, read as numbers of
-- a fixed range.
import FeedSearch.Number.Range
import FeedSearch.Text.Ascii

namespace FeedSearch.Number

/-! ## Digits -/

def digitValue (c : Char) : Nat := c.toNat - 48

/-- The number that a run of digits writes. -/
def ofDigits (digits : List Char) : Nat := digits.foldl (fun n c => n * 10 + digitValue c) 0

/-- Reads one digit or more and nothing else. -/
def natural? (s : List Char) : Option Nat :=
  if s.isEmpty || !s.all Char.isDigit then none else some (ofDigits s)

/-! ## Ranges -/

/-- Why a text writes no number of a range. -/
inductive NumeralFault where
  | empty
  | badDigit
  | tooLarge
  deriving DecidableEq, Repr

def NumeralFault.message : NumeralFault → String
  | .empty => "cannot parse integer from empty string"
  | .badDigit => "invalid digit found in string"
  | .tooLarge => "number too large to fit in target type"

/-- The number that `n` becomes by further digits of a base, at most `most`. Of a bad digit and a
digit that makes the number too large, the first counts. -/
def appendDigits (base most n : Nat) : List Char → Except NumeralFault Nat
  | [] => .ok n
  | c :: rest =>
    match (Text.hexValue? c).filter (· < base) with
    | none => .error .badDigit
    | some d =>
      if n * base + d ≤ most then appendDigits base most (n * base + d) rest
      else .error .tooLarge

/-- Reads a count up to `most`: digits, a plus sign allowed before them. -/
def countUpTo (most : Nat) (s : String) : Except NumeralFault Nat :=
  match s.toList with
  | [] => .error .empty
  | ['+'] => .error .badDigit
  | '+' :: digits => appendDigits 10 most 0 digits
  | digits => appendDigits 10 most 0 digits

/-! ## Signs -/

def countUpTo? (most : Nat) (s : String) : Option Nat := (countUpTo most s).toOption

def count? (s : String) : Option Nat := countUpTo? maxCount s

/-- Reads a signed number of 64 bits: digits, a sign allowed before them. -/
def signed? (s : String) : Option Int :=
  let read := match s.toList with
    | '+' :: rest => (natural? rest).map Int.ofNat
    | '-' :: rest => (natural? rest).map fun n => -Int.ofNat n
    | cs => (natural? cs).map Int.ofNat
  read.filter fitsSigned

/-- Digits of a number, with zeros before them up to `width`. -/
def padded (width n : Nat) : String :=
  let digits := Nat.toDigits 10 n
  String.ofList (List.replicate (width - digits.length) '0' ++ digits)

end FeedSearch.Number
