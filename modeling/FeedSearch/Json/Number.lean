-- Numbers of JSON: how they are written, and the value that a strict reader
-- gives them. Whole numbers stay exact as long as 64 bits hold them.
import FeedSearch.Json.Fault
import FeedSearch.Number.Numeral

namespace FeedSearch.Json

/-! ## Values -/

/-- A count of 64 bits, a negative number of 64 bits, or a floating-point number. -/
inductive Num where
  | count (n : Nat)
  | negative (n : Int)
  | float (bits : UInt64)
  deriving DecidableEq, Repr

def Num.found : Num → Shape.Found
  | .count n => .integer n
  | .negative n => .integer n
  | .float bits => .float bits

/-- The number as a floating-point number. -/
def Num.toFloat : Num → Float
  | .count n => n.toUInt64.toFloat
  | .negative n => -n.natAbs.toUInt64.toFloat
  | .float bits => Float.ofBits bits

/-! ## Written form -/

/-- The parts of a written number. -/
structure Numeral where
  isNegative : Bool
  whole : List Char
  fraction : List Char
  /-- Whether the exponent is negative, and its digits. -/
  exponent : Option (Bool × List Char)

/-- Whether the number is written without a point and without an exponent. -/
def Numeral.isWhole (n : Numeral) : Bool := n.fraction.isEmpty && n.exponent.isNone

/-! ## The value -/

/-- Adds digits to a number of 64 bits up to the first that no longer fits. Gives the number and
the digits that are left. -/
def takeFitting (n : Nat) : List Char → Nat × List Char
  | [] => (n, [])
  | c :: rest =>
    let next := n * 10 + Number.digitValue c
    if next ≤ Number.maxCount then takeFitting next rest else (n, c :: rest)

/-- Divides by a power of ten that is at most the largest, in one step or in several; a number
below two to the power of 64 has become zero after three steps of the largest. -/
def divideByPower (f : Float) (power : Nat) : Nat → Float
  | 0 => 0.0
  | steps + 1 =>
    if power ≤ 308 then f / Float.ofScientific 1 false power
    else divideByPower (f / 1e308) (power - 308) steps

/-- The number `significand * 10 ^ exponent`, computed on floating-point numbers. Nothing if it is
beyond them. -/
def scaledFloat? (significand : Nat) (exponent : Int) : Option Float :=
  let f := significand.toUInt64.toFloat
  if 0 ≤ exponent then
    if exponent ≤ 308 then
      let product := f * Float.ofScientific 1 false exponent.toNat
      if product.isInf then none else some product
    else if significand == 0 then some f else none
  else some (divideByPower f exponent.natAbs 4)

/-- The largest exponent that is read as a number. -/
def maxExponent : Nat := 0x7FFFFFFF

/-- The significand of 64 bits and the power of ten that it is to be scaled by, without the
written exponent: digits that do not fit are dropped. -/
def Numeral.significand (n : Numeral) : Nat × Int :=
  let (whole, dropped) := takeFitting 0 n.whole
  let (all, unread) := takeFitting whole n.fraction
  (all, (dropped.length : Int) - (n.fraction.length - unread.length : Nat))

/-- The written exponent; nothing if it is beyond the largest that is read. -/
def Numeral.power? (n : Numeral) : Option Int :=
  match n.exponent with
  | none => some 0
  | some (negative, digits) =>
    let e := Number.ofDigits digits
    if e ≤ maxExponent then some (if negative then -(e : Int) else e) else none

def signedFloat (negative : Bool) (f : Float) : Num := .float (if negative then -f else f).toBits

/-- The number as a floating-point number; nothing if it is too large. -/
def Numeral.float? (n : Numeral) : Option Num :=
  let (significand, shift) := n.significand
  match n.power? with
  | some power => (scaledFloat? significand (shift + power)).map (signedFloat n.isNegative)
  | none =>
    if significand != 0 && n.exponent.map (·.1) == some false then none
    else some (signedFloat n.isNegative 0.0)

/-- The value of a written number; nothing if it is too large. A whole number that 64 bits hold is
exact; zero with a minus sign is not whole. -/
def Numeral.value? (n : Numeral) : Option Num :=
  let whole := Number.ofDigits n.whole
  if n.isWhole && whole ≤ Number.maxCount then
    if !n.isNegative then some (.count whole)
    else if whole != 0 && whole ≤ Number.signSize then some (.negative (-(whole : Int)))
    else some (signedFloat true whole.toUInt64.toFloat)
  else n.float?

/-! ## Reading -/

/-- What reading a number gives: its written form with the offset after it and the rest of the
text, or a break. -/
abbrev NumeralScan := Except Break (Numeral × Nat × List Char)

/-- Where digits must follow, at `offset`, there are none: what stands there is `rest`. -/
def noDigit (offset : Nat) (rest : List Char) : Break :=
  match rest with
  | [] => ⟨⟨.endInValue, offset⟩, ⟨.badNumber, offset⟩⟩
  | _ :: _ => .at .badNumber (offset + 1)

def isExponentMark (c : Char) : Bool := c == 'e' || c == 'E'

/-- The digits of an exponent, after its sign. -/
def scanPower (n : Numeral) (negative : Bool) (offset : Nat) (s : List Char) : NumeralScan :=
  let digits := s.takeWhile Char.isDigit
  if digits.isEmpty then .error (noDigit offset s)
  else
    .ok ({ n with exponent := some (negative, digits) }, offset + digits.length,
      s.drop digits.length)

/-- The exponent, after its mark. -/
def scanExponent (n : Numeral) (offset : Nat) (s : List Char) : NumeralScan :=
  match s with
  | '+' :: rest => scanPower n false (offset + 1) rest
  | '-' :: rest => scanPower n true (offset + 1) rest
  | _ => scanPower n false offset s

/-- What may follow the digits before it: an exponent. -/
def scanAfterFraction (n : Numeral) (offset : Nat) (s : List Char) : NumeralScan :=
  match s with
  | c :: rest => if isExponentMark c then scanExponent n (offset + 1) rest else .ok (n, offset, s)
  | [] => .ok (n, offset, s)

/-- What may follow the digits of the whole part: a fraction, an exponent. -/
def scanAfterWhole (n : Numeral) (offset : Nat) (s : List Char) : NumeralScan :=
  match s with
  | '.' :: rest =>
    let digits := rest.takeWhile Char.isDigit
    if digits.isEmpty then .error (noDigit (offset + 1) rest)
    else
      scanAfterFraction { n with fraction := digits } (offset + 1 + digits.length)
        (rest.drop digits.length)
  | _ => scanAfterFraction n offset s

/-- A number without its sign. No digit follows a zero at the front. -/
def scanUnsigned (negative : Bool) (offset : Nat) (s : List Char) : NumeralScan :=
  let digits := s.takeWhile Char.isDigit
  match digits with
  | [] => .error (noDigit offset s)
  | '0' :: _ :: _ => .error (.at .badNumber (offset + 2))
  | _ =>
    scanAfterWhole { isNegative := negative, whole := digits, fraction := [], exponent := none }
      (offset + digits.length) (s.drop digits.length)

/-- Reads a number from the front of a text at an offset. -/
def scanNumeral (offset : Nat) (s : List Char) : NumeralScan :=
  match s with
  | '-' :: rest => scanUnsigned true (offset + 1) rest
  | _ => scanUnsigned false offset s

theorem length_scanPower {n m : Numeral} {negative : Bool} {offset stop : Nat}
    {s rest : List Char} (h : scanPower n negative offset s = .ok (m, stop, rest)) :
    rest.length ≤ s.length := by
  unfold scanPower at h
  dsimp only at h
  split at h
  · cases h
  · cases h
    simp

theorem length_scanExponent {n m : Numeral} {offset stop : Nat} {s rest : List Char}
    (h : scanExponent n offset s = .ok (m, stop, rest)) : rest.length ≤ s.length := by
  unfold scanExponent at h
  split at h
  · exact Nat.le_succ_of_le (length_scanPower h)
  · exact Nat.le_succ_of_le (length_scanPower h)
  · exact length_scanPower h

theorem length_scanAfterFraction {n m : Numeral} {offset stop : Nat} {s rest : List Char}
    (h : scanAfterFraction n offset s = .ok (m, stop, rest)) : rest.length ≤ s.length := by
  unfold scanAfterFraction at h
  split at h
  · split at h
    · exact Nat.le_succ_of_le (length_scanExponent h)
    · cases h; exact Nat.le_refl _
  · cases h; exact Nat.le_refl _

theorem length_scanAfterWhole {n m : Numeral} {offset stop : Nat} {s rest : List Char}
    (h : scanAfterWhole n offset s = .ok (m, stop, rest)) : rest.length ≤ s.length := by
  unfold scanAfterWhole at h
  split at h
  · dsimp only at h
    split at h
    · cases h
    · have := length_scanAfterFraction h
      simp only [List.length_drop] at this
      simp only [List.length_cons]
      omega
  · exact length_scanAfterFraction h

theorem length_scanUnsigned {negative : Bool} {m : Numeral} {offset stop : Nat} {s rest : List Char}
    (h : scanUnsigned negative offset s = .ok (m, stop, rest)) : rest.length < s.length := by
  unfold scanUnsigned at h
  dsimp only at h
  split at h
  · cases h
  · cases h
  · next hne _ =>
    have hle := length_scanAfterWhole h
    have hpos : 0 < (s.takeWhile Char.isDigit).length := by
      cases ht : s.takeWhile Char.isDigit with
      | nil => exact absurd ht hne
      | cons => simp
    have hlen := (List.takeWhile_sublist Char.isDigit (l := s)).length_le
    simp only [List.length_drop] at hle
    omega

theorem length_scanNumeral {m : Numeral} {offset stop : Nat} {s rest : List Char}
    (h : scanNumeral offset s = .ok (m, stop, rest)) : rest.length < s.length := by
  unfold scanNumeral at h
  split at h
  · exact Nat.lt_succ_of_lt (length_scanUnsigned h)
  · exact length_scanUnsigned h

/-- The digits of an exponent up to the first that makes it too large. -/
def tooLargeAfter (e : Nat) : List Char → Nat
  | [] => 0
  | c :: rest =>
    let next := e * 10 + Number.digitValue c
    if next ≤ maxExponent then tooLargeAfter next rest + 1 else 1

/-- Where a number that is too large shows it: at its end, or earlier in its exponent. -/
def Numeral.tooLargeAt (n : Numeral) (stop : Nat) : Nat :=
  match n.exponent, n.power? with
  | some (_, digits), none => stop - digits.length + tooLargeAfter 0 digits
  | _, _ => stop

/-- The value that a strict reader gives a number that ends at `stop`. -/
def Numeral.strict (n : Numeral) (stop : Nat) : Except Fault Num :=
  match n.value? with
  | some v => .ok v
  | none => .error ⟨.numberTooLarge, n.tooLargeAt stop⟩

end FeedSearch.Json
