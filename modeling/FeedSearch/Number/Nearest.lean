-- The binary number nearest to a decimal one. All arithmetic is exact, on
-- natural numbers, and rounded once.
import FeedSearch.Number.Range

namespace FeedSearch.Number

/-! ## Quotients -/

/-- The number nearest to `n / d`; of two equally near the even one. -/
def nearestQuotient (n d : Nat) : Nat :=
  let below := n / d
  let twice := 2 * (n % d)
  if twice < d then below else if d < twice then below + 1 else below + below % 2

/-- The nearest number is at most half of one away. -/
theorem nearestQuotient_near (n : Nat) {d : Nat} (h : 0 < d) :
    2 * n ≤ 2 * (d * nearestQuotient n d) + d ∧ 2 * (d * nearestQuotient n d) ≤ 2 * n + d := by
  have whole := Nat.div_add_mod n d
  have left := Nat.mod_lt n h
  have even := Nat.mod_lt (n / d) (by decide : 2 > 0)
  simp only [nearestQuotient]
  split
  · omega
  · split
    · rw [Nat.mul_add]; omega
    · rw [Nat.mul_add]
      have := Nat.mul_le_mul_left d (Nat.le_of_lt_succ even)
      have := Nat.zero_le (d * (n / d % 2))
      omega

/-- A quotient without a remainder is itself the nearest number. -/
theorem nearestQuotient_mul (q : Nat) {d : Nat} (h : 0 < d) : nearestQuotient (d * q) d = q := by
  simp [nearestQuotient, Nat.mul_div_cancel_left q h, h]

/-- The numerator and the denominator of `n / d` in units of `2 ^ e`. -/
def inUnits (n d : Nat) (e : Int) : Nat × Nat := (n * twoTo (-e).toNat, d * twoTo e.toNat)

/-! ## Bits -/

/-- The exponent of the smallest numbers. -/
def lowestExponent : Int := -1074

/-- The exponent at which `n / d` has a mantissa of 53 bits, or of fewer if it is the lowest one.
The lengths of `n` and `d` give a guess that may be too low by one. -/
def mantissaExponent (n d : Nat) : Int :=
  let guess := max ((n.log2 : Int) - d.log2 - 53) lowestExponent
  let (a, b) := inUnits n d guess
  if a / b < 2 * fractionSize then guess else guess + 1

/-- The bits of the number nearest to `n / d`; nothing if it is beyond all of them. A mantissa that
is rounded up to 54 bits carries into the exponent. -/
def nearestBits? (n d : Nat) : Option Nat :=
  if n == 0 then some 0
  else
    let e := mantissaExponent n d
    let (a, b) := inUnits n d e
    let bits := (e - lowestExponent).toNat * fractionSize + nearestQuotient a b
    if bits < topExponent * fractionSize then some bits else none

/-- The bits of the number nearest to `digits * 10 ^ exponent`. Exponents far beyond the range are
cut before they are worked out. -/
def decimalBits? (digits : Nat) (exponent : Int) : Option Nat :=
  let first : Int := exponent + (Nat.toDigits 10 digits).length
  if digits == 0 || first < -400 then some 0
  else if 400 < first then none
  else nearestBits? (digits * tenTo exponent.toNat) (tenTo (-exponent).toNat)

end FeedSearch.Number
