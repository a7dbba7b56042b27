-- Sizes and ranges of numbers: powers of two and of ten, the numbers that fit
-- some bits, and the parts of a floating-point number.

namespace FeedSearch.Number

/-! ## Powers -/

def twoTo (n : Nat) : Nat := Nat.pow 2 n

def tenTo (n : Nat) : Nat := Nat.pow 10 n

/-! ## Ranges -/

/-- How many numbers lie on one side of the sign, of all that have 64 bits. -/
def signSize : Nat := 0x8000000000000000

/-- The same for numbers of 128 bits. -/
def signSize128 : Nat := 0x80000000000000000000000000000000

/-- The largest count of 64 bits. -/
def maxCount : Nat := 0xFFFFFFFFFFFFFFFF

/-- The largest count of 32 bits. -/
def maxCount32 : Nat := 0xFFFFFFFF

/-- Whether a number is a signed one of 64 bits. -/
def fitsSigned (n : Int) : Bool := -(signSize : Int) ≤ n && n < signSize

/-! ## Floating-point numbers -/

/-- How many fractions there are. -/
def fractionSize : Nat := 0x10000000000000

/-- The exponent of numbers that are infinite or no numbers. -/
def topExponent : Nat := 2047

/-- The exponent, from the 64 bits of a number. -/
def exponentField (bits : UInt64) : Nat := bits.toNat / fractionSize % (topExponent + 1)

def fractionField (bits : UInt64) : Nat := bits.toNat % fractionSize

/-- Whether the sign of a number is a minus. -/
def hasMinus (bits : UInt64) : Bool := signSize ≤ bits.toNat

/-- Neither infinite nor no number. -/
def isFinite (bits : UInt64) : Bool := exponentField bits != topExponent

end FeedSearch.Number
