-- Letters of ASCII: upper and lower case are told apart for these alone.

namespace FeedSearch.Text

/-- Writes the letters A to Z small and leaves all else. -/
def asciiLower (s : String) : String := String.ofList (s.toList.map Char.toLower)

/-- Two texts that differ at most in the case of the letters A to Z. -/
def sameWord (a b : String) : Bool := asciiLower a == asciiLower b

/-- The value of a hexadecimal digit of either case. -/
def hexValue? (c : Char) : Option Nat :=
  if '0' ≤ c ∧ c ≤ '9' then some (c.toNat - 48)
  else if 'a' ≤ c ∧ c ≤ 'f' then some (c.toNat - 87)
  else if 'A' ≤ c ∧ c ≤ 'F' then some (c.toNat - 55)
  else none

/-- The small hexadecimal digit of a value below sixteen. -/
def hexDigit (n : Nat) : Char := if n < 10 then Char.ofNat (48 + n) else Char.ofNat (87 + n)

end FeedSearch.Text
