-- Labels in letters of any script, written with small letters, digits and
-- hyphens. First stand the characters of ASCII; then one number for each other
-- character, which says where it goes and how far it is from the one before it.
import FeedSearch.Number.Range

namespace FeedSearch.Http.Punycode

/-! ## Digits -/

/-- The value of a digit: letters come first, then figures. -/
def digitValue? (c : Char) : Option Nat :=
  if c.isLower then some (c.toNat - 97)
  else if c.isDigit then some (c.toNat - 22)
  else none

def digitOf (d : Nat) : Char := Char.ofNat (if d < 26 then 97 + d else 22 + d)

/-- Digits below this one end a number. Places are counted in steps of 36. -/
def threshold (bias place : Nat) : Nat := if place ≤ bias then 1 else min 26 (place - bias)

theorem threshold_pos (bias place : Nat) : 0 < threshold bias place := by
  simp only [threshold]
  split <;> omega

/-! ## The bias -/

def biasFrom (delta place : Nat) : Nat :=
  if 455 < delta then biasFrom (delta / 35) (place + 36) else place + 36 * delta / (delta + 38)
termination_by delta
decreasing_by exact Nat.div_lt_self (by omega) (by omega)

/-- The bias after a number, when so many characters have been placed. -/
def nextBias (delta placed : Nat) (isFirst : Bool) : Nat :=
  let delta := if isFirst then delta / 700 else delta / 2
  biasFrom (delta + delta / placed) 0

def firstBias : Nat := 72

def firstCode : Nat := 0x80

/-! ## Reading -/

/-- Adds the number at the front of some digits to `n`. Gives the sum and the digits left. -/
def readNumber (bias place weight n : Nat) : List Char → Option (Nat × List Char)
  | [] => none
  | c :: rest =>
    match digitValue? c with
    | none => none
    | some d =>
      let t := threshold bias place
      if d < t then some (n + d * weight, rest)
      else readNumber bias (place + 36) (weight * (36 - t)) (n + d * weight) rest

theorem length_readNumber {bias place weight n m : Nat} {s rest : List Char}
    (h : readNumber bias place weight n s = some (m, rest)) : rest.length < s.length := by
  induction s generalizing place weight n with
  | nil => simp [readNumber] at h
  | cons c s ih =>
    simp only [readNumber] at h
    split at h
    · cases h
    · split at h
      · cases h
        simp
      · exact Nat.lt_succ_of_lt (ih h)

/-- Puts characters into a text, one for each number that the digits write. The last one had a code
below `code` and the place before `index`. -/
def placeAll (bias code index : Nat) (placed : List Char) (s : List Char) : Option (List Char) :=
  match s with
  | [] => some placed
  | c :: digits =>
    match _number : readNumber bias 36 1 index (c :: digits) with
    | none => none
    | some (sum, rest) =>
      let size := placed.length + 1
      let code := code + sum / size
      let place := sum % size
      if code.isValidChar then
        placeAll (nextBias (sum - index) size (index == 0)) code (place + 1)
          (placed.insertIdx place (Char.ofNat code)) rest
      else none
termination_by s.length
decreasing_by exact length_readNumber _number

/-- What stands before the last hyphen, and what stands after it. -/
def splitHyphen (s : List Char) : List Char × List Char :=
  let digits := (s.reverse.takeWhile (· != '-')).reverse
  (s.take (s.length - digits.length - 1), digits)

/-- The label that a text writes. -/
def decode? (s : List Char) : Option (List Char) :=
  let (plain, digits) := splitHyphen s
  placeAll firstBias firstCode 0 plain digits

/-! ## Writing -/

/-- The digits of a number from a place on. -/
def digitsOf (bias place n : Nat) : List Char :=
  let t := threshold bias place
  if n < t then [digitOf n]
  else digitOf (t + (n - t) % (36 - t)) :: digitsOf bias (place + 36) ((n - t) / (36 - t))
termination_by n
decreasing_by
  have h1 := threshold_pos bias place
  have h2 := Nat.div_le_self (n - threshold bias place) (36 - threshold bias place)
  omega

/-- What has been written, and how many steps of the reader since the last number: it steps over
every place for every code. -/
structure Progress where
  written : List Char
  delta : Nat
  bias : Nat
  placed : Nat

/-- One place is stepped over, or takes the character of a code. -/
def Progress.step (code plain : Nat) (p : Progress) (c : Char) : Progress :=
  if c.toNat < code then { p with delta := p.delta + 1 }
  else if c.toNat == code then
    { written := p.written ++ digitsOf p.bias 36 p.delta
      delta := 0
      bias := nextBias p.delta (p.placed + 1) (p.placed == plain)
      placed := p.placed + 1 }
  else p

/-- Writes the characters of some codes, in rising order; codes below `next` are done. -/
def writeCodes (label : List Char) (plain next : Nat) (p : Progress) : List Nat → List Char
  | [] => p.written
  | code :: codes =>
    let p := { p with delta := p.delta + (code - next) * (p.placed + 1) }
    let p := label.foldl (Progress.step code plain) p
    writeCodes label plain (code + 1) { p with delta := p.delta + 1 } codes

/-- The text that writes a label. -/
def encode (label : List Char) : List Char :=
  let plain := label.filter (·.toNat < firstCode)
  let codes := ((label.map Char.toNat).filter (firstCode ≤ ·)).mergeSort.eraseDups
  let start : Progress :=
    { written := [], delta := 0, bias := firstBias, placed := plain.length }
  (if plain.isEmpty then [] else plain ++ ['-']) ++
    writeCodes label plain.length firstCode start codes

end FeedSearch.Http.Punycode
