-- Text as octets. Writing is the UTF-8 of each character in turn. Reading is
-- strict, or lenient: each longest piece of a broken sequence becomes one
-- replacement character.

namespace FeedSearch.Text.Utf8

/-! ## Writing -/

/-- The UTF-8 octets of a text. -/
def encode (s : String) : List UInt8 := s.toUTF8.toList

/-- How many octets the characters have. -/
def size : List Char → Nat
  | [] => 0
  | c :: rest => c.utf8Size + size rest

/-! ## Reading -/

/-- What a first octet asks for: how many octets follow, the bits it brings, and the bounds of
the octet after it. -/
structure Lead where
  follow : Nat
  bits : Nat
  low : Nat := 0x80
  high : Nat := 0xBF

/-- The first octets of well-formed sequences. The bounds rule out overlong forms, surrogates and
code points beyond the last one. -/
def lead? (b : Nat) : Option Lead :=
  if b < 0x80 then some { follow := 0, bits := b }
  else if b < 0xC2 then none
  else if b < 0xE0 then some { follow := 1, bits := b - 0xC0 }
  else if b == 0xE0 then some { follow := 2, bits := 0, low := 0xA0 }
  else if b == 0xED then some { follow := 2, bits := 13, high := 0x9F }
  else if b < 0xF0 then some { follow := 2, bits := b - 0xE0 }
  else if b == 0xF0 then some { follow := 3, bits := 0, low := 0x90 }
  else if b < 0xF4 then some { follow := 3, bits := b - 0xF0 }
  else if b == 0xF4 then some { follow := 3, bits := 4, high := 0x8F }
  else none

/-- Reads the octets that must follow, within the bounds for the next one. Gives the code point,
or nothing if the sequence breaks off, and the octets that are left. -/
def readFollow (low high : Nat) (bits : Nat) : Nat → List UInt8 → Option Nat × List UInt8
  | 0, rest => (some bits, rest)
  | _ + 1, [] => (none, [])
  | n + 1, b :: rest =>
    if low ≤ b.toNat ∧ b.toNat ≤ high then
      readFollow 0x80 0xBF (bits * 64 + (b.toNat - 0x80)) n rest
    else (none, b :: rest)

theorem length_readFollow (low high bits n : Nat) (s : List UInt8) :
    (readFollow low high bits n s).2.length ≤ s.length := by
  induction n generalizing low high bits s with
  | zero => simp [readFollow]
  | succ n ih =>
    cases s with
    | nil => simp [readFollow]
    | cons b rest =>
      simp only [readFollow]
      split
      · exact Nat.le_succ_of_le (ih ..)
      · simp

/-- One character from the front, or nothing for a broken piece, and the octets after it. -/
def readOne (b : UInt8) (rest : List UInt8) : Option Char × List UInt8 :=
  match lead? b.toNat with
  | none => (none, rest)
  | some l =>
    let r := readFollow l.low l.high l.bits l.follow rest
    (r.1.map Char.ofNat, r.2)

theorem length_readOne (b : UInt8) (s : List UInt8) : (readOne b s).2.length ≤ s.length := by
  simp only [readOne]
  split
  · simp
  · exact length_readFollow ..

/-- The characters of the octets, with nothing in the place of each broken piece. -/
def pieces : List UInt8 → List (Option Char)
  | [] => []
  | b :: rest => (readOne b rest).1 :: pieces (readOne b rest).2
termination_by s => s.length
decreasing_by exact Nat.lt_succ_of_le (length_readOne b rest)

/-- The character that stands for a broken piece. -/
def replacement : Char := '\uFFFD'

/-- Reads octets that must all be well formed. -/
def decode? (s : List UInt8) : Option String :=
  ((pieces s).mapM id).map String.ofList

/-- Reads any octets. -/
def decodeLossy (s : List UInt8) : String :=
  String.ofList ((pieces s).map (·.getD replacement))

end FeedSearch.Text.Utf8
