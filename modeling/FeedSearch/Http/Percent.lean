-- Percent escapes: an octet written as a percent sign and two hexadecimal
-- digits.
import FeedSearch.Text.Ascii
import FeedSearch.Text.Utf8

namespace FeedSearch.Http

/-! ## Writing -/

/-- An octet as an escape, with capital digits. -/
def escapeOctet (b : UInt8) : List Char :=
  ['%', (Text.hexDigit (b.toNat / 16)).toUpper, (Text.hexDigit (b.toNat % 16)).toUpper]

/-- Writes octets; those that are `plain` stand for themselves, as characters. -/
def escapeOctets (plain : Char → Bool) (octets : List UInt8) : List Char :=
  octets.flatMap fun b =>
    let c := Char.ofNat b.toNat
    if b < 0x80 && plain c then [c] else escapeOctet b

def escapeText (plain : Char → Bool) (s : String) : String :=
  String.ofList (escapeOctets plain (Text.Utf8.encode s))

/-! ## Reading -/

/-- The octet of two hexadecimal digits. -/
def octetOf? (high low : UInt8) : Option UInt8 := do
  let h ← Text.hexValue? (Char.ofNat high.toNat)
  let l ← Text.hexValue? (Char.ofNat low.toNat)
  return (h * 16 + l).toUInt8

/-- Reads escapes. A percent sign without two digits after it stands for itself. -/
def unescape : List UInt8 → List UInt8
  | 0x25 :: high :: low :: rest =>
    match octetOf? high low with
    | some b => b :: unescape rest
    | none => 0x25 :: unescape (high :: low :: rest)
  | b :: rest => b :: unescape rest
  | [] => []

end FeedSearch.Http
