-- Forms in the query of an address: names and values, joined by equals signs
-- and ampersands.
import FeedSearch.Http.Percent

namespace FeedSearch.Http

/-! ## Writing -/

/-- The characters that stand for themselves in a form. -/
def isFormPlain (c : Char) : Bool := c.isAlphanum || c == '*' || c == '-' || c == '.' || c == '_'

/-- One octet of a name or a value: a space becomes a plus sign. -/
def formOctet (b : UInt8) : List Char :=
  if b == 0x20 then ['+'] else escapeOctets isFormPlain [b]

def formWord (s : String) : String := String.ofList ((Text.Utf8.encode s).flatMap formOctet)

/-- A form as it stands in an address. -/
def formText (pairs : List (String × String)) : String :=
  "&".intercalate (pairs.map fun (name, value) => formWord name ++ "=" ++ formWord value)

/-! ## Reading -/

/-- Reads a name or a value: a plus sign means a space; then escapes are read. Octets that are no
text become replacement characters. -/
def readFormWord (octets : List UInt8) : String :=
  Text.Utf8.decodeLossy (unescape (octets.map fun b => if b == 0x2B then 0x20 else b))

/-- A pair ends its name at the first equals sign; without one its value is empty. -/
def readPair (octets : List UInt8) : String × String :=
  let name := octets.takeWhile (· != 0x3D)
  let value := (octets.dropWhile (· != 0x3D)).drop 1
  (readFormWord name, readFormWord value)

/-- The pairs of a form, in order; empty parts are left out. -/
def readForm (s : String) : List (String × String) :=
  (((Text.Utf8.encode s).splitOn 0x26).filter fun part => !part.isEmpty).map readPair

end FeedSearch.Http
