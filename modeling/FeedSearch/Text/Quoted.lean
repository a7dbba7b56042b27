-- A text between double quotes, for messages. A quote, a backslash and every
-- character that does not show is written as an escape.
import FeedSearch.Text.Ascii
import FeedSearch.Text.Printable

namespace FeedSearch.Text

/-- The hexadecimal digits of a number, at least `width` of them. -/
def hexText (width n : Nat) : String :=
  let digits := Nat.toDigits 16 n
  String.ofList (List.replicate (width - digits.length) '0' ++ digits)

/-- How one character of a quoted text is written. -/
def quoteChar (c : Char) : String :=
  match c with
  | '"' => "\\\""
  | '\\' => "\\\\"
  | '\n' => "\\n"
  | '\r' => "\\r"
  | '\t' => "\\t"
  | '\x00' => "\\0"
  | c => if isPrintable c then c.toString else "\\u\x7b" ++ hexText 1 c.toNat ++ "\x7d"

/-- The text between double quotes. -/
def quoted (s : String) : String := "\"" ++ String.join (s.toList.map quoteChar) ++ "\""

end FeedSearch.Text
