-- Tokens of a TOML text. Comments are gaps, and the two forms of line end are
-- one token.
import FeedSearch.Toml.Text

namespace FeedSearch.Toml

/-! ## Tokens -/

inductive Token where
  | openList
  | closeList
  | openTable
  | closeTable
  | comma
  | equals
  | dot
  /-- Blanks or a comment, or one space alone. -/
  | gap (isSpace : Bool)
  | lineEnd
  | word (s : List Char)
  | text (s : String) (hasLines : Bool)
  deriving DecidableEq, Repr

/-- The characters of keys without quotes, of numbers and of times. -/
def isWordChar (c : Char) : Bool :=
  c.isAlphanum || c == '_' || c == '-' || c == '+' || c == ':'

/-- The token of a single character. -/
def mark? : Char → Option Token
  | '[' => some .openList
  | ']' => some .closeList
  | '\x7b' => some .openTable
  | '\x7d' => some .closeTable
  | ',' => some .comma
  | '=' => some .equals
  | '.' => some .dot
  | _ => none

/-- The characters before the next line end. -/
def beforeLineEnd : List Char → List Char
  | [] => []
  | '\n' :: _ => []
  | '\r' :: '\n' :: _ => []
  | c :: rest => c :: beforeLineEnd rest

/-- The token that starts with a character, and how many characters more it has. -/
def token? (c : Char) (rest : List Char) : Option (Token × Nat) :=
  match mark? c with
  | some t => some (t, 0)
  | none =>
    if 0 < lineEndLength (c :: rest) then some (.lineEnd, lineEndLength (c :: rest) - 1)
    else if isGap c then
      let more := rest.takeWhile isGap
      some (.gap (c == ' ' && more.isEmpty), more.length)
    else if c == '#' then
      let comment := beforeLineEnd rest
      if comment.any isForbidden then none else some (.gap false, comment.length)
    else if c == '"' || c == '\'' then
      (scanText? c rest).map fun scan => (.text scan.text scan.hasLines, scan.length)
    else if isWordChar c then
      let more := rest.takeWhile isWordChar
      some (.word (c :: more), more.length)
    else none

/-- All tokens, if every character belongs to one. -/
def tokens : List Char → Option (List Token)
  | [] => some []
  | c :: rest =>
    match token? c rest with
    | none => none
    | some (t, n) => (tokens (rest.drop n)).map (t :: ·)
termination_by s => s.length
decreasing_by simp only [List.length_cons, List.length_drop]; omega

/-- The tokens of a text. A mark of its order at the start is no part of it. -/
def tokensOf (text : String) : Option (List Token) :=
  let cs := match text.toList with
    | '\uFEFF' :: rest => rest
    | cs => cs
  tokens cs

end FeedSearch.Toml
