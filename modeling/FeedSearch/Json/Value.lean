-- JSON values and their written forms: compact on one line, or spread over lines.
import FeedSearch.Json.Number
import FeedSearch.Text.Quoted

namespace FeedSearch.Json

/-- A value; the members of an object keep their order. -/
inductive Value where
  | null
  | truth (b : Bool)
  | number (n : Num)
  | text (s : String)
  | list (items : List Value)
  | object (members : List (String × Value))

namespace Value

def count (n : Nat) : Value := .number (.count n)

/-- A whole number of 64 bits. -/
def integer (n : Int) : Value := if n < 0 then .number (.negative n) else .number (.count n.toNat)

def optional {α : Type} (f : α → Value) : Option α → Value
  | none => .null
  | some a => f a

/-! ## Parts -/

/-- How one character of a string is written. -/
def escapeChar (c : Char) : List Char :=
  match c with
  | '"' => ['\\', '"']
  | '\\' => ['\\', '\\']
  | '\x08' => ['\\', 'b']
  | '\x0c' => ['\\', 'f']
  | '\n' => ['\\', 'n']
  | '\r' => ['\\', 'r']
  | '\t' => ['\\', 't']
  | c =>
    if c.toNat < 0x20 then
      ['\\', 'u', '0', '0', Text.hexDigit (c.toNat / 16), Text.hexDigit (c.toNat % 16)]
    else [c]

/-- A string between quotes. -/
def textForm (s : String) : String :=
  String.ofList ('"' :: s.toList.flatMap escapeChar ++ ['"'])

/-- A number; what is not finite has no form and is written as null. -/
def numberForm : Num → String
  | .count n => toString n
  | .negative n => toString n
  | .float bits =>
    if Number.isFinite bits then Number.floatText .data bits else "null"

/-! ## The compact form -/

mutual

def compact : Value → String
  | .null => "null"
  | .truth b => if b then "true" else "false"
  | .number n => numberForm n
  | .text s => textForm s
  | .list items => "[" ++ ",".intercalate (compactItems items) ++ "]"
  | .object members => "\x7b" ++ ",".intercalate (compactMembers members) ++ "\x7d"

def compactItems : List Value → List String
  | [] => []
  | v :: items => v.compact :: compactItems items

def compactMembers : List (String × Value) → List String
  | [] => []
  | (name, v) :: members => (textForm name ++ ":" ++ v.compact) :: compactMembers members

end

/-! ## The spread form -/

/-- A new line at a depth of indentation. -/
def newLine (depth : Nat) : String := "\n" ++ String.ofList (List.replicate (2 * depth) ' ')

/-- Parts on lines of their own between two marks; nothing between the marks if there are none. -/
def spreadParts (depth : Nat) (opening closing : String) : List String → String
  | [] => opening ++ closing
  | parts =>
    opening ++ newLine (depth + 1) ++ ("," ++ newLine (depth + 1)).intercalate parts ++
      newLine depth ++ closing

mutual

def spread (depth : Nat) : Value → String
  | .null => "null"
  | .truth b => if b then "true" else "false"
  | .number n => numberForm n
  | .text s => textForm s
  | .list items => spreadParts depth "[" "]" (spreadItems (depth + 1) items)
  | .object members => spreadParts depth "\x7b" "\x7d" (spreadMembers (depth + 1) members)

def spreadItems (depth : Nat) : List Value → List String
  | [] => []
  | v :: items => v.spread depth :: spreadItems depth items

def spreadMembers (depth : Nat) : List (String × Value) → List String
  | [] => []
  | (name, v) :: members => (textForm name ++ ": " ++ v.spread depth) :: spreadMembers depth members

end

end Value

end FeedSearch.Json
