-- The lower case of a text, for every letter of Unicode. One letter looks at
-- its neighbours: a capital sigma is written ς at the end of a word, else σ.
import FeedSearch.Text.LetterCase

namespace FeedSearch.Text

/-! ## One character -/

def isCased (c : Char) : Bool := inRanges casedRanges c.toNat

def isCaseIgnorable (c : Char) : Bool := inRanges caseIgnorableRanges c.toNat

/-- The small form of a character that has one, looked up by code point. -/
def smallForm? (n : Nat) : Option Nat :=
  (smallForms.find? (·.covers n)).map (·.small n)

/-- The lower case of a character on its own: the dotted capital I has two characters. -/
def lowerChar (c : Char) : List Char :=
  if c.toNat < 0x80 then [c.toLower]
  else if c.toNat == 0x130 then ['i', '\u0307']
  else [((smallForm? c.toNat).map Char.ofNat).getD c]

/-! ## A text -/

/-- Whether the first character that case does not ignore is a cased one. -/
def meetsCased (s : List Char) : Bool :=
  ((s.dropWhile isCaseIgnorable).head?.map isCased).getD false

/-- The lower case of `c` between the text before it, read backwards, and the text after it. -/
def lowerBetween (before : List Char) (c : Char) (after : List Char) : List Char :=
  if c == 'Σ' then
    if meetsCased before && !meetsCased after then ['ς'] else ['σ']
  else lowerChar c

def lowerFrom (before : List Char) : List Char → List Char
  | [] => []
  | c :: after => lowerBetween before c after ++ lowerFrom (c :: before) after

def lowerChars (s : List Char) : List Char := lowerFrom [] s

/-- The text in lower case. -/
def lowercase (s : String) : String := String.ofList (lowerChars s.toList)

end FeedSearch.Text
