-- Names of hosts. A name may be written in letters of any script; what is sent
-- holds characters of ASCII alone.
import FeedSearch.Http.Punycode
import FeedSearch.Text.Alphanumeric
import FeedSearch.Text.Lowercase
import FeedSearch.Text.Printable

namespace FeedSearch.Http.Domain

/-! ## Characters -/

/-- The ranges of characters that stand for nothing in a name. -/
def ignoredRanges : List (Nat × Nat) := [
  (0xAD, 0xAD), (0x34F, 0x34F), (0x180B, 0x180D), (0x180F, 0x180F), (0x200B, 0x200B),
  (0x2060, 0x2060), (0x2064, 0x2064), (0xFE00, 0xFE0F), (0xFEFF, 0xFEFF), (0xE0100, 0xE01EF)]

/-- The ranges of characters that shape the text around them. -/
def formatRanges : List (Nat × Nat) := [
  (0xAD, 0xAD), (0x600, 0x605), (0x61C, 0x61C), (0x6DD, 0x6DD), (0x70F, 0x70F), (0x890, 0x891),
  (0x8E2, 0x8E2), (0x180E, 0x180E), (0x200B, 0x200F), (0x202A, 0x202E), (0x2060, 0x206F),
  (0xFEFF, 0xFEFF), (0xFFF9, 0xFFFB), (0x110BD, 0x110BD), (0x110CD, 0x110CD), (0x13430, 0x1343F),
  (0x1BCA0, 0x1BCA3), (0x1D173, 0x1D17A), (0xE0001, 0xE007F)]

/-- The ranges of characters that are short for several, of which a name does not hold one. -/
def shorthandRanges : List (Nat × Nat) := [
  (0xA8, 0xA8), (0xAF, 0xAF), (0xB4, 0xB4), (0xB8, 0xB8), (0x2D8, 0x2DD), (0x37A, 0x37A),
  (0x384, 0x385), (0x1FBD, 0x1FBD), (0x1FBF, 0x1FC1), (0x1FCD, 0x1FCF), (0x1FDD, 0x1FDF),
  (0x1FED, 0x1FEE), (0x1FFD, 0x1FFE), (0x2017, 0x2017), (0x2024, 0x2026), (0x203E, 0x203E),
  (0x2047, 0x2049), (0x2100, 0x2101), (0x2105, 0x2106), (0x2488, 0x249B), (0x2A74, 0x2A74),
  (0x309B, 0x309C), (0x33C2, 0x33C2), (0x33C7, 0x33C7), (0x33D8, 0x33D8), (0xFC5E, 0xFC63),
  (0xFDFA, 0xFDFB), (0xFE13, 0xFE13), (0xFE16, 0xFE16), (0xFE19, 0xFE19), (0xFE30, 0xFE30),
  (0xFE47, 0xFE4C), (0xFE52, 0xFE52), (0xFE55, 0xFE56), (0xFE5F, 0xFE5F), (0xFE64, 0xFE65),
  (0xFE68, 0xFE68), (0xFE6A, 0xFE6B), (0xFE70, 0xFE70), (0xFE72, 0xFE72), (0xFE74, 0xFE74),
  (0xFE76, 0xFE76), (0xFE78, 0xFE78), (0xFE7A, 0xFE7A), (0xFE7C, 0xFE7C), (0xFE7E, 0xFE7E),
  (0xFFE3, 0xFFE3), (0x1F100, 0x1F100)]

/-- Digits in other shapes, high, low, in circles or in the letters of mathematics: the first and
the last of a row, and the digit that the first of them shows. After nine a row starts again. -/
def digitRows : List (Nat × Nat × Nat) := [
  (0xB2, 0xB3, 2), (0xB9, 0xB9, 1), (0x2070, 0x2070, 0), (0x2074, 0x2079, 4), (0x2080, 0x2089, 0),
  (0x2460, 0x2468, 1), (0x24EA, 0x24EA, 0), (0x1D7CE, 0x1D7FF, 0), (0x1FBF0, 0x1FBF9, 0)]

/-- A mark that belongs to the character before it. -/
def isMark (c : Char) : Bool :=
  Text.isCaseIgnorable c && !Text.isPrintable c && !Text.inRanges formatRanges c.toNat

/-- The characters of ASCII that no name holds. -/
def isDenied (c : Char) : Bool :=
  c ≤ ' ' || c == '\x7f' || "%#/:<>?@[\\]^|".toList.contains c

/-- Characters that a name may hold. -/
def isAllowed (c : Char) : Bool :=
  if c.toNat < 0x80 then !isDenied c
  else if Text.inRanges shorthandRanges c.toNat then false
  else (Text.isPrintable c && c != '\uFFFD') || isMark c

/-- The digit that a character in another shape shows. -/
def digit? (n : Nat) : Option Char :=
  (digitRows.find? fun (low, high, _) => low ≤ n && n ≤ high).map fun (low, _, first) =>
    Char.ofNat (48 + (first + (n - low)) % 10)

/-- The character of ASCII that is meant by a wide form of it, by a digit in another shape, and by
the full stops of other scripts. -/
def plainForm (c : Char) : Char :=
  let n := c.toNat
  if n == 0x3002 || n == 0xFF61 then '.'
  else if 0xFF01 ≤ n && n ≤ 0xFF5E then Char.ofNat (n - 0xFEE0)
  else (digit? n).getD c

/-- What a character of a name stands for. -/
def mapped (c : Char) : List Char :=
  if Text.inRanges ignoredRanges c.toNat then [] else Text.lowerChar (plainForm c)

/-! ## Directions -/

/-- Letters that are written from right to left. -/
def isLeftward (c : Char) : Bool :=
  Text.isAlphanumeric c &&
    Text.inRanges [(0x590, 0x65F), (0x66A, 0x6EF), (0x6FA, 0x8FF), (0xFB1D, 0xFDFF),
      (0xFE70, 0xFEFC), (0x10800, 0x10D2F), (0x10D40, 0x10FFF), (0x1E800, 0x1EFFF)] c.toNat

def isRightward (c : Char) : Bool :=
  Text.isAlphanumeric c && !c.isDigit && !Text.inRanges [(0x660, 0x669), (0x6F0, 0x6F9)] c.toNat &&
    !isLeftward c

/-- Whether a label has a direction, from its first letter to its end. -/
def hasDirection (label : List Char) : Bool :=
  match label with
  | [] => true
  | first :: _ =>
    ((label.reverse.dropWhile isMark).head?.map Text.isAlphanumeric).getD false &&
      if isLeftward first then !label.any isRightward
      else isRightward first && !label.any isLeftward

/-! ## Labels -/

/-- How a label starts that holds letters of other scripts. -/
def mark : List Char := ['x', 'n', '-', '-']

/-- The letters of a label. A label that writes letters of other scripts must write at least one,
and no character that stands for another. -/
def letters? (label : List Char) : Option (List Char) :=
  if mark.isPrefixOf label then
    (Punycode.decode? (label.drop mark.length)).filter fun letters =>
      letters.any (0x80 ≤ ·.toNat) && letters.all fun c => mapped c == [c]
  else some label

/-- Whether letters make a label: no mark stands first. -/
def isLabel (letters : List Char) : Bool :=
  letters.all isAllowed && !(letters.head?.map isMark).getD false

/-- A label in characters of ASCII. -/
def asciiLabel (letters : List Char) : List Char :=
  if letters.any (0x80 ≤ ·.toNat) then mark ++ Punycode.encode letters else letters

/-! ## Names -/

/-- The form of a name that is sent. In a name with letters from right to left every label has one
direction. -/
def ascii? (name : List Char) : Option (List Char) := do
  let labels ← ((name.flatMap mapped).splitOn '.').mapM letters?
  let isLeft := labels.any (·.any isLeftward)
  if labels.all fun l => isLabel l && (!isLeft || hasDirection l) then
    some (List.intercalate ['.'] (labels.map asciiLabel))
  else none

end FeedSearch.Http.Domain
