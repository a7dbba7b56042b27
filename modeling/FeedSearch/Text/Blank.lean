-- Blank characters. A text is trimmed, cut into words, and brought into the
-- form in which its words stand one space apart.

namespace FeedSearch.Text

/-! ## The class -/

/-- A blank is a character with the Unicode White_Space property. -/
def isBlank (c : Char) : Bool :=
  let n := c.toNat
  (9 ≤ n && n ≤ 13) || n == 0x20 || n == 0x85 || n == 0xA0 || n == 0x1680 ||
    (0x2000 ≤ n && n ≤ 0x200A) || n == 0x2028 || n == 0x2029 || n == 0x202F ||
    n == 0x205F || n == 0x3000

theorem isBlank_of_isWhitespace (c : Char) (h : c.isWhitespace = true) : isBlank c = true := by
  simp only [Char.isWhitespace, Bool.or_eq_true, decide_eq_true_eq] at h
  rcases h with ((rfl | rfl) | rfl) | rfl <;> decide

/-! ## Trimming -/

def trimStart (s : List Char) : List Char := s.dropWhile isBlank

def trimEnd (s : List Char) : List Char := (s.reverse.dropWhile isBlank).reverse

/-- Drops the blanks at both ends. -/
def trimChars (s : List Char) : List Char := trimEnd (trimStart s)

/-- The text without the blanks at its two ends. -/
def trim (s : String) : String := String.ofList (trimChars s.toList)

/-- A text is blank if it holds nothing but blanks. -/
def isBlankText (s : String) : Bool := s.toList.all isBlank

/-! ## One space between words -/

/-- Writes one space for each run of blanks; `inRun` says that the run has its space already. -/
def squeezeFrom : Bool → List Char → List Char
  | _, [] => []
  | inRun, c :: rest =>
    if isBlank c then
      if inRun then squeezeFrom true rest else ' ' :: squeezeFrom true rest
    else c :: squeezeFrom false rest

def squeeze (s : List Char) : List Char := squeezeFrom false s

/-- The text with its ends trimmed and each run of blanks replaced by one space. -/
def spaced (s : String) : String := String.ofList (squeeze (trimChars s.toList))

/-- The maximal runs of characters that are not blank. -/
def words (s : List Char) : List (List Char) :=
  (s.splitOnP isBlank).filter fun w => !w.isEmpty

end FeedSearch.Text
