-- Strings of TOML: with escapes or without, on one line or on several. The
-- line ends in them stay as they are.
import FeedSearch.Text.Ascii

namespace FeedSearch.Toml

/-! ## Characters -/

/-- Control characters other than the tab and the line end. -/
def isForbidden (c : Char) : Bool :=
  (c.toNat < 0x20 && c != '\t' && c != '\n') || c == '\x7f'

/-- Whether no character is forbidden. A carriage return is part of a line end. -/
def isClean : List Char → Bool
  | [] => true
  | '\r' :: '\n' :: rest => isClean rest
  | c :: rest => !isForbidden c && isClean rest

def isGap (c : Char) : Bool := c == ' ' || c == '\t'

/-- How many characters the line end at the front has; none if there is no line end. -/
def lineEndLength : List Char → Nat
  | '\n' :: _ => 1
  | '\r' :: '\n' :: _ => 2
  | _ => 0

/-! ## Extent -/

/-- The characters up to the closing mark, which does not follow a backslash if there are
escapes. -/
def scanLine (mark : Char) (escapes held : Bool) : List Char → Option (List Char)
  | [] => none
  | c :: rest =>
    if held then (scanLine mark escapes false rest).map (c :: ·)
    else if c == mark then some []
    else if c == '\n' then none
    else (scanLine mark escapes (escapes && c == '\\') rest).map (c :: ·)

/-- The characters up to three closing marks in a row; one or two marks more belong to the
string. -/
def scanLines (mark : Char) (escapes held : Bool) : List Char → Option (List Char)
  | [] => none
  | c :: rest =>
    let run := ((c :: rest).takeWhile (· == mark)).length
    if held || run < 3 then
      (scanLines mark escapes (!held && escapes && c == '\\') rest).map (c :: ·)
    else if run ≤ 5 then some (List.replicate (run - 3) mark)
    else none

/-! ## Escapes -/

/-- The character of a one-letter escape. -/
def shortEscape? : Char → Option Char
  | 'b' => some '\x08'
  | 't' => some '\t'
  | 'n' => some '\n'
  | 'f' => some '\x0c'
  | 'r' => some '\r'
  | 'e' => some '\x1b'
  | '"' => some '"'
  | '\\' => some '\\'
  | _ => none

/-- How many digits the code point of an escape has. -/
def codeWidth? : Char → Option Nat
  | 'x' => some 2
  | 'u' => some 4
  | 'U' => some 8
  | _ => none

/-- The character of exactly so many hexadecimal digits. -/
def codeChar? (width : Nat) (s : List Char) : Option Char := do
  let digits ← (s.take width).mapM Text.hexValue?
  let n := digits.foldl (fun n d => n * 16 + d) 0
  if digits.length == width && n.isValidChar then some (Char.ofNat n) else none

/-- The blanks and line ends at the end of a line and at the start of the next ones. -/
def lineJoin? (s : List Char) : Option Nat :=
  if lineEndLength (s.dropWhile isGap) == 0 then none
  else some (s.takeWhile fun c => isGap c || c == '\n' || c == '\r').length

/-- An escape after its backslash: what it stands for, and how many characters it has. -/
def escape? (hasLines : Bool) (s : List Char) : Option (List Char × Nat) :=
  match s with
  | [] => none
  | c :: rest =>
    match shortEscape? c, codeWidth? c with
    | some d, _ => some ([d], 1)
    | none, some width => (codeChar? width rest).map fun d => ([d], width + 1)
    | none, none => if hasLines then (lineJoin? s).map fun n => ([], n) else none

/-- Reads the escapes of a string. -/
def unescape (hasLines : Bool) : List Char → Option (List Char)
  | [] => some []
  | c :: rest =>
    if c == '\\' then
      match escape? hasLines rest with
      | none => none
      | some (cs, n) => (unescape hasLines (rest.drop n)).map (cs ++ ·)
    else (unescape hasLines rest).map (c :: ·)
termination_by s => s.length
decreasing_by all_goals simp only [List.length_cons, List.length_drop]; omega

/-! ## Strings -/

/-- What a string says, from the characters between its marks. -/
def content? (escapes hasLines : Bool) (raw : List Char) : Option String :=
  if !isClean raw then none
  else if escapes then (unescape hasLines raw).map String.ofList
  else some (String.ofList raw)

/-- A string: what it says, whether it may have several lines, and how many characters follow its
first mark. -/
structure Scan where
  text : String
  hasLines : Bool
  length : Nat

/-- The string on one line, after its first mark. -/
def scanShort? (mark : Char) (s : List Char) : Option Scan := do
  let raw ← scanLine mark (mark == '"') false s
  let text ← content? (mark == '"') false raw
  return { text, hasLines := false, length := raw.length + 1 }

/-- The string on several lines, after its three marks. A line end right after them does not
count. -/
def scanLong? (mark : Char) (s : List Char) : Option Scan := do
  let raw ← scanLines mark (mark == '"') false s
  let text ← content? (mark == '"') true (raw.drop (lineEndLength s))
  return { text, hasLines := true, length := raw.length + 5 }

/-- The string after its first mark. -/
def scanText? (mark : Char) (s : List Char) : Option Scan :=
  if [mark, mark].isPrefixOf s then scanLong? mark (s.drop 2) else scanShort? mark s

end FeedSearch.Toml
