-- Character references in a text: `&amp;`, `&#38;` and `&#x26;` are all read as
-- one ampersand. What is not a complete reference stays as it is written.
import FeedSearch.Text.NamedReference

namespace FeedSearch.Text

/-! ## One reference -/

/-- The value of digits in a base, each digit read by `value?`; none without digits. -/
def digitsValue? (base : Nat) (value? : Char → Option Nat) (digits : List Char) : Option Nat :=
  if digits.isEmpty then none
  else (digits.mapM value?).map (·.foldl (fun n d => n * base + d) 0)

def decimalValue? (c : Char) : Option Nat := if c.isDigit then some (c.toNat - 48) else none

/-- Code points that a number may name: no surrogate, and of the controls before the blank only
tab, line feed, form feed and carriage return. -/
def mayReference (n : Nat) : Bool :=
  if n < 0x20 then n == 9 || n == 10 || n == 12 || n == 13
  else n < 0xD800 || (0xDFFF < n && n < 0x110000)

/-- The character that a number names. -/
def numberedReference? (n : Nat) : Option Char :=
  if mayReference n then some (Char.ofNat n) else none

/-- What stands between `&` and `;`, read as a character. -/
def resolveReference? : List Char → Option Char
  | '#' :: 'x' :: digits => digitsValue? 16 hexValue? digits >>= numberedReference?
  | '#' :: 'X' :: digits => digitsValue? 16 hexValue? digits >>= numberedReference?
  | '#' :: digits => digitsValue? 10 decimalValue? digits >>= numberedReference?
  | name => namedReference? name

/-! ## A text -/

/-- Whether a character ends what may be the body of a reference. -/
def endsReference (c : Char) : Bool := c == ';' || c == '&'

/-- The reference that starts right after an `&`, with the text after it. -/
def referenceAt? (rest : List Char) : Option (Char × List Char) :=
  match rest.dropWhile (!endsReference ·) with
  | ';' :: after => (resolveReference? (rest.takeWhile (!endsReference ·))).map (·, after)
  | _ => none

theorem length_referenceAt? {rest after : List Char} {c : Char}
    (h : referenceAt? rest = some (c, after)) : after.length < rest.length := by
  simp only [referenceAt?] at h
  split at h
  · next after' hd =>
    have hl := (List.dropWhile_sublist (!endsReference ·) (l := rest)).length_le
    rw [hd] at hl
    simp only [Option.map_eq_some_iff, Prod.mk.injEq] at h
    obtain ⟨_, _, _, rfl⟩ := h
    exact hl
  · simp at h

/-- Reads each reference once; what a reference stands for is not read again. -/
def decodeReferenceChars : List Char → List Char
  | [] => []
  | c :: rest =>
    if c == '&' then
      match _found : referenceAt? rest with
      | some (d, after) => d :: decodeReferenceChars after
      | none => c :: decodeReferenceChars rest
    else c :: decodeReferenceChars rest
termination_by s => s.length
decreasing_by
  · exact Nat.lt_succ_of_lt (length_referenceAt? ‹_›)
  · simp
  · simp

/-- The text with its character references read. -/
def decodeReferences (s : String) : String := String.ofList (decodeReferenceChars s.toList)

end FeedSearch.Text
