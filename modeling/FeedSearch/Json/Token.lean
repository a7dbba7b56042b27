-- Tokens of a JSON text, each with the octets it covers. Blanks between tokens
-- are left out, and the tokens end where even a lenient reader cannot go on.
import FeedSearch.Json.Number
import FeedSearch.Json.Text

namespace FeedSearch.Json

/-! ## Tokens -/

/-- Values without parts that are not text. -/
inductive Scalar where
  | null
  | truth (b : Bool)
  | number (n : Num)
  deriving DecidableEq, Repr

def Scalar.found : Scalar → Shape.Found
  | .null => .nothing
  | .truth b => .truth b
  | .number n => n.found

/-- What a strict reader gets from a part of a text, and the fault that a lenient reader sees in
it. -/
structure Content (α : Type) where
  strict : Except Fault α
  lenient : Option Fault

/-- A part in which both readers see the same break. -/
def Content.broken {α : Type} (b : Break) : Content α := ⟨.error b.strict, some b.lenient⟩

inductive Token where
  | openList
  | closeList
  | openObject
  | closeObject
  | comma
  | colon
  | text (s : Content String)
  | plain (v : Content Scalar)
  /-- A character with which no token starts. -/
  | stray

/-- A token that ends the tokens: nothing after it is looked at. -/
def Token.isBroken : Token → Bool
  | .text s => s.lenient.isSome
  | .plain v => v.lenient.isSome
  | .stray => true
  | _ => false

/-- A token and the offsets of its first octet and of the octet after it. -/
structure Lexeme where
  start : Nat
  stop : Nat
  token : Token

/-! ## One token -/

/-- The characters between tokens. -/
def isGap (c : Char) : Bool := c == ' ' || c == '\t' || c == '\n' || c == '\r'

/-- The rest of a word, after its first letter. -/
def scanWord (v : Scalar) (offset : Nat) (word s : List Char) : Token × Nat × List Char :=
  match word, s with
  | [], _ => (.plain ⟨.ok v, none⟩, offset, s)
  | _ :: _, [] => (.plain (.broken (.at .endInValue offset)), offset, [])
  | a :: word, b :: rest =>
    if a == b then scanWord v (offset + 1) word rest
    else (.plain (.broken (.at .wordExpected (offset + 1))), offset, rest)

theorem length_scanWord (v : Scalar) (offset : Nat) (word s : List Char) :
    (scanWord v offset word s).2.2.length ≤ s.length := by
  induction word generalizing offset s with
  | nil => simp [scanWord]
  | cons a word ih =>
    cases s with
    | nil => simp [scanWord]
    | cons b rest =>
      simp only [scanWord]
      split
      · exact Nat.le_succ_of_le (ih ..)
      · simp

/-- A string, after its opening quote. -/
def scanText (offset : Nat) (s : List Char) : Token × Nat × List Char :=
  let strict := (strictText offset s).map String.ofList
  match skipText offset s with
  | .error f => (.text ⟨strict, some f⟩, offset, [])
  | .ok (stop, rest) => (.text ⟨strict, none⟩, stop, rest)

theorem length_scanText (offset : Nat) (s : List Char) :
    (scanText offset s).2.2.length ≤ s.length := by
  simp only [scanText]
  split
  · simp
  · exact Nat.le_of_lt (length_skipText ‹_›)

/-- A number; `s` starts with its sign or its first digit. -/
def scanNumber (offset : Nat) (s : List Char) : Token × Nat × List Char :=
  match scanNumeral offset s with
  | .error b => (.plain (.broken b), offset, [])
  | .ok (n, stop, rest) => (.plain ⟨(n.strict stop).map Scalar.number, none⟩, stop, rest)

theorem length_scanNumber (offset : Nat) (c : Char) (s : List Char) :
    (scanNumber offset (c :: s)).2.2.length ≤ s.length := by
  simp only [scanNumber]
  split
  · simp
  · exact Nat.le_of_lt_succ (length_scanNumeral ‹_›)

/-- The token that starts with `c`, the offset after it and the rest of the text. -/
def scanToken (offset : Nat) (c : Char) (rest : List Char) : Token × Nat × List Char :=
  match c with
  | '[' => (.openList, offset + 1, rest)
  | ']' => (.closeList, offset + 1, rest)
  | '\x7b' => (.openObject, offset + 1, rest)
  | '\x7d' => (.closeObject, offset + 1, rest)
  | ',' => (.comma, offset + 1, rest)
  | ':' => (.colon, offset + 1, rest)
  | '"' => scanText (offset + 1) rest
  | 'n' => scanWord .null (offset + 1) ['u', 'l', 'l'] rest
  | 't' => scanWord (.truth true) (offset + 1) ['r', 'u', 'e'] rest
  | 'f' => scanWord (.truth false) (offset + 1) ['a', 'l', 's', 'e'] rest
  | c =>
    if c == '-' || c.isDigit then scanNumber offset (c :: rest) else (.stray, offset, rest)

theorem length_scanToken (offset : Nat) (c : Char) (s : List Char) :
    (scanToken offset c s).2.2.length ≤ s.length := by
  unfold scanToken
  split <;> try exact Nat.le_refl _
  · exact length_scanText ..
  · exact length_scanWord ..
  · exact length_scanWord ..
  · exact length_scanWord ..
  · split
    · exact length_scanNumber ..
    · exact Nat.le_refl _

/-! ## All tokens -/

/-- The tokens of a text that starts at an offset. -/
def tokensFrom (offset : Nat) (s : List Char) : List Lexeme :=
  match s with
  | [] => []
  | c :: rest =>
    if isGap c then tokensFrom (offset + 1) rest
    else
      let r := scanToken offset c rest
      let lexeme : Lexeme := { start := offset, stop := r.2.1, token := r.1 }
      if r.1.isBroken then [lexeme] else lexeme :: tokensFrom r.2.1 r.2.2
termination_by s.length
decreasing_by
  · simp
  · exact Nat.lt_succ_of_le (length_scanToken ..)

def tokens (text : List Char) : List Lexeme := tokensFrom 0 text

end FeedSearch.Json
