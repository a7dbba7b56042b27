-- Faults of a JSON text: what is wrong and after how many octets it shows.
import FeedSearch.Shape.Mismatch

namespace FeedSearch.Json

/-! ## Causes -/

/-- What is wrong with a text that is read as JSON of some shape. -/
inductive Cause where
  | endInValue
  | endInList
  | endInObject
  | endInString
  | valueExpected
  | wordExpected
  | colonExpected
  | listEndExpected
  | objectEndExpected
  | trailingComma
  | trailingCharacters
  | keyNotString
  | badNumber
  | numberTooLarge
  | badEscape
  | loneSurrogate
  | escapePairExpected
  | controlCharacter
  | tooDeep
  | mismatch (m : Shape.Mismatch)
  deriving DecidableEq, Repr

def Cause.message : Cause → String
  | .endInValue => "EOF while parsing a value"
  | .endInList => "EOF while parsing a list"
  | .endInObject => "EOF while parsing an object"
  | .endInString => "EOF while parsing a string"
  | .valueExpected => "expected value"
  | .wordExpected => "expected ident"
  | .colonExpected => "expected `:`"
  | .listEndExpected => "expected `,` or `]`"
  | .objectEndExpected => "expected `,` or `\x7d`"
  | .trailingComma => "trailing comma"
  | .trailingCharacters => "trailing characters"
  | .keyNotString => "key must be a string"
  | .badNumber => "invalid number"
  | .numberTooLarge => "number out of range"
  | .badEscape => "invalid escape"
  | .loneSurrogate => "lone leading surrogate in hex escape"
  | .escapePairExpected => "unexpected end of hex escape"
  | .controlCharacter => "control character (\\u0000-\\u001F) found while parsing a string"
  | .tooDeep => "recursion limit exceeded"
  | .mismatch m => m.message .data

/-- A text may end too early, may not be JSON, or may be JSON of another shape. -/
inductive Category where
  | ending
  | form
  | shape
  deriving DecidableEq, Repr

def Cause.category : Cause → Category
  | .endInValue => .ending
  | .endInList => .ending
  | .endInObject => .ending
  | .endInString => .ending
  | .mismatch _ => .shape
  | _ => .form

/-! ## Places -/

/-- A cause, and the octets that had been read when it showed. -/
structure Fault where
  cause : Cause
  offset : Nat
  deriving DecidableEq, Repr

/-- A line, counted from one, and the octets before a place on it. -/
structure Place where
  line : Nat
  column : Nat
  deriving DecidableEq, Repr

/-- The line that holds an offset and the offset at which it starts. `here` is the offset of the
text `s`, and `line` starts at `start`. -/
def lineAt (offset here line start : Nat) : List Char → Nat × Nat
  | [] => (line, start)
  | c :: rest =>
    let next := here + c.utf8Size
    if offset < next then (line, start)
    else if c == '\n' then lineAt offset next (line + 1) next rest
    else lineAt offset next line start rest

/-- The place of an offset in a text. -/
def placeAt (text : List Char) (offset : Nat) : Place :=
  let (line, start) := lineAt offset 0 1 0 text
  { line, column := offset - start }

/-- The message of a fault with its place in the text. -/
def Fault.messageIn (text : List Char) (f : Fault) : String :=
  let place := placeAt text f.offset
  f.cause.message ++ " at line " ++ toString place.line ++ " column " ++ toString place.column

/-- A place where reading breaks off. A strict reader wants the value; a lenient reader only wants
to get past it, and may see the fault elsewhere. -/
structure Break where
  strict : Fault
  lenient : Fault
  deriving DecidableEq, Repr

/-- A break at which both readers see the same fault. -/
def Break.at (cause : Cause) (offset : Nat) : Break := ⟨⟨cause, offset⟩, ⟨cause, offset⟩⟩

end FeedSearch.Json
