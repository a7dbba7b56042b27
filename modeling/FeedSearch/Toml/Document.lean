-- TOML documents: the tokens read as values, keys and headers, line by line.
import FeedSearch.Toml.Scalar
import FeedSearch.Toml.Token

namespace FeedSearch.Toml

/-! ## Gaps -/

def skipGaps : List Token → List Token
  | .gap _ :: ts => skipGaps ts
  | ts => ts

/-- Skips gaps and line ends. -/
def skipLines : List Token → List Token
  | .gap _ :: ts => skipLines ts
  | .lineEnd :: ts => skipLines ts
  | ts => ts

/-! ## Keys -/

/-- The deepest nesting of lists and tables in place, and the most names in one key. -/
def maxDepth : Nat := 80

/-- A name without quotes. -/
def isBareName (s : List Char) : Bool := s.all fun c => c.isAlphanum || c == '_' || c == '-'

/-- A name of a key. -/
def keyName? : Token → Option String
  | .word s => if isBareName s then some (String.ofList s) else none
  | .text s false => some s
  | _ => none

/-- Names with dots between them; those before stand latest first. `isDue` says that a name must
follow. Gives the path, the last name, and the rest. -/
def readKeyFrom (before : List String) (isDue : Bool) :
    List Token → Option (List String × String × List Token)
  | .gap _ :: ts => readKeyFrom before isDue ts
  | .dot :: ts => if isDue then none else readKeyFrom before true ts
  | t :: ts =>
    if isDue then
      match keyName? t with
      | some name => readKeyFrom (name :: before) false ts
      | none => none
    else
      match before with
      | name :: path => some (path.reverse, name, t :: ts)
      | [] => none
  | [] =>
    match isDue, before with
    | false, name :: path => some (path.reverse, name, [])
    | _, _ => none

/-- A key of not too many names. -/
def readKey (ts : List Token) : Option (List String × String × List Token) :=
  (readKeyFrom [] true ts).filter fun (path, _) => path.length < maxDepth

/-! ## Values -/

/-- The characters of words and dots. -/
def wordChars : List Token → List Char × List Token
  | .word s :: ts =>
    let (more, rest) := wordChars ts
    (s ++ more, rest)
  | .dot :: ts =>
    let (more, rest) := wordChars ts
    ('.' :: more, rest)
  | ts => ([], ts)

/-- Whether the next characters go on with a time of day. -/
def startsTime (ts : List Token) : Bool :=
  match ts with
  | .word (c :: _) :: _ => c.isDigit
  | _ => false

/-- A value without parts. One space may stand between a date and a time of day. -/
def readScalar (ts : List Token) : Option (Value × List Token) :=
  let (first, rest) := wordChars ts
  match rest with
  | .gap true :: more =>
    if ((Time.date? first).map (·.2)) == some [] && startsTime more then
      let (second, rest) := wordChars more
      (scalar? (first ++ ' ' :: second)).map (·, rest)
    else (scalar? first).map (·, rest)
  | rest => (scalar? first).map (·, rest)

mutual

/-- A value, from the front; lists and tables in it may be nested so deep. The first number bounds
the steps, of which no more are taken than there are tokens. -/
def readValue : Nat → Nat → List Token → Option (Value × List Token)
  | 0, _, _ => none
  | steps + 1, depth, ts =>
    match ts, depth with
    | .text s _ :: rest, _ => some (.text s, rest)
    | .openList :: rest, depth + 1 => readItems steps depth [] rest
    | .openTable :: rest, depth + 1 => readMembers steps depth [] rest
    | ts, _ => readScalar ts

/-- The items of a list after those before, which stand latest first. -/
def readItems : Nat → Nat → List Value → List Token → Option (Value × List Token)
  | 0, _, _, _ => none
  | steps + 1, depth, before, ts =>
    match skipLines ts with
    | .closeList :: rest => some (.list false before.reverse, rest)
    | ts => do
      let (v, ts) ← readValue steps depth ts
      match skipLines ts with
      | .comma :: rest => readItems steps depth (v :: before) rest
      | .closeList :: rest => some (.list false (v :: before).reverse, rest)
      | _ => none

/-- The members of a table in place, after those before. -/
def readMembers : Nat → Nat → Members → List Token → Option (Value × List Token)
  | 0, _, _, _ => none
  | steps + 1, depth, before, ts =>
    match skipLines ts with
    | .closeTable :: rest => some (.table .inline before, rest)
    | ts => do
      let (path, key, ts) ← readKey ts
      match ts with
      | .equals :: ts => do
        let (v, ts) ← readValue steps depth (skipGaps ts)
        let ms ← Members.assign path key v .header before
        match skipLines ts with
        | .comma :: rest => readMembers steps depth ms rest
        | .closeTable :: rest => some (.table .inline ms, rest)
        | _ => none
      | _ => none

end

/-! ## Lines -/

/-- A line: nothing, a header, a header of a list, or a key with its value. -/
inductive Line where
  | header (path : List String) (key : String)
  | element (path : List String) (key : String)
  | entry (path : List String) (key : String) (value : Value)

/-- A line from the front, blank lines before it left out, and what follows it. -/
def readLine (ts : List Token) : Option (Line × List Token) :=
  match ts with
  | .openList :: .openList :: ts => do
    let (path, key, ts) ← readKey ts
    match ts with
    | .closeList :: .closeList :: ts => some (.element path key, ts)
    | _ => none
  | .openList :: ts => do
    let (path, key, ts) ← readKey ts
    match ts with
    | .closeList :: ts => some (.header path key, ts)
    | _ => none
  | ts => do
    let (path, key, ts) ← readKey ts
    match ts with
    | .equals :: ts => do
      let (v, ts) ← readValue ts.length maxDepth (skipGaps ts)
      some (.entry path key v, ts)
    | _ => none

/-- The lines of a text. The number bounds the lines, of which there are no more than tokens. -/
def readLines : Nat → List Token → Option (List Line)
  | 0, ts => if (skipLines ts).isEmpty then some [] else none
  | n + 1, ts =>
    match skipLines ts with
    | [] => some []
    | ts => do
      let (line, ts) ← readLine ts
      match skipGaps ts with
      | [] => some [line]
      | .lineEnd :: ts => do
        let lines ← readLines n ts
        return line :: lines
      | _ => none

/-! ## Documents -/

/-- A document under construction: its members, and the place to which entries go. -/
structure Draft where
  members : Members
  place : List String

/-- Adds a line. -/
def Draft.add (d : Draft) : Line → Option Draft
  | .header path key => do
    let members ← Members.openTable path key .header d.members
    return { members, place := path ++ [key] }
  | .element path key => do
    let members ← Members.openElement path key .header d.members
    return { members, place := path ++ [key] }
  | .entry path key v => do
    let members ← Members.changeAt false (Members.assign path key v) d.place .header d.members
    return { d with members }

/-- The members of a document, or nothing if the text is no document. -/
def document? (text : String) : Option Members := do
  let ts ← tokensOf text
  let lines ← readLines ts.length ts
  let d ← lines.foldlM Draft.add { members := [], place := [] }
  return d.members

end FeedSearch.Toml
