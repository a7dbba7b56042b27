-- Files of variables: lines with a name and a value each. A file gives an
-- environment the variables that it does not have yet.
import FeedSearch.Config.Load
import FeedSearch.Text.Alphanumeric

namespace FeedSearch.Config.VariableFile

/-! ## Lines -/

/-- Where a line stands at a character: outside of all marks, right after a first blank, behind a
backslash, or between marks of one kind or the other, there behind a backslash perhaps. -/
inductive Place where
  | plain
  | blank
  | escape
  | strong (isEscaped : Bool)
  | weak (isEscaped : Bool)
  deriving DecidableEq, Repr

namespace Place

/-- The place after a character that may open something. -/
def opened (c : Char) : Place :=
  match c with
  | '\\' => .escape
  | '"' => .weak false
  | '\'' => .strong false
  | _ => .plain

def isLineBlank (c : Char) : Bool := Text.isBlank c && c != '\n' && c != '\r'

/-- The place after one more character. -/
def next (p : Place) (c : Char) : Place :=
  match p with
  | .plain => if isLineBlank c then .blank else opened c
  | .blank => opened c
  | .escape => .plain
  | .strong true => .strong false
  | .strong false => if c == '\'' then .plain else .strong (c == '\\')
  | .weak true => .weak false
  | .weak false => if c == '"' then .plain else .weak (c == '\\')

end Place

/-- The characters of a line up to a comment, and the place at the end. -/
def beforeComment (p : Place) : List Char → List Char × Place
  | [] => ([], p)
  | c :: rest =>
    if p == .blank && c == '#' then ([], .plain)
    else
      let (kept, last) := beforeComment (p.next c) rest
      (c :: kept, last)

/-- The lines of a text, each with its end. -/
def linesOf : List Char → List (List Char)
  | [] => []
  | c :: rest =>
    if c == '\n' then [c] :: linesOf rest
    else
      match linesOf rest with
      | [] => [[c]]
      | line :: lines => (c :: line) :: lines

/-- Joins lines that end inside of marks with those after them. What is held belongs to a line that
goes on; nothing stands for a line that never ends. -/
def joinLines (held : List Char) (p : Place) : List (List Char) → List (Option (List Char))
  | [] => if p == .plain then [] else [none]
  | line :: lines =>
    if (Text.trimStart (held ++ line)).head? == some '#' then joinLines [] .plain lines
    else
      let (kept, last) := beforeComment p line
      if last == .plain then some (held ++ kept) :: joinLines [] .plain lines
      else joinLines (held ++ kept) last lines

/-! ## Names -/

def isNameStart (c : Char) : Bool := c.isAlpha || c == '_'

def isNameChar (c : Char) : Bool := c.isAlphanum || c == '_' || c == '.'

/-- A name from the front, and what follows it and the blanks after it. -/
def readName (s : List Char) : Option (String × List Char) :=
  if s.head?.any isNameStart then
    some (String.ofList (s.takeWhile isNameChar), Text.trimStart (s.dropWhile isNameChar))
  else none

/-- What follows an equals sign. -/
def afterEquals : List Char → Option (List Char)
  | '=' :: rest => some rest
  | _ => none

/-- The name of a line, behind the word that exports it perhaps, and what follows the equals
sign. -/
def readAssignment (s : List Char) : Option (String × List Char) := do
  let (name, rest) ← readName s
  if name == "export" && (afterEquals rest).isNone then
    let (name, rest) ← readName rest
    return (name, ← afterEquals rest)
  else return (name, ← afterEquals rest)

/-! ## Values -/

/-- The marks around a part of a value. -/
inductive Marks where
  | none
  | strong
  | weak
  deriving DecidableEq, Repr

/-- The name of a variable that is to be put in, so far; in braces or not. -/
structure Insertion where
  isBraced : Bool
  name : List Char
  deriving DecidableEq, Repr

/-- A value as far as it has been read. -/
structure Draft where
  text : List Char
  marks : Marks
  isEscaped : Bool
  insertion : Option Insertion
  isOver : Bool
  deriving DecidableEq, Repr

namespace Draft

def empty : Draft := ⟨[], .none, false, none, false⟩

def push (d : Draft) (c : Char) : Draft := { d with text := d.text ++ [c] }

/-- Puts in the value of a variable; there is nothing to put in for a name without a value. -/
def insert (d : Draft) (env : Environment) (name : List Char) : Draft :=
  { d with text := d.text ++ ((env (String.ofList name)).getD "").toList, insertion := none }

/-- The character behind a backslash. -/
def escaped? : Char → Option Char
  | 'n' => some '\n'
  | c => if ['\\', '\'', '"', '$', ' '].contains c then some c else none

/-- One more character while a name is read. What ends a bare name belongs to the value, whatever
it is. -/
def stepName (d : Draft) (env : Environment) (i : Insertion) (c : Char) : Draft :=
  if i.isBraced then
    if c == '\x7d' then d.insert env i.name
    else { d with insertion := some { i with name := i.name ++ [c] } }
  else if Text.isAlphanumeric c then
    { d with insertion := some { i with name := i.name ++ [c] } }
  else if c == '\x7b' && i.name.isEmpty then { d with insertion := some ⟨true, []⟩ }
  else if c == '$' then { d.insert env i.name with insertion := some ⟨false, []⟩ }
  else (d.insert env i.name).push c

/-- One more character outside of single marks. -/
def stepOpen (d : Draft) (c : Char) : Draft :=
  if c == '$' then { d with insertion := some ⟨false, []⟩ }
  else if c == '\\' then { d with isEscaped := true }
  else if c == '"' then { d with marks := if d.marks == .weak then .none else .weak }
  else if d.marks == .weak then d.push c
  else if c == '\'' then { d with marks := .strong }
  else if c == ' ' || c == '\t' then { d with isOver := true }
  else d.push c

/-- One more character. -/
def step (d : Draft) (env : Environment) (c : Char) : Option Draft :=
  if d.isOver then if c == ' ' || c == '\t' then some d else none
  else if d.isEscaped then (escaped? c).map fun c => { d.push c with isEscaped := false }
  else if d.marks == .strong then
    some (if c == '\'' then { d with marks := .none } else d.push c)
  else
    match d.insertion with
    | some i => some (d.stepName env i c)
    | none => some (d.stepOpen c)

/-- The value, if it is complete. -/
def finish (d : Draft) (env : Environment) : Option String :=
  match d.marks, d.insertion with
  | .none, none => some (String.ofList d.text)
  | .none, some ⟨false, name⟩ => some (String.ofList (d.insert env name).text)
  | _, _ => none

end Draft

/-- Reads the characters of a value; a comment may follow it. -/
def readValueFrom (env : Environment) (d : Draft) : List Char → Option String
  | [] => d.finish env
  | c :: rest =>
    if d.isOver && c == '#' then d.finish env
    else
      match d.step env c with
      | none => none
      | some d => readValueFrom env d rest

/-! ## Entries -/

/-- What a line says. -/
inductive Entry where
  | nothing
  | variable (name value : String)
  | unreadable
  deriving DecidableEq, Repr

/-- The entry of a line without its comment. A number sign at the start of a value leaves it
empty. -/
def readEntry (env : Environment) (line : List Char) : Entry :=
  let s := Text.trimChars line
  if s.isEmpty || s.head? == some '#' then .nothing
  else
    match readAssignment s with
    | none => .unreadable
    | some (name, rest) =>
      let rest := Text.trimStart rest
      let value := if rest.head? == some '#' then some "" else readValueFrom env .empty rest
      match value with
      | some value => .variable name value
      | none => .unreadable

/-- The environment with a variable that it keeps if it has it. No environment can take a value that
holds the character zero: nothing stands for the crash of who tries. -/
def withDefault (env : Environment) (name value : String) : Option Environment :=
  if (env name).isSome then some env
  else if value.contains '\x00' then none
  else some fun n => if n == name then some value else env n

/-- Adds the variables of lines, up to a line that cannot be read. -/
def addLines (env : Environment) : List (Option (List Char)) → Option Environment
  | [] => some env
  | none :: _ => some env
  | some line :: lines =>
    match readEntry env line with
    | .nothing => addLines env lines
    | .variable name value =>
      match withDefault env name value with
      | some env => addLines env lines
      | none => none
    | .unreadable => some env

/-- Adds the variables of a text. A mark of its order at the start is no part of it. -/
def addText (env : Environment) (text : String) : Option Environment :=
  let s := match text.toList with
    | '\uFEFF' :: rest => rest
    | s => s
  addLines env (joinLines [] .plain (linesOf s))

/-- The name of the file of variables. -/
def fileName : String := ".env"

/-- Adds the variables of the file, if there is one. -/
def extend (env : Environment) (files : Files) : Option Environment :=
  match files.read fileName with
  | .ok text => addText env text
  | .error _ => some env

end FeedSearch.Config.VariableFile
