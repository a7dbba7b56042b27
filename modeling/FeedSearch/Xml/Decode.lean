-- Reading an XML tree as data of a known shape, in the order in which the text
-- stands. The first fault on the way is the result.
import FeedSearch.Number.Numeral
import FeedSearch.Xml.Node

namespace FeedSearch.Xml

/-! ## Attributes -/

/-- The text from an offset on with its blanks left out, and the offset of what follows them. -/
def skipGaps (offset : Nat) : List Char → Nat × List Char
  | [] => (offset, [])
  | c :: rest => if isGap c then skipGaps (offset + 1) rest else (offset, c :: rest)

theorem length_skipGaps (offset : Nat) (s : List Char) :
    (skipGaps offset s).2.length ≤ s.length := by
  induction s generalizing offset with
  | nil => simp [skipGaps]
  | cons c rest ih =>
    simp only [skipGaps]
    split
    · exact Nat.le_succ_of_le (ih _)
    · simp

/-- Whether a character ends the name of an attribute. -/
def endsKey (c : Char) : Bool := c == '=' || isGap c

/-- The first fault of the attributes in a tag of `size` octets. `keys` are the names before `s`
with their places. -/
def attributesFault? (size : Nat) (keys : List (List Char × Nat)) (offset : Nat) (s : List Char) :
    Option AttributeFault :=
  match _start : skipGaps offset s with
  | (_, []) => none
  | (keyAt, k :: afterFirst) =>
    let key := k :: afterFirst.takeWhile (!endsKey ·)
    let afterKey := afterFirst.dropWhile (!endsKey ·)
    match _equals : skipGaps (keyAt + Text.Utf8.size key) afterKey with
    | (_, []) => some (.equalsExpected size)
    | (equalsAt, e :: afterEquals) =>
      if e != '=' then some (.equalsExpected equalsAt)
      else
        match keys.lookup key with
        | some first => some (.duplicate keyAt first)
        | none =>
          match _value : skipGaps (equalsAt + 1) afterEquals with
          | (_, []) => some (.valueExpected size)
          | (valueAt, q :: rest) =>
            if q == '"' || q == '\'' then
              match _quote : rest.dropWhile (· != q) with
              | [] => some (.quoteExpected size q)
              | _ :: after =>
                attributesFault? size ((key, keyAt) :: keys)
                  (valueAt + 2 + Text.Utf8.size (rest.takeWhile (· != q))) after
            else some (.notQuoted valueAt)
termination_by s.length
decreasing_by
  have h1 := length_skipGaps offset s
  rw [_start] at h1
  have h2 := (List.dropWhile_sublist (!endsKey ·) (l := afterFirst)).length_le
  have h3 := length_skipGaps (keyAt + Text.Utf8.size key) afterKey
  rw [_equals] at h3
  have h4 := length_skipGaps (equalsAt + 1) afterEquals
  rw [_value] at h4
  have h5 := (List.dropWhile_sublist (· != q) (l := rest)).length_le
  rw [_quote] at h5
  simp only [List.length_cons] at *
  have : afterKey.length ≤ afterFirst.length := h2
  omega

/-- Checks the attributes of a tag; what they say does not matter. -/
def checkAttributes (tag : Tag) : Except Fault Unit :=
  let rest := tag.body.drop tag.name.length
  match attributesFault? (Text.Utf8.size tag.body) [] (Text.Utf8.size tag.name) rest with
  | some f => .error (.markup (.attribute f))
  | none => .ok ()

/-! ## Contents without elements -/

def checkText (content : Except ReferenceFault (List Char)) : Except Fault (List Char) :=
  match content with
  | .ok s => .ok s
  | .error f => .error (.markup (.reference f))

/-- The end of an element, or the break that stands in its place. -/
def checkEnding (name : List Char) : Option Break → Except Fault Unit
  | none => .ok ()
  | some b => .error (b.fault name)

/-- The text of an element that holds nothing else. -/
def readText (name : List Char) (ending : Option Break) : List Node → Except Fault String
  | [] => do
    checkEnding name ending
    return ""
  | .element tag _ _ :: _ => .error (.unexpectedElement (String.ofList tag.name))
  | .text content :: rest => do
    let s ← checkText content
    match rest with
    | .element tag _ _ :: _ => .error (.unexpectedElement (String.ofList tag.name))
    | .text more :: _ => do
      let _ ← checkText more
      .error .textAfterText
    | [] => do
      checkEnding name ending
      return String.ofList s

/-- A count of 64 bits. -/
def readCount (s : String) : Except Fault UInt64 :=
  ((Number.countUpTo Number.maxCount s).mapError .badCount).map Nat.toUInt64

/-! ## Structures -/

/-- A reader of one element: its tag, what it holds, and how it ends. -/
abbrev Reader (α : Type) := Tag → List Node → Option Break → Except Fault α

/-- A field of a structure under construction. The elements of a field that `repeats` stand side by
side. -/
structure Slot (σ : Type) where
  name : String
  repeats : Bool
  title : String
  isFilled : σ → Bool
  fill : σ → Reader σ

/-- A field that is one text. -/
def Slot.text {σ : Type} (name : String) (isFilled : σ → Bool) (set : String → σ → σ) : Slot σ where
  name
  repeats := false
  title := ""
  isFilled
  fill s tag children ending := (readText tag.name ending children).map (set · s)

/-- A field that is one count. -/
def Slot.count {σ : Type} (name : String) (isFilled : σ → Bool) (set : UInt64 → σ → σ) :
    Slot σ where
  name
  repeats := false
  title := ""
  isFilled
  fill s tag children ending := do
    let n ← readCount (← readText tag.name ending children)
    return set n s

/-- The name of a tag without what stands before its first colon. -/
def localName (name : List Char) : List Char :=
  match name.dropWhile (· != ':') with
  | _ :: rest => rest
  | [] => name

/-- Passes over an element. Of all that it holds, only a text at its front is read. Where the
document breaks off inside of it, an element at its front counts as open, deeper ones do not. -/
def skipElement (name : List Char) (ending : Option Break) : List Node → Except Fault Unit
  | .text content :: _ => do
    let _ ← checkText content
    checkEnding name ending
  | .element tag _ inner :: _ => do
    checkEnding tag.name inner
    checkEnding name ending
  | [] => checkEnding name ending

/-- Fills the fields from the children of an element of that name. While the elements of a repeated
field are read, `current` holds their name and the field; no text stands between them. -/
def fillChildren {σ : Type} (slots : List (Slot σ)) (name : List Char) (ending : Option Break)
    (current : Option (List Char × Slot σ)) (s : σ) : List Node → Except Fault σ
  | [] => do
    checkEnding name ending
    return s
  | .text content :: rest => do
    let t ← checkText content
    match current with
    | some (_, slot) =>
      .error (.shape (.wrongType (.text (String.ofList t)) slot.title))
    | none => fillChildren slots name ending none s rest
  | .element tag children inner :: rest =>
    match current.filter (·.1 == tag.name) with
    | some (_, slot) => do
      fillChildren slots name ending current (← slot.fill s tag children inner) rest
    | none =>
      match slots.find? (·.name.toList == localName tag.name) with
      | none => do
        skipElement tag.name inner children
        fillChildren slots name ending none s rest
      | some slot =>
        if slot.isFilled s then .error (.shape (.duplicateField slot.name))
        else do
          let current := if slot.repeats then some (tag.name, slot) else none
          fillChildren slots name ending current (← slot.fill s tag children inner) rest

/-- Reads an element as a structure. -/
def readStruct {σ : Type} (slots : List (Slot σ)) (empty : σ) : Reader σ :=
  fun tag children ending => do
    checkAttributes tag
    fillChildren slots tag.name ending none empty children

/-! ## Documents -/

/-- Reads the first element of a document, whatever its name; nothing but markup stands before it,
and what follows it is not looked at. -/
def readRoot {α : Type} (title : String) (read : Reader α) (document : Document) : Except Fault α :=
  match document.nodes with
  | .element tag children ending :: _ => read tag children ending
  | .text content :: _ => do
    let s ← checkText content
    .error (.shape (.wrongType (.text (String.ofList s)) title))
  | [] =>
    match document.ending with
    | .ended => .error .unexpectedEnd
    | .markup f => .error (.markup f)

end FeedSearch.Xml
