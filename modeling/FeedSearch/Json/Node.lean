-- A JSON text as a tree. The tree holds all that could be read, up to the place
-- where the text breaks off, and says for every part where it stands.
import FeedSearch.Json.Token

namespace FeedSearch.Json

/-! ## The tree -/

/-- The name of a member. -/
structure Key where
  start : Nat
  stop : Nat
  name : Except Fault String

/-- How a list or an object ends. -/
inductive Ending where
  | closed (stop : Nat)
  | broken (b : Break)

inductive Node where
  | text (start stop : Nat) (s : Content String)
  | plain (start stop : Nat) (v : Content Scalar)
  | list (start : Nat) (items : List Node) (ending : Ending)
  | object (start : Nat) (members : List (Key × Node)) (ending : Ending)
  /-- A value was due and there is none. -/
  | absent (b : Break)

/-- A text as one tree, and the fault of what follows it. -/
structure Document where
  root : Node
  trailing : Option Fault

def Ending.lenientFault? : Ending → Option Fault
  | .closed _ => none
  | .broken b => some b.lenient

/-- The fault that a lenient reader sees in a node. A text breaks off once, so a list or an object
is broken exactly if its ending is. -/
def Node.lenientFault? : Node → Option Fault
  | .text _ _ s => s.lenient
  | .plain _ _ v => v.lenient
  | .list _ _ ending => ending.lenientFault?
  | .object _ _ ending => ending.lenientFault?
  | .absent b => some b.lenient

def Ending.stop : Ending → Nat
  | .closed stop => stop
  | .broken b => b.strict.offset

/-- The offset after a node. -/
def Node.stop : Node → Nat
  | .text _ stop _ => stop
  | .plain _ stop _ => stop
  | .list _ _ ending => ending.stop
  | .object _ _ ending => ending.stop
  | .absent b => b.strict.offset

/-! ## Building -/

/-- A list or an object that waits for a value. Its parts so far stand latest first. -/
inductive Frame where
  | list (start : Nat) (items : List Node)
  | member (start : Nat) (members : List (Key × Node)) (key : Key)

/-- What has been read, and with that what may come next. -/
inductive State where
  | value (frames : List Frame)
  | listStart (start : Nat) (frames : List Frame)
  | listComma (start : Nat) (items : List Node) (frames : List Frame)
  | afterItem (start : Nat) (items : List Node) (frames : List Frame)
  | objectStart (start : Nat) (frames : List Frame)
  | objectComma (start : Nat) (members : List (Key × Node)) (frames : List Frame)
  | afterKey (start : Nat) (members : List (Key × Node)) (key : Key) (frames : List Frame)
  | afterMember (start : Nat) (members : List (Key × Node)) (frames : List Frame)
  | finished (root : Node)
  | halted (document : Document)

namespace State

/-- Gives a value to the frame that waits for it. -/
def put (node : Node) : List Frame → State
  | [] => .finished node
  | .list start items :: frames => .afterItem start (node :: items) frames
  | .member start members key :: frames => .afterMember start ((key, node) :: members) frames

/-- The tree around the node in which the text breaks off. -/
def abandon (b : Break) (node : Node) : List Frame → Node
  | [] => node
  | .list start items :: frames =>
    abandon b (.list start (node :: items).reverse (.broken b)) frames
  | .member start members key :: frames =>
    abandon b (.object start ((key, node) :: members).reverse (.broken b)) frames

/-- The document that breaks off in a node. -/
def breakAt (b : Break) (node : Node) (frames : List Frame) : Document :=
  { root := abandon b node frames, trailing := none }

/-- Breaks off where a value is due. -/
def breakAbsent (b : Break) (frames : List Frame) : Document := breakAt b (.absent b) frames

def breakList (b : Break) (start : Nat) (items : List Node) (frames : List Frame) : Document :=
  breakAt b (.list start items.reverse (.broken b)) frames

def breakObject (b : Break) (start : Nat) (members : List (Key × Node)) (frames : List Frame) :
    Document :=
  breakAt b (.object start members.reverse (.broken b)) frames

/-- A value without parts: reading goes on after it unless it is broken. -/
def leaf {α : Type} (node : Node) (content : Content α) (frames : List Frame) : State :=
  match content.lenient with
  | none => put node frames
  | some f => .halted (breakAt ⟨f, f⟩ node frames)

/-- The token at which a value is due. -/
def valueToken (frames : List Frame) (l : Lexeme) : State :=
  match l.token with
  | .openList => .listStart l.start frames
  | .openObject => .objectStart l.start frames
  | .text s => leaf (.text l.start l.stop s) s frames
  | .plain v => leaf (.plain l.start l.stop v) v frames
  | _ => .halted (breakAbsent (.at .valueExpected (l.start + 1)) frames)

/-- The token at which a key is due. -/
def keyToken (start : Nat) (members : List (Key × Node)) (frames : List Frame) (l : Lexeme) :
    State :=
  match l.token with
  | .text s =>
    let key : Key := { start := l.start, stop := l.stop, name := s.strict }
    match s.lenient with
    | none => .afterKey start members key frames
    | some f => .halted (breakAbsent ⟨f, f⟩ (.member start members key :: frames))
  | _ => .halted (breakObject (.at .keyNotString (l.start + 1)) start members frames)

/-- The state after one more token. -/
def next (state : State) (l : Lexeme) : State :=
  let after := l.start + 1
  match state with
  | .value frames => valueToken frames l
  | .listStart start frames =>
    match l.token with
    | .closeList => put (.list start [] (.closed l.stop)) frames
    | _ => valueToken (.list start [] :: frames) l
  | .listComma start items frames =>
    match l.token with
    | .closeList =>
      let absent : Break := ⟨⟨.trailingComma, after⟩, ⟨.valueExpected, after⟩⟩
      .halted (breakAbsent absent (.list start items :: frames))
    | _ => valueToken (.list start items :: frames) l
  | .afterItem start items frames =>
    match l.token with
    | .comma => .listComma start items frames
    | .closeList => put (.list start items.reverse (.closed l.stop)) frames
    | _ => .halted (breakList (.at .listEndExpected after) start items frames)
  | .objectStart start frames =>
    match l.token with
    | .closeObject => put (.object start [] (.closed l.stop)) frames
    | _ => keyToken start [] frames l
  | .objectComma start members frames =>
    match l.token with
    | .closeObject =>
      .halted (breakObject ⟨⟨.trailingComma, after⟩, ⟨.keyNotString, after⟩⟩ start members frames)
    | _ => keyToken start members frames l
  | .afterKey start members key frames =>
    match l.token with
    | .colon => .value (.member start members key :: frames)
    | _ => .halted (breakAbsent (.at .colonExpected after) (.member start members key :: frames))
  | .afterMember start members frames =>
    match l.token with
    | .comma => .objectComma start members frames
    | .closeObject => put (.object start members.reverse (.closed l.stop)) frames
    | _ => .halted (breakObject (.at .objectEndExpected after) start members frames)
  | .finished root => .halted { root, trailing := some ⟨.trailingCharacters, after⟩ }
  | .halted document => .halted document

/-- The document of a text of so many octets, when its tokens are used up. -/
def finish (size : Nat) : State → Document
  | .finished root => { root, trailing := none }
  | .halted document => document
  | .value frames => breakAbsent (.at .endInValue size) frames
  | .listStart start frames => breakList (.at .endInList size) start [] frames
  | .listComma start items frames =>
    breakAbsent (.at .endInValue size) (.list start items :: frames)
  | .afterItem start items frames => breakList (.at .endInList size) start items frames
  | .objectStart start frames => breakObject (.at .endInObject size) start [] frames
  | .objectComma start members frames =>
    breakObject ⟨⟨.endInValue, size⟩, ⟨.endInObject, size⟩⟩ start members frames
  | .afterKey start members key frames =>
    breakAbsent (.at .endInObject size) (.member start members key :: frames)
  | .afterMember start members frames =>
    breakObject (.at .endInObject size) start members frames

end State

/-- The tree of a text. -/
def Document.ofText (text : List Char) : Document :=
  ((tokens text).foldl State.next (.value [])).finish (Text.Utf8.size text)

end FeedSearch.Json
