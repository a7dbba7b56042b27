-- Runs of text in XML: neighbouring pieces are one text, and the references in
-- them are read.
import FeedSearch.Text.Utf8
import FeedSearch.Xml.Event

namespace FeedSearch.Xml

/-! ## References -/

/-- The five names that every document knows. -/
def knownReference? : List Char → Option Char
  | ['l', 't'] => some '<'
  | ['g', 't'] => some '>'
  | ['a', 'm', 'p'] => some '&'
  | ['a', 'p', 'o', 's'] => some '\''
  | ['q', 'u', 'o', 't'] => some '"'
  | _ => none

/-- A number of 32 bits in a base, without a sign. -/
def referenceNumber (base : Nat) (digits : List Char) : Except CharacterFault Nat :=
  match digits with
  | [] => .error (.numeral .empty)
  | '+' :: _ => .error .signed
  | '-' :: _ => .error .signed
  | _ => (Number.appendDigits base Number.maxCount32 0 digits).mapError .numeral

/-- The character of a number; zero and numbers that are no character are refused. -/
def numberedCharacter (n : Nat) : Except CharacterFault Char :=
  if n == 0 then .error .zero
  else if n.isValidChar then .ok (Char.ofNat n)
  else .error (.noCharacter n)

/-- The body of a reference, between `&` and `;`, which stand around octets `start` to `stop`. -/
def readReference (start stop : Nat) (body : List Char) : Except ReferenceFault Char :=
  match body with
  | '#' :: 'x' :: digits => numbered 16 digits
  | '#' :: digits => numbered 10 digits
  | _ =>
    match knownReference? body with
    | some c => .ok c
    | none => .error (.unknown start stop (String.ofList body))
where
  numbered (base : Nat) (digits : List Char) : Except ReferenceFault Char :=
    (referenceNumber base digits >>= numberedCharacter).mapError .badNumber

/-- The text with its references read. `offset` is the place of `s` in a text of `size` octets. -/
def unescapeFrom (size offset : Nat) (s : List Char) : Except ReferenceFault (List Char) :=
  match s with
  | [] => .ok []
  | c :: rest =>
    if c == '&' then
      let body := rest.takeWhile fun d => d != ';' && d != '&'
      match _ends : rest.dropWhile fun d => d != ';' && d != '&' with
      | ';' :: after =>
        match readReference (offset + 1) (offset + 1 + Text.Utf8.size body) body with
        | .error f => .error f
        | .ok d => (unescapeFrom size (offset + Text.Utf8.size body + 2) after).map (d :: ·)
      | _ => .error (.unterminated offset size)
    else (unescapeFrom size (offset + c.utf8Size) rest).map (c :: ·)
termination_by s.length
decreasing_by
  · have h := (List.dropWhile_sublist (fun d => d != ';' && d != '&') (l := rest)).length_le
    rw [_ends] at h
    simp only [List.length_cons] at h ⊢
    omega
  · simp

def unescape (raw : List Char) : Except ReferenceFault (List Char) :=
  unescapeFrom (Text.Utf8.size raw) 0 raw

/-! ## Runs -/

/-- What a reader of a document meets: tags, and whole runs of text. -/
inductive Step where
  | opening (tag : Tag)
  | closing (name : List Char)
  | text (content : Except ReferenceFault (List Char))
  | broken (f : MarkupFault)
  deriving Repr

/-- The content of a piece of text that is the last of its run, or not. The blanks at the end of a
run are left out, except in literal text. -/
def pieceContent (isLast : Bool) : Event → Except ReferenceFault (List Char)
  | .text raw => unescape (if isLast then dropGapsAtEnd raw else raw)
  | .literal raw => .ok raw
  | _ => .ok []

/-- The content of a run: the first fault in it counts. -/
def runContent : List Event → Except ReferenceFault (List Char)
  | [] => .ok []
  | [piece] => pieceContent true piece
  | piece :: rest => do
    let head ← pieceContent false piece
    let tail ← runContent rest
    return head ++ tail

/-- A run that is nothing but one piece of blanks is no text. -/
def isBlankRun : List Event → Bool
  | [.text raw] => (dropGapsAtEnd raw).isEmpty
  | _ => false

/-- The run of text that has been met, as a step, before further steps. -/
def closeRun (run : List Event) (steps : List Step) : List Step :=
  match run with
  | [] => steps
  | _ => if isBlankRun run.reverse then steps else .text (runContent run.reverse) :: steps

/-- The steps of events; `run` holds the pieces of text just met, latest first. -/
def stepsFrom (run : List Event) : List Event → List Step
  | [] => closeRun run []
  | e :: rest =>
    match e with
    | .text _ => stepsFrom (e :: run) rest
    | .literal _ => stepsFrom (e :: run) rest
    | .opening tag => closeRun run (.opening tag :: stepsFrom [] rest)
    | .closing name => closeRun run (.closing name :: stepsFrom [] rest)
    | .doctype => closeRun run (stepsFrom [] rest)
    | .broken f => closeRun run (.broken f :: stepsFrom [] rest)

def steps (text : List Char) : List Step := stepsFrom [] (events text)

end FeedSearch.Xml
